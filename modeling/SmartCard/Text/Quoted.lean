import SmartCard.Text.Printable

/-!
# Quoted characters and texts

Error messages show a character between single quotes and a name between double quotes. The mark
that delimits the literal and the backslash are escaped with a backslash, five control characters
have letters of their own, and every other character without a picture is written by its number
in lower-case hexadecimal between braces.
-/

set_option autoImplicit false
set_option relaxedAutoImplicit false

namespace SmartCard.Text

/-- The number of a character as an escape, such as the one of the delete character, `7f`. -/
def numberEscape (character : Char) : List Char :=
  ['\\', 'u', '\x7b'] ++ Nat.toDigits 16 character.toNat ++ ['\x7d']

/-- A character as it stands inside a literal delimited by `mark`. -/
def escape (mark character : Char) : List Char :=
  if character = mark ∨ character = '\\' then ['\\', character]
  else if character = '\x00' then ['\\', '0']
  else if character = '\t' then ['\\', 't']
  else if character = '\r' then ['\\', 'r']
  else if character = '\n' then ['\\', 'n']
  else if isPlain character then [character]
  else numberEscape character

/-- A character between single quotes. -/
def quotedChar (character : Char) : String :=
  String.ofList ('\'' :: escape '\'' character ++ ['\''])

/-- A text between double quotes. -/
def quoted (text : String) : String :=
  String.ofList ('"' :: text.toList.flatMap (escape '"') ++ ['"'])

end SmartCard.Text
