/-!
# The tokens of JSON text

A text is cut into tokens by one pass over its characters. Numbers keep what a reader of whole
numbers needs to know: whether they are plain digits, plain digits behind a minus sign, or written
with a fraction or an exponent, and their value as far as words go. A string whose escapes leave a
surrogate alone is no text and becomes `Token.text none`: a reader that skips the string may accept
it all the same.
-/

set_option autoImplicit false
set_option relaxedAutoImplicit false

namespace SmartCard.Json

/-- A number by the form in which it is written. -/
inductive Number where
  | natural (value : Nat)
  | negative (magnitude : Nat)
  | fractional
  deriving DecidableEq, Repr

inductive Token where
  | arrayOpen
  | arrayClose
  | objectOpen
  | objectClose
  | comma
  | colon
  | null
  | boolean (value : Bool)
  | number (value : Number)
  | text (value : Option String)
  deriving DecidableEq, Repr

/-! ### Numbers -/

/-- The value of all numbers that do not fit a word of 64 bits. -/
def valueLimit : Nat := 0x10000000000000000

/-- Whether there are characters and all are decimal digits. -/
def isDigits (characters : List Char) : Bool :=
  !characters.isEmpty && characters.all Char.isDigit

/-- The value of a list of decimal digits up to the limit, `none` if it is empty or holds anything
else. -/
def natural? (characters : List Char) : Option Nat :=
  if isDigits characters then
    some (characters.foldl
      (fun value character ↦ min (value * 10 + (character.toNat - 48)) valueLimit) 0)
  else none

/-- Whole parts have no superfluous zero in front. -/
def whole? (characters : List Char) : Option Nat :=
  if characters.head? = some '0' && characters.length ≠ 1 then none else natural? characters

/-- Whether the characters behind the whole part are a fraction, an exponent, or both. -/
def isTail (characters : List Char) : Bool :=
  let exponent (rest : List Char) : Bool :=
    match rest with
    | [] => true
    | mark :: '+' :: power => (mark == 'e' || mark == 'E') && isDigits power
    | mark :: '-' :: power => (mark == 'e' || mark == 'E') && isDigits power
    | mark :: power => (mark == 'e' || mark == 'E') && isDigits power
  match characters with
  | '.' :: rest =>
    !(rest.takeWhile Char.isDigit).isEmpty && exponent (rest.dropWhile Char.isDigit)
  | rest => exponent rest

/-- A number from all its characters. -/
def Number.ofChars? (characters : List Char) : Option Number := do
  let (minus, unsigned) := match characters with
    | '-' :: rest => (true, rest)
    | rest => (false, rest)
  let value ← whole? (unsigned.takeWhile Char.isDigit)
  let tail := unsigned.dropWhile Char.isDigit
  if tail.isEmpty then pure (if minus then .negative value else .natural value)
  else if isTail tail then pure .fractional
  else none

/-! ### Strings -/

/-- The part of a string read so far, its characters newest first. `lead` is a leading surrogate
that waits for its partner, and `paired` tells that none has been left alone yet. -/
structure Content where
  characters : List Char := []
  lead : Option Nat := none
  paired : Bool := true

/-- Adds a character; a surrogate before it is left alone. -/
def Content.push (content : Content) (character : Char) : Content :=
  { content with
    characters := character :: content.characters
    lead := none
    paired := content.paired && content.lead.isNone }

/-- Adds a UTF-16 unit given by its number. -/
def Content.pushUnit (content : Content) (unit : Nat) : Content :=
  if 0xD800 ≤ unit ∧ unit < 0xDC00 then
    { content with lead := some unit, paired := content.paired && content.lead.isNone }
  else if 0xDC00 ≤ unit ∧ unit < 0xE000 then
    match content.lead with
    | some lead =>
      { content with
        characters :=
          Char.ofNat (0x10000 + (lead - 0xD800) * 0x400 + (unit - 0xDC00)) :: content.characters
        lead := none }
    | none => { content with paired := false }
  else content.push (Char.ofNat unit)

/-- The text read, unless a surrogate has been left alone. -/
def Content.text? (content : Content) : Option String :=
  if content.paired && content.lead.isNone then some (String.ofList content.characters.reverse)
  else none

/-- The character that a one-letter escape stands for. -/
def escaped? : Char → Option Char
  | '"' => some '"'
  | '\\' => some '\\'
  | '/' => some '/'
  | 'b' => some '\x08'
  | 'f' => some '\x0c'
  | 'n' => some '\n'
  | 'r' => some '\r'
  | 't' => some '\t'
  | _ => none

/-- The value of a hexadecimal digit. -/
def hexDigit? (character : Char) : Option Nat :=
  if '0' ≤ character && character ≤ '9' then some (character.toNat - 48)
  else if 'A' ≤ character && character ≤ 'F' then some (character.toNat - 55)
  else if 'a' ≤ character && character ≤ 'f' then some (character.toNat - 87)
  else none

/-! ### The pass over the characters -/

/-- What the characters read last belong to. Words and numbers are held newest first. -/
inductive Mode where
  | between
  | word (letters : List Char)
  | number (characters : List Char)
  | string (content : Content)
  | escape (content : Content)
  | unicode (content : Content) (missing : Nat) (unit : Nat)

/-- The tokens found so far, newest first, and what is being read. -/
structure Scan where
  tokens : List Token := []
  mode : Mode := .between

/-- The token of a word. -/
def Token.ofWord? (letters : List Char) : Option Token :=
  if letters = ['n', 'u', 'l', 'l'] then some .null
  else if letters = ['t', 'r', 'u', 'e'] then some (.boolean true)
  else if letters = ['f', 'a', 'l', 's', 'e'] then some (.boolean false)
  else none

/-- Whether a character can be part of a number. -/
def isNumeric (character : Char) : Bool :=
  character.isDigit || character == '+' || character == '-' || character == '.' ||
    character == 'e' || character == 'E'

/-- Ends a word or a number; a string has to be closed by its own mark. -/
def Scan.close? (scan : Scan) : Option Scan :=
  match scan.mode with
  | .between => some scan
  | .word letters => do
    let token ← Token.ofWord? letters.reverse
    some ⟨token :: scan.tokens, .between⟩
  | .number characters => do
    let number ← Number.ofChars? characters.reverse
    some ⟨.number number :: scan.tokens, .between⟩
  | _ => none

/-- Reads a character that stands between two tokens. -/
def Scan.start? (scan : Scan) (character : Char) : Option Scan :=
  let put (token : Token) : Option Scan := some ⟨token :: scan.tokens, .between⟩
  match character with
  | ' ' | '\n' | '\t' | '\r' => some scan
  | '[' => put .arrayOpen
  | ']' => put .arrayClose
  | '\x7b' => put .objectOpen
  | '\x7d' => put .objectClose
  | ',' => put .comma
  | ':' => put .colon
  | '"' => some { scan with mode := .string {} }
  | _ =>
    if character.isDigit || character == '-' then some { scan with mode := .number [character] }
    else if character.isLower then some { scan with mode := .word [character] }
    else none

/-- Reads one character. -/
def Scan.step? (scan : Scan) (character : Char) : Option Scan :=
  match scan.mode with
  | .between => scan.start? character
  | .word letters =>
    if character.isLower then some { scan with mode := .word (character :: letters) }
    else scan.close?.bind (·.start? character)
  | .number characters =>
    if isNumeric character then some { scan with mode := .number (character :: characters) }
    else scan.close?.bind (·.start? character)
  | .string content =>
    if character = '"' then some ⟨.text content.text? :: scan.tokens, .between⟩
    else if character = '\\' then some { scan with mode := .escape content }
    else if character.toNat < 0x20 then none
    else some { scan with mode := .string (content.push character) }
  | .escape content =>
    if character = 'u' then some { scan with mode := .unicode content 4 0 }
    else (escaped? character).map fun plain ↦ { scan with mode := .string (content.push plain) }
  | .unicode content missing unit => do
    let value ← hexDigit? character
    let unit := unit * 16 + value
    let mode : Mode :=
      if missing ≤ 1 then .string (content.pushUnit unit)
      else .unicode content (missing - 1) unit
    some { scan with mode }

/-- The tokens of a text, in order. -/
def tokens? (text : String) : Option (List Token) := do
  let scan ← text.toList.foldlM Scan.step? {}
  let scan ← scan.close?
  some scan.tokens.reverse

end SmartCard.Json
