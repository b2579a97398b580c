/-!
# Blank characters

The characters with the Unicode property White_Space, and the two operations on text that depend
on them: cutting blanks off both ends, and dropping every blank. `trimmed_eq_self` says that a text
with no blank at either end is left alone.
-/

set_option autoImplicit false
set_option relaxedAutoImplicit false

namespace SmartCard.Text

/-- The characters with the Unicode property White_Space. -/
def isBlank (character : Char) : Bool :=
  let code := character.toNat
  (9 ≤ code && code ≤ 13) || code == 0x20 || code == 0x85 || code == 0xA0 || code == 0x1680 ||
    (0x2000 ≤ code && code ≤ 0x200A) || code == 0x2028 || code == 0x2029 || code == 0x202F ||
    code == 0x205F || code == 0x3000

/-- The characters of a text without the blanks at its two ends. -/
def trimmed (characters : List Char) : List Char :=
  ((characters.dropWhile isBlank).reverse.dropWhile isBlank).reverse

/-- A text without the blanks at its two ends. -/
def trim (text : String) : String :=
  String.ofList (trimmed text.toList)

/-- A text without any of its blanks. -/
def unspaced (text : String) : String :=
  String.ofList (text.toList.filter fun character ↦ !isBlank character)

/-- A text whose first and last characters are not blank keeps all its characters. -/
theorem trimmed_eq_self {characters : List Char}
    (hfirst : ∀ character ∈ characters.head?, isBlank character = false)
    (hlast : ∀ character ∈ characters.getLast?, isBlank character = false) :
    trimmed characters = characters := by
  have keep (list : List Char) (hhead : ∀ character ∈ list.head?, isBlank character = false) :
      list.dropWhile isBlank = list := by
    cases list with
    | nil => rfl
    | cons first rest => simp [hhead first (by simp)]
  rw [trimmed, keep characters hfirst, keep _ (by simpa using hlast), List.reverse_reverse]

end SmartCard.Text
