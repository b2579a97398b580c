import SmartCard.Text.Quoted

/-!
# Hexadecimal text

Byte strings are written with two upper-case digits a byte. Reading takes digits of either case
and looks at the text as bytes: an odd number of bytes is refused before any of them is looked
at, and otherwise the first byte that is no digit is reported with its position. `decode_encode`
says that reading gives back what was written.
-/

set_option autoImplicit false
set_option relaxedAutoImplicit false

namespace SmartCard

/-- Why a text is not hexadecimal. -/
inductive HexError where
  | oddLength
  | badDigit (byte : UInt8) (position : Nat)
  deriving DecidableEq, Repr

/-- The wording of a refusal. A byte is shown as the character with its number. -/
def HexError.message : HexError → String
  | .oddLength => "Odd number of digits"
  | .badDigit byte position =>
    "Invalid character " ++ Text.quotedChar (Char.ofNat byte.toNat) ++ " at position " ++
      toString position

namespace Hex

/-- The ASCII code of the digit of a value below sixteen. -/
def digitByte (value : Nat) : UInt8 :=
  if value < 10 then UInt8.ofNat (48 + value) else UInt8.ofNat (55 + value)

/-- The digit of a value below sixteen. -/
def digit (value : Nat) : Char :=
  Char.ofNat (digitByte value).toNat

/-- The two digits of a byte, the high half first. -/
def digits (byte : UInt8) : List Char :=
  [digit (byte.toNat / 16), digit (byte.toNat % 16)]

/-- A byte string in upper-case digits. -/
def encode (bytes : List UInt8) : String :=
  String.ofList (bytes.flatMap digits)

/-- A 16-bit word in four upper-case digits. -/
def encodeWord (word : UInt16) : String :=
  encode [(word / 256).toUInt8, word.toUInt8]

/-- The value of a digit of either case. -/
def digitValue? (byte : UInt8) : Option UInt8 :=
  if 48 ≤ byte ∧ byte ≤ 57 then some (byte - 48)
  else if 65 ≤ byte ∧ byte ≤ 70 then some (byte - 55)
  else if 97 ≤ byte ∧ byte ≤ 102 then some (byte - 87)
  else none

/-- Reads pairs of digits. The position is that of the first byte in the whole text. -/
def decodePairs (position : Nat) : List UInt8 → Except HexError (List UInt8)
  | high :: low :: rest =>
    match digitValue? high, digitValue? low with
    | none, _ => .error (.badDigit high position)
    | some _, none => .error (.badDigit low (position + 1))
    | some highValue, some lowValue =>
      (decodePairs (position + 2) rest).map ((highValue * 16 + lowValue) :: ·)
  | [_] => .error .oddLength
  | [] => .ok []

/-- Reads a text given by its bytes. -/
def decodeBytes (text : List UInt8) : Except HexError (List UInt8) :=
  if text.length % 2 = 0 then decodePairs 0 text else .error .oddLength

/-- Reads a text by the bytes of its UTF-8 form. -/
def decode (text : String) : Except HexError (List UInt8) :=
  decodeBytes (text.toList.flatMap String.utf8EncodeChar)

/-- A digit is written in one byte, its ASCII code. -/
theorem utf8EncodeChar_digit {value : Nat} (hvalue : value < 16) :
    String.utf8EncodeChar (digit value) = [digitByte value] := by
  have all : ∀ value : Fin 16, String.utf8EncodeChar (digit value) = [digitByte value] := by
    decide +kernel
  exact all ⟨value, hvalue⟩

/-- A digit is read as the value that it was written for. -/
theorem digitValue?_digitByte {value : Nat} (hvalue : value < 16) :
    digitValue? (digitByte value) = some (UInt8.ofNat value) := by
  have all : ∀ value : Fin 16, digitValue? (digitByte value) = some (UInt8.ofNat value) := by
    decide +kernel
  exact all ⟨value, hvalue⟩

/-- The bytes of the two digits of a byte. -/
theorem utf8_digits (byte : UInt8) :
    (digits byte).flatMap String.utf8EncodeChar =
      [digitByte (byte.toNat / 16), digitByte (byte.toNat % 16)] := by
  have hbyte := byte.toNat_lt
  rw [digits, List.flatMap_cons, List.flatMap_cons, List.flatMap_nil,
    utf8EncodeChar_digit (by omega), utf8EncodeChar_digit (by omega)]
  rfl

/-- A byte is made of its two halves. -/
theorem halves_eq (byte : UInt8) :
    UInt8.ofNat (byte.toNat / 16) * 16 + UInt8.ofNat (byte.toNat % 16) = byte := by
  have hbyte := byte.toNat_lt
  apply UInt8.toNat_inj.mp
  simp only [UInt8.toNat_add, UInt8.toNat_mul, UInt8.toNat_ofNat', UInt8.reduceToNat]
  omega

/-- Reading pairs gives back the bytes whose digits they are. -/
theorem decodePairs_digits (position : Nat) (bytes : List UInt8) :
    decodePairs position ((bytes.flatMap digits).flatMap String.utf8EncodeChar) = .ok bytes := by
  induction bytes generalizing position with
  | nil => simp [decodePairs]
  | cons byte rest ih =>
    have hbyte := byte.toNat_lt
    rw [List.flatMap_cons, List.flatMap_append, utf8_digits, List.cons_append, List.cons_append,
      List.nil_append, decodePairs, digitValue?_digitByte (by omega),
      digitValue?_digitByte (by omega)]
    simp only [ih, Except.map, halves_eq]

/-- Two digits stand for each byte. -/
theorem length_utf8_digits (bytes : List UInt8) :
    ((bytes.flatMap digits).flatMap String.utf8EncodeChar).length = 2 * bytes.length := by
  induction bytes with
  | nil => rfl
  | cons byte rest ih =>
    rw [List.flatMap_cons, List.flatMap_append, utf8_digits, List.length_append, ih,
      List.length_cons, List.length_cons, List.length_cons, List.length_nil]
    omega

/-- Reading gives back the bytes that were written. -/
theorem decode_encode (bytes : List UInt8) : decode (encode bytes) = .ok bytes := by
  rw [decode, encode, String.toList_ofList, decodeBytes, if_pos, decodePairs_digits]
  rw [length_utf8_digits]
  omega

end Hex

end SmartCard
