import SmartCard.Text.Blank
import SmartCard.Text.Hex

/-!
# Application identifiers

An identifier names an installed applet. It has 5 to 16 bytes: the five bytes of the registered
provider, then up to eleven of the provider's own choice. `ofBytes_bytes` and
`bytes_of_ofBytes_eq_ok` say that identifiers are exactly the byte strings of those lengths, and
`parse_toString` that the written form is read back.
-/

set_option autoImplicit false
set_option relaxedAutoImplicit false

namespace SmartCard

structure Aid where
  bytes : List UInt8
  five_le_length : 5 ≤ bytes.length
  length_le_sixteen : bytes.length ≤ 16
  deriving DecidableEq

/-- Why no identifier can be made. -/
inductive AidError where
  | invalidLength (length : Nat)
  | outOfBounds (offset length available : Nat)
  | invalidHex (error : HexError)
  deriving DecidableEq, Repr

/-- The wording of a refusal. -/
def AidError.message : AidError → String
  | .invalidLength length => s!"AID length {length} outside 5..=16"
  | .outOfBounds offset length available =>
    s!"AID slice {offset}+{length} exceeds source of {available} bytes"
  | .invalidHex error => "invalid hex in AID: " ++ error.message

namespace Aid

/-- Two identifiers with the same bytes are the same. -/
theorem ext_bytes {first second : Aid} (hbytes : first.bytes = second.bytes) : first = second := by
  cases first
  cases second
  cases hbytes
  rfl

/-- The identifier with the given bytes. -/
def ofBytes (bytes : List UInt8) : Except AidError Aid :=
  if h : 5 ≤ bytes.length ∧ bytes.length ≤ 16 then .ok ⟨bytes, h.1, h.2⟩
  else .error (.invalidLength bytes.length)

/-- The identifier that stands in `length` bytes from `offset` on. The range is looked at before
the length. -/
def ofSlice (bytes : List UInt8) (offset length : Nat) : Except AidError Aid :=
  if offset + length ≤ bytes.length then ofBytes ((bytes.drop offset).take length)
  else .error (.outOfBounds offset length bytes.length)

/-- Reads an identifier in hexadecimal with blanks around it. -/
def parse (text : String) : Except AidError Aid :=
  match Hex.decode (Text.trim text) with
  | .ok bytes => ofBytes bytes
  | .error error => .error (.invalidHex error)

/-- The bytes of the provider. -/
def provider (aid : Aid) : List UInt8 :=
  aid.bytes.take 5

/-- The bytes of the provider's own choice. -/
def extension (aid : Aid) : List UInt8 :=
  aid.bytes.drop 5

/-- Whether some bytes, at least those of a provider, are the beginning of an identifier. -/
def startsWith (aid : Aid) (start : List UInt8) : Bool :=
  5 ≤ start.length && start.isPrefixOf aid.bytes

/-- The lexicographic order of the bytes. -/
def order (first second : Aid) : Ordering :=
  compare first.bytes second.bytes

instance : ToString Aid where
  toString aid := Hex.encode aid.bytes

/-- An identifier is made from its own bytes. -/
theorem ofBytes_bytes (aid : Aid) : ofBytes aid.bytes = .ok aid := by
  rw [ofBytes, dif_pos ⟨aid.five_le_length, aid.length_le_sixteen⟩]

/-- Whatever identifier is made from some bytes has those bytes. -/
theorem bytes_of_ofBytes_eq_ok {bytes : List UInt8} {aid : Aid} (h : ofBytes bytes = .ok aid) :
    aid.bytes = bytes := by
  unfold ofBytes at h
  split at h
  · cases h
    rfl
  · cases h

/-- The written form of an identifier has no blank at its ends and is read back. -/
theorem parse_toString (aid : Aid) : parse (toString aid) = .ok aid := by
  have hblank : ∀ character ∈ aid.bytes.flatMap Hex.digits, Text.isBlank character = false := by
    intro character hcharacter
    obtain ⟨byte, -, hdigit⟩ := List.mem_flatMap.mp hcharacter
    have all : ∀ value : Fin 256, (Hex.digits (UInt8.ofFin value)).all
        (fun digit ↦ !Text.isBlank digit) = true := by decide +kernel
    have hbyte := all byte.toFin
    rw [UInt8.ofFin_toFin, List.all_eq_true] at hbyte
    simpa using hbyte character hdigit
  have htrim : Text.trim (toString aid) = Hex.encode aid.bytes := by
    rw [Text.trim, show toString aid = Hex.encode aid.bytes from rfl, Hex.encode,
      String.toList_ofList, Text.trimmed_eq_self]
    · exact fun character hhead ↦ hblank character (List.mem_of_mem_head? hhead)
    · exact fun character hlast ↦ hblank character (List.mem_of_mem_getLast? hlast)
  rw [parse, htrim, Hex.decode_encode]
  exact ofBytes_bytes aid

end Aid

end SmartCard
