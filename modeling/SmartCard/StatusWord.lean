import SmartCard.Text.Hex

/-!
# Status words

Every response ends in two bytes that tell how the command went. The words used by the card
itself are named here. `ofBytes_high_low` says that a word is determined by its two bytes.
-/

set_option autoImplicit false
set_option relaxedAutoImplicit false

namespace SmartCard

structure StatusWord where
  value : UInt16
  deriving DecidableEq, Repr

namespace StatusWord

def noError : StatusWord := ⟨0x9000⟩
def wrongLength : StatusWord := ⟨0x6700⟩
def logicalChannelNotSupported : StatusWord := ⟨0x6881⟩
def securityStatusNotSatisfied : StatusWord := ⟨0x6982⟩
def conditionsNotSatisfied : StatusWord := ⟨0x6985⟩
def commandNotAllowed : StatusWord := ⟨0x6986⟩
def appletSelectFailed : StatusWord := ⟨0x6999⟩
def wrongData : StatusWord := ⟨0x6A80⟩
def functionNotSupported : StatusWord := ⟨0x6A81⟩
def fileNotFound : StatusWord := ⟨0x6A82⟩
def fileFull : StatusWord := ⟨0x6A84⟩
def incorrectParameters : StatusWord := ⟨0x6A86⟩
def instructionNotSupported : StatusWord := ⟨0x6D00⟩
def classNotSupported : StatusWord := ⟨0x6E00⟩
def unknown : StatusWord := ⟨0x6F00⟩

/-- The first byte. -/
def high (word : StatusWord) : UInt8 :=
  (word.value / 256).toUInt8

/-- The second byte. -/
def low (word : StatusWord) : UInt8 :=
  word.value.toUInt8

/-- The word made of two bytes. -/
def ofBytes (high low : UInt8) : StatusWord :=
  ⟨high.toUInt16 * 256 + low.toUInt16⟩

/-- The two bytes as they are sent. -/
def toBytes (word : StatusWord) : List UInt8 :=
  [word.high, word.low]

/-- The word that tells how many bytes of a response still wait: their number in the second byte,
or zero there when they are 256 or more. -/
def bytesRemaining (remaining : Nat) : StatusWord :=
  ofBytes 0x61 (if 256 ≤ remaining then 0 else UInt8.ofNat remaining)

/-- Whether the word reports success, with or without bytes waiting. -/
def isSuccess (word : StatusWord) : Bool :=
  word == noError || word.high == 0x61

instance : ToString StatusWord where
  toString word := Hex.encodeWord word.value

/-- A word is made of its two bytes. -/
theorem ofBytes_high_low (word : StatusWord) : ofBytes word.high word.low = word := by
  obtain ⟨value⟩ := word
  have hvalue := value.toNat_lt
  simp only [ofBytes, high, low]
  congr 1
  apply UInt16.toNat_inj.mp
  simp only [UInt16.toNat_add, UInt16.toNat_mul, UInt8.toNat_toUInt16, UInt16.toNat_toUInt8,
    UInt16.toNat_div, UInt16.reduceToNat]
  omega

end StatusWord

end SmartCard
