import SmartCard.Segment
import SmartCard.StatusWord

/-!
# Commands

A command has a header of four bytes, possibly data, and possibly the number of response bytes
that the sender accepts. It travels in one of seven layouts:

* header alone;
* header and expected length, in one byte;
* header, data length in one byte, data, and possibly the expected length in one byte;
* header, a zero byte, and expected length in two bytes;
* header, a zero byte, data length in two bytes, data, and possibly the expected length in two
  bytes.

The layouts with a zero byte are the extended ones, which a card may refuse. In an expected length
zero stands for the largest value. `parse` reads the layouts and `encode` writes them.
-/

set_option autoImplicit false
set_option relaxedAutoImplicit false

namespace SmartCard

structure Command where
  classByte : UInt8
  instruction : UInt8
  p1 : UInt8
  p2 : UInt8
  data : List UInt8
  /-- The expected length, where the command gives one. -/
  expected : Option Nat
  extended : Bool
  deriving DecidableEq, Repr

namespace Command

/-! ### Lengths -/

/-- The largest number of response bytes that a short command can ask for. -/
def maxShortExpected : Nat := 256

/-- The largest number of response bytes that an extended command can ask for. -/
def maxExtendedExpected : Nat := 65536

/-- A 16-bit number from its bytes. -/
def wide (high low : UInt8) : Nat :=
  high.toNat * 256 + low.toNat

/-- The two bytes of a number, which is taken modulo 65536. -/
def wideBytes (value : Nat) : List UInt8 :=
  [UInt8.ofNat (value / 256), UInt8.ofNat value]

/-- An expected length of one byte. -/
def shortExpected (byte : UInt8) : Nat :=
  if byte = 0 then maxShortExpected else byte.toNat

/-- An expected length of two bytes. -/
def extendedExpected (high low : UInt8) : Nat :=
  if wide high low = 0 then maxExtendedExpected else wide high low

/-! ### Reading and writing -/

/-- Reads what follows the header of a short command with data. -/
def parseShort (header : List UInt8 → Option Nat → Bool → Command) (length : Nat)
    (rest : List UInt8) : Except StatusWord Command :=
  if rest.length < length then .error .wrongLength
  else match rest.drop length with
    | [] => .ok (header rest none false)
    | [byte] => .ok (header (rest.take length) (some (shortExpected byte)) false)
    | _ => .error .wrongLength

/-- Reads what follows the zero byte of an extended command. -/
def parseExtended (header : List UInt8 → Option Nat → Bool → Command) :
    List UInt8 → Except StatusWord Command
  | [high, low] => .ok (header [] (some (extendedExpected high low)) true)
  | high :: low :: rest =>
    if wide high low = 0 ∨ rest.length < wide high low then .error .wrongLength
    else match rest.drop (wide high low) with
      | [] => .ok (header rest none true)
      | [first, second] =>
        .ok (header (rest.take (wide high low)) (some (extendedExpected first second)) true)
      | _ => .error .wrongLength
  | _ => .error .wrongLength

/-- Reads a command. Whatever is in none of the layouts has the wrong length. -/
def parse (raw : List UInt8) (extendedAllowed : Bool) : Except StatusWord Command :=
  match raw with
  | classByte :: instruction :: p1 :: p2 :: body =>
    let header := Command.mk classByte instruction p1 p2
    match body with
    | [] => .ok (header [] none false)
    | [byte] => .ok (header [] (some (shortExpected byte)) false)
    | length :: rest =>
      if length ≠ 0 then parseShort header length.toNat rest
      else if extendedAllowed then parseExtended header rest
      else .error .wrongLength
  | _ => .error .wrongLength

/-- The four bytes of the header. -/
def header (command : Command) : List UInt8 :=
  [command.classByte, command.instruction, command.p1, command.p2]

/-- The length bytes that stand behind the header: those of the data, or without data those of the
expected length. -/
def lengthField (command : Command) : List UInt8 :=
  if command.extended then
    0 :: wideBytes (if command.data.isEmpty then command.expected.getD 0 else command.data.length)
  else if command.data.isEmpty then (command.expected.map UInt8.ofNat).toList
  else [UInt8.ofNat command.data.length]

/-- The expected length as it stands behind the data. -/
def trailer (command : Command) : List UInt8 :=
  match command.expected with
  | none => []
  | some expected => if command.extended then wideBytes expected else [UInt8.ofNat expected]

/-- Writes a command in its layout. -/
def encode (command : Command) : List UInt8 :=
  command.header ++ command.lengthField ++
    if command.data.isEmpty then [] else command.data ++ command.trailer

/-! ### What a command says -/

/-- How many response bytes the sender accepts in one reply. -/
def accepted (command : Command) : Nat :=
  command.expected.getD (if command.extended then maxExtendedExpected else maxShortExpected)

/-- Where the data of a command starts in a buffer. -/
def dataOffset (command : Command) : Nat :=
  if command.extended then 7 else 5

/-- The logical channel in a class byte: 0 to 3 in its two low bits or, with the second bit from
the top set, 4 to 19 in its four low bits. -/
def channelOfClass (classByte : UInt8) : Nat :=
  if classByte &&& 0x40 ≠ 0 then 4 + (classByte &&& 0x0F).toNat else (classByte &&& 0x03).toNat

/-- The logical channel that a command addresses. -/
def channel (command : Command) : Nat :=
  channelOfClass command.classByte

/-- Whether a command is from the industry-wide set. -/
def isInterindustry (command : Command) : Bool :=
  command.classByte &&& 0x80 == 0

/-- Instruction byte of the command that selects an applet. -/
def selectInstruction : UInt8 := 0xA4

/-- Instruction byte of the command that opens and closes channels. -/
def manageChannelInstruction : UInt8 := 0x70

/-- Instruction byte of the command that fetches waiting response bytes. -/
def getResponseInstruction : UInt8 := 0xC0

/-- A short command without data on the basic channel. -/
def plain (instruction : UInt8) (expected : Option Nat) : Command :=
  ⟨0, instruction, 0, 0, [], expected, false⟩

/-- A short command with data on the basic channel. -/
def withData (instruction : UInt8) (data : List UInt8) : Command :=
  ⟨0, instruction, 0, 0, data, none, false⟩

/-- The command that selects the applet with the given identifier. -/
def select (aid : List UInt8) : Command :=
  ⟨0, selectInstruction, 4, 0, aid, none, false⟩

end Command

end SmartCard
