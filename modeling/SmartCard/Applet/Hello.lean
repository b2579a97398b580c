import SmartCard.Applet.Basic
import SmartCard.Memory.Cells

/-!
# The hello applet

A greeter that counts its greetings in persistent memory, echoes data and remembers the last echo
until it is deselected, and answers with patterns and status words of the sender's choice.
-/

set_option autoImplicit false
set_option relaxedAutoImplicit false

namespace SmartCard

/-- The arrays of an installed hello applet: one byte of length and the data of the last echo,
and the number of greetings. -/
structure Hello where
  lastEcho : ArrayRef
  greetings : ArrayRef
  deriving DecidableEq, Repr

namespace Hello

variable {σ : Type}

def greetInstruction : UInt8 := 0x01
def echoInstruction : UInt8 := 0x02
def lastEchoInstruction : UInt8 := 0x03
def countInstruction : UInt8 := 0x04
def throwInstruction : UInt8 := 0x05
def patternInstruction : UInt8 := 0x06

/-- The greeting. -/
def greeting : List UInt8 :=
  "Hello world !".toList.map fun character ↦ UInt8.ofNat character.toNat

/-- The longest echo. -/
def echoCapacity : Nat := 255

/-- The bytes of a number, the high one first. -/
def shortBytes (value : Int16) : List UInt8 :=
  (ElementKind.short.encode value).toBytes

/-- Counts a greeting and greets. -/
def greet (arrays : Hello) : Handler σ Unit := do
  let count ← Code.lift (Code.getShort arrays.greetings 0)
  Code.lift (Code.setShort arrays.greetings 0 (count + 1))
  Code.respond greeting

/-- Answers with the data of the command and remembers them. -/
def echo (arrays : Hello) : Handler σ Unit := do
  let data ← Code.receiveAll
  if echoCapacity < data.length then Code.refuse .wrongLength
  let length : UInt8 := UInt8.ofNat data.length
  Code.lift (Code.set .byte arrays.lastEcho 0 length)
  Code.lift (Code.write arrays.lastEcho 1 data)
  Code.respond data

/-- Answers with the data remembered. -/
def repeatEcho (arrays : Hello) : Handler σ Unit := do
  let length ← Code.lift (Code.getByte arrays.lastEcho 0)
  let data ← Code.lift (Code.read arrays.lastEcho 1 length.toNat)
  Code.respond data

/-- Answers with the number of greetings. -/
def count (arrays : Hello) : Handler σ Unit := do
  let count ← Code.lift (Code.getShort arrays.greetings 0)
  Code.respond (shortBytes count)

/-- As many bytes as asked for, counting up from zero. -/
def pattern (length : Nat) : List UInt8 :=
  (List.range length).map UInt8.ofNat

/-- Handles one command. -/
def process (arrays : Hello) : Handler σ Unit := do
  let exchange ← Code.look
  let command := exchange.command
  if exchange.selecting then return
  else if command.instruction = greetInstruction then arrays.greet
  else if command.instruction = echoInstruction then arrays.echo
  else if command.instruction = lastEchoInstruction then arrays.repeatEcho
  else if command.instruction = countInstruction then arrays.count
  else if command.instruction = throwInstruction then
    Code.refuse (.ofBytes command.p1 command.p2)
  else if command.instruction = patternInstruction then
    Code.respond (pattern (Command.wide command.p1 command.p2))
  else Code.refuse .instructionNotSupported

/-- The applet with its arrays. -/
def applet (arrays : Hello) : Applet σ where
  process := arrays.process

/-- Allocates the arrays and registers the applet. -/
def install : Factory σ := fun _ ↦ do
  let lastEcho ← Code.allocate .clearOnDeselect .byte (echoCapacity + 1)
  let greetings ← Code.allocate .persistent .short 1
  Code.register
  return (Hello.mk lastEcho greetings).applet

end Hello

end SmartCard
