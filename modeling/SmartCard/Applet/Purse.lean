import SmartCard.Applet.Basic
import SmartCard.Memory.Cells

/-!
# The purse applet

The balance, the number of changes and the last amount are three persistent shorts. A credit or
debit changes all three inside one transaction, so a loss of power never leaves one of them ahead
of the others.
-/

set_option autoImplicit false
set_option relaxedAutoImplicit false

namespace SmartCard

/-- The array of an installed purse. -/
structure Purse where
  state : ArrayRef
  deriving DecidableEq, Repr

namespace Purse

variable {σ : Type}

def creditInstruction : UInt8 := 0x30
def debitInstruction : UInt8 := 0x40
def balanceInstruction : UInt8 := 0x50
def countInstruction : UInt8 := 0x60

/-- The status word of a debit larger than the balance. -/
def insufficientFunds : StatusWord := ⟨0x6910⟩

/-- The largest balance. -/
def maxBalance : Int := 32767

/-- Where the balance stands. -/
def balanceIndex : Nat := 0

/-- Where the number of changes stands. -/
def countIndex : Nat := 1

/-- Where the last amount stands. -/
def lastAmountIndex : Nat := 2

/-- The signed number in two bytes, the high one first. -/
def short (high low : UInt8) : Int16 :=
  ElementKind.short.decode (.bytes (.ofList [high, low]))

/-- The two bytes of a signed number. -/
def shortBytes (value : Int16) : List UInt8 :=
  (ElementKind.short.encode value).toBytes

/-- The amount in the data of the command, which is not negative. -/
def amount : Handler σ Int16 := do
  let data ← Code.receiveAll
  match data with
  | [high, low] =>
    if (short high low).toInt < 0 then Code.refuse .wrongData
    else return short high low
  | _ => Code.refuse .wrongLength

/-- The balance after a change, or the status word that refuses the change. -/
def changed (balance : Int16) (change : Int) : Except StatusWord Int16 :=
  let updated := balance.toInt + change
  if maxBalance < updated ∨ updated < -maxBalance - 1 then .error .fileFull
  else if updated < 0 then .error insufficientFunds
  else .ok (Int16.ofInt updated)

/-- Changes the balance in one transaction. -/
def apply (purse : Purse) (amount : Int16) (change : Int) : Hook σ Unit := do
  let balance ← Code.getShort purse.state balanceIndex
  match changed balance change with
  | .error word => Code.refuse word
  | .ok updated =>
    let count ← Code.getShort purse.state countIndex
    Code.begin
    Code.setShort purse.state balanceIndex updated
    Code.setShort purse.state countIndex (count + 1)
    Code.setShort purse.state lastAmountIndex amount
    Code.commit

/-- Answers with one of the numbers. -/
def tell (purse : Purse) (index : Nat) : Handler σ Unit := do
  let value ← Code.lift (Code.getShort purse.state index)
  Code.respond (shortBytes value)

/-- Handles one command. -/
def process (purse : Purse) : Handler σ Unit := do
  let exchange ← Code.look
  let instruction := exchange.command.instruction
  if exchange.selecting then return
  else if instruction = creditInstruction then
    let amount ← amount
    Code.lift (purse.apply amount amount.toInt)
  else if instruction = debitInstruction then
    let amount ← amount
    Code.lift (purse.apply amount (-amount.toInt))
  else if instruction = balanceInstruction then purse.tell balanceIndex
  else if instruction = countInstruction then purse.tell countIndex
  else Code.refuse .instructionNotSupported

/-- The applet with its array. -/
def applet (purse : Purse) : Applet σ where
  process := purse.process
  multiSelectable := true

/-- Allocates the array, stores the opening balance if there is one, and registers the applet. An
opening balance is two bytes of applet data; data of another length are ignored. -/
def install : Factory σ := fun params ↦ do
  let state ← Code.allocate .persistent .short 3
  match params.appletData with
  | [high, low] =>
    if (short high low).toInt < 0 then Code.refuse .wrongData
    Code.setShort state balanceIndex (short high low)
  | _ => pure ()
  Code.register
  return (Purse.mk state).applet

end Purse

end SmartCard
