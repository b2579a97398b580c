import SmartCard.Applet.Service

/-!
# Writing applet code

Applet code is a program whose value may be a failure. `Hook` is code that has the card's services,
`Handler` code that has the exchange besides, and `Code.lift` uses the first inside the second. The
functions here make one call each, or a few that belong together.
-/

set_option autoImplicit false
set_option relaxedAutoImplicit false

namespace SmartCard

/-- Code over an interface that ends with a value or fails. -/
abbrev Code (interface : Interface) : Type → Type :=
  ExceptT CardError (Program interface)

/-- Code with the card's services. -/
abbrev Hook (σ : Type) : Type → Type :=
  Code (services σ)

/-- Code with the card's services and the exchange. -/
abbrev Handler (σ : Type) : Type → Type :=
  Code (processCalls σ)

namespace Code

variable {σ α : Type}

/-- The program that asks for one service. -/
def ofService (service : Service σ) : Program (services σ) service.Answer :=
  @Program.ask (services σ) service

/-- The program that makes one call on the exchange. -/
def ofExchange (request : ExchangeCall) : Program (processCalls σ) request.Answer :=
  @Program.ask (processCalls σ) (.inr request)

/-- Code that ends with a status word. -/
def refuse {interface : Interface} (word : StatusWord) : Code interface α :=
  throw (.status word)

/-- Code with the card's services, used where the exchange is at hand too. -/
def lift (code : Hook σ α) : Handler σ α :=
  ExceptT.mk code.run.extend

/-! ### The applet and its surroundings -/

/-- The identifier of the applet, once it is registered. -/
def ownAid : Hook σ (Option Aid) :=
  ExceptT.lift (ofService .ownAid)

/-- The context in which the code runs. -/
def ownContext : Hook σ ContextId :=
  ExceptT.lift (ofService .ownContext)

/-- The channel on which the code is activated. -/
def ownChannel : Hook σ Nat :=
  ExceptT.lift (ofService .ownChannel)

/-- Whether the activation is part of the applet's selection. -/
def isSelecting : Hook σ Bool :=
  ExceptT.lift (ofService .isSelecting)

/-- The identifier made of some bytes, if an applet has it. -/
def findAid (bytes : List UInt8) : Hook σ (Option Aid) :=
  ExceptT.lift (ofService (.findAid bytes))

/-- Registers the applet under the identifier that the installer gave. -/
def register : Hook σ Unit :=
  ExceptT.mk (ofService .register)

/-- Registers the applet under the identifier that stands in some bytes. -/
def registerSlice (bytes : List UInt8) (offset length : Nat) : Hook σ Unit :=
  ExceptT.mk (ofService (.registerSlice bytes offset length))

/-- What is known of the world outside the card. -/
def host : Hook σ σ :=
  ExceptT.lift (ofService .host)

/-- Changes what is known of the world outside the card. -/
def mapHost (change : σ → σ) : Hook σ Unit := do
  let before ← host
  ExceptT.lift (ofService (.setHost (change before)))

/-! ### Memory -/

/-- Allocates an array. -/
def allocate (lifetime : Lifetime) (kind : ElementKind) (length : Nat) : Hook σ ArrayRef :=
  ExceptT.mk (ofService (.allocate lifetime kind length))

/-- The bytes left of a quota. -/
def available (lifetime : Lifetime) : Hook σ Nat :=
  ExceptT.lift (ofService (.available lifetime))

/-- How many elements an array has. -/
def lengthOf (array : ArrayRef) : Hook σ Nat :=
  ExceptT.mk (ofService (.lengthOf array))

/-- The lifetime of an array. -/
def lifetimeOf (array : ArrayRef) : Hook σ Lifetime :=
  ExceptT.mk (ofService (.lifetimeOf array))

/-- Reads an element. -/
def get (kind : ElementKind) (array : ArrayRef) (index : Nat) : Hook σ kind.Value :=
  ExceptT.mk (ofService (.get kind array index))

/-- Writes an element. -/
def set (kind : ElementKind) (array : ArrayRef) (index : Nat) (value : kind.Value) :
    Hook σ Unit :=
  ExceptT.mk (ofService (.set kind array index value))

/-- Reads a byte. -/
def getByte (array : ArrayRef) (index : Nat) : Hook σ UInt8 :=
  get .byte array index

/-- Reads a signed 16-bit number. -/
def getShort (array : ArrayRef) (index : Nat) : Hook σ Int16 :=
  get .short array index

/-- Reads a handle. -/
def getHandle (array : ArrayRef) (index : Nat) : Hook σ (Option ArrayRef) :=
  get .object array index

/-- Writes a signed 16-bit number. -/
def setShort (array : ArrayRef) (index : Nat) (value : Int16) : Hook σ Unit :=
  set .short array index value

/-- Reads bytes. -/
def read (array : ArrayRef) (offset length : Nat) : Hook σ (List UInt8) :=
  ExceptT.mk (ofService (.read array offset length))

/-- Writes bytes. -/
def write (array : ArrayRef) (offset : Nat) (bytes : List UInt8) : Hook σ Unit :=
  ExceptT.mk (ofService (.write array offset bytes))

/-- Writes the same byte many times. -/
def fill (array : ArrayRef) (offset length : Nat) (value : UInt8) : Hook σ Unit :=
  ExceptT.mk (ofService (.fill array offset length value))

/-- Reads a whole array of bytes. -/
def readAll (array : ArrayRef) : Hook σ (List UInt8) := do
  let length ← lengthOf array
  read array 0 length

/-- Copies bytes between two arrays, which may be the same: all are read before any is written. -/
def copy (source : ArrayRef) (sourceOffset : Nat) (target : ArrayRef) (targetOffset length : Nat) :
    Hook σ Unit := do
  let bytes ← read source sourceOffset length
  write target targetOffset bytes

/-! ### Transactions -/

/-- Opens a transaction. -/
def begin : Hook σ Unit :=
  ExceptT.mk (ofService .begin)

/-- Makes the open transaction permanent. -/
def commit : Hook σ Unit :=
  ExceptT.mk (ofService .commit)

/-- Undoes the open transaction. -/
def abort : Hook σ Unit :=
  ExceptT.mk (ofService .abort)

/-- How many transactions are open. -/
def depth : Hook σ Nat :=
  ExceptT.lift (ofService .depth)

/-- The bytes of old contents that a transaction may replace. -/
def commitCapacity : Hook σ Nat :=
  ExceptT.lift (ofService .commitCapacity)

/-- The bytes of old contents that the open transaction may still replace. -/
def unusedCommitCapacity : Hook σ Nat :=
  ExceptT.lift (ofService .unusedCommitCapacity)

/-! ### Sharing -/

/-- Offers an array to the applet with one identifier, or to every one. -/
def offer (array : ArrayRef) (parameter : UInt8) (client : Option Aid) : Hook σ Unit :=
  ExceptT.mk (ofService (.offer array parameter client))

/-- Takes an array that another applet offers. -/
def shared (server : Aid) (parameter : UInt8) : Hook σ (Option ArrayRef) :=
  ExceptT.lift (ofService (.shared server parameter))

/-! ### The exchange -/

/-- The exchange as it is. -/
def look : Handler σ Exchange :=
  ExceptT.lift (ofExchange .look)

/-- Receives the first bytes of data. -/
def receive : Handler σ Nat :=
  ExceptT.mk (ofExchange .receive)

/-- Receives further bytes of data. -/
def receiveMore (offset : Nat) : Handler σ Nat :=
  ExceptT.mk (ofExchange (.receiveMore offset))

/-- Turns to the response. -/
def turn (chaining : Bool) : Handler σ Nat :=
  ExceptT.mk (ofExchange (.turn chaining))

/-- Announces the length of the response. -/
def announce (length : Nat) : Handler σ Unit :=
  ExceptT.mk (ofExchange (.announce length))

/-- Sends bytes of the buffer. -/
def send (offset length : Nat) : Handler σ Unit :=
  ExceptT.mk (ofExchange (.send offset length))

/-- Sends bytes that are not in the buffer. -/
def sendFrom (source : List UInt8) (offset length : Nat) : Handler σ Unit :=
  ExceptT.mk (ofExchange (.sendFrom source offset length))

/-- Sends bytes of the buffer as the whole response. -/
def announceAndSend (offset length : Nat) : Handler σ Unit :=
  ExceptT.mk (ofExchange (.announceAndSend offset length))

/-- Writes into the buffer. -/
def poke (offset : Nat) (bytes : List UInt8) : Handler σ Unit :=
  ExceptT.lift (ofExchange (.poke offset bytes))

/-- Collects the data of the command behind those in `collected`. The last `chunk` bytes received
stand in the buffer at `offset`, and at most `calls` further calls are made; every call brings at
least one byte, so as many calls as there are bytes are enough. -/
def collect (offset : Nat) : (calls chunk : Nat) → (collected : List UInt8) →
    Handler σ (List UInt8)
  | calls, chunk, collected => do
    let exchange ← look
    let data := collected ++ (exchange.buffer.segment offset chunk).toList
    if exchange.command.data.length ≤ data.length then return data
    match calls with
    | 0 => return data
    | calls + 1 =>
      let chunk ← receiveMore offset
      collect offset calls chunk data

/-- All data of the command, however many calls it takes to receive them. -/
def receiveAll : Handler σ (List UInt8) := do
  let exchange ← look
  let chunk ← receive
  collect exchange.command.dataOffset exchange.command.data.length chunk []

/-- Sends bytes as the whole response. -/
def respond (bytes : List UInt8) : Handler σ Unit := do
  let _ ← turn true
  announce bytes.length
  if !bytes.isEmpty then sendFrom bytes 0 bytes.length

end Code

end SmartCard
