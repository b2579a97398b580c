import SmartCard.Command
import SmartCard.Runs

/-!
# Exchanges

An exchange is one command and its response as applet code sees them. The code moves the data of
the command into a buffer piece by piece, announces how long its response is, and sends the
response piece by piece. The phases fix which call may come when:

* `initial`, until the first piece of data is received;
* `partialIncoming` while data are missing and `fullIncoming` once all have come;
* `outgoing` once the code has turned to its response, which needs all data received;
* `outgoingLengthKnown` once the length is announced, `partialOutgoing` while bytes are owed and
  `fullOutgoing`, which is final, once all are sent.

Every call answers with its result and the exchange after it. A call that fails leaves the exchange
as it was, `announceAndSend` excepted: it is three calls in a row, and what the first of them did
stays when a later one fails.
-/

set_option autoImplicit false
set_option relaxedAutoImplicit false

namespace SmartCard

inductive Phase where
  | initial
  | partialIncoming
  | fullIncoming
  | outgoing
  | outgoingLengthKnown
  | partialOutgoing
  | fullOutgoing
  deriving DecidableEq, Repr

/-- The name of a phase in messages. -/
def Phase.name : Phase → String
  | .initial => "Initial"
  | .partialIncoming => "PartialIncoming"
  | .fullIncoming => "FullIncoming"
  | .outgoing => "Outgoing"
  | .outgoingLengthKnown => "OutgoingLengthKnown"
  | .partialOutgoing => "PartialOutgoing"
  | .fullOutgoing => "FullOutgoing"

/-- The calls that are legal in some phases only. -/
inductive Operation where
  | receive
  | receiveMore
  | turn
  | turnUnchained
  | announce
  | send
  | sendFrom
  deriving DecidableEq, Repr

/-- The name of a call in messages. -/
def Operation.name : Operation → String
  | .receive => "set_incoming_and_receive"
  | .receiveMore => "receive_bytes"
  | .turn => "set_outgoing"
  | .turnUnchained => "set_outgoing_no_chaining"
  | .announce => "set_outgoing_length"
  | .send => "send_bytes"
  | .sendFrom => "send_bytes_long"

/-- Why a call on an exchange fails. -/
inductive ExchangeError where
  | illegalUse (operation : Operation) (phase : Phase)
  | bufferBounds (offset length capacity : Nat)
  | badLength (requested maximum : Nat)
  | overrun (announced sent attempted : Nat)
  | incomplete (announced sent : Nat)
  deriving DecidableEq, Repr

/-- The wording of a failure. -/
def ExchangeError.message : ExchangeError → String
  | .illegalUse operation phase => s!"{operation.name} is illegal in state {phase.name}"
  | .bufferBounds offset length capacity => s!"range {offset}+{length} exceeds {capacity} bytes"
  | .badLength requested maximum => s!"outgoing length {requested} exceeds maximum {maximum}"
  | .overrun announced sent attempted =>
    s!"sending {attempted} more bytes would exceed announced length {announced} " ++
      s!"({sent} already sent)"
  | .incomplete announced sent => s!"exchange ended after {sent} of {announced} announced bytes"

structure Exchange where
  command : Command
  buffer : Runs UInt8
  phase : Phase
  /-- How many bytes of the command's data have been moved into the buffer. -/
  received : Nat
  /-- The length announced for the response. -/
  announced : Nat
  /-- The part of the response sent so far. -/
  response : List UInt8
  /-- Whether the response has to fit into one reply. -/
  unchained : Bool
  /-- Whether the command is the one that selected the applet. -/
  selecting : Bool
  deriving DecidableEq, Repr

namespace Exchange

/-- The buffer size of a card that sets none: five bytes of header and length, 255 bytes of data,
one byte of expected length. -/
def defaultBufferSize : Nat := 261

/-- The smallest buffer of an exchange. -/
def minBufferSize : Nat := 133

/-- The longest response to a short command. -/
def maxShortOutgoing : Nat := 256

/-- The longest response to an extended command. -/
def maxExtendedOutgoing : Nat := 32767

/-- A fresh exchange: the buffer holds the header and the length bytes of the command. -/
def start (command : Command) (bufferSize : Nat) (selecting : Bool) : Exchange where
  command := command
  buffer := (Runs.replicate (max bufferSize minBufferSize) 0).overwrite 0
    (.ofList (command.header ++ command.lengthField))
  phase := .initial
  received := 0
  announced := 0
  response := []
  unchained := false
  selecting := selecting

/-- The longest response that may be announced. -/
def maxOutgoing (exchange : Exchange) : Nat :=
  let limit := if exchange.command.extended then maxExtendedOutgoing else maxShortOutgoing
  if exchange.unchained then min limit exchange.command.accepted else limit

/-- The error of a call in a phase where it is not legal. -/
def illegal (exchange : Exchange) (operation : Operation) : ExchangeError :=
  .illegalUse operation exchange.phase

/-! ### Receiving -/

/-- The next bytes of the command's data, as many as fit into the buffer from `offset` on. -/
def nextChunk (exchange : Exchange) (offset : Nat) : List UInt8 :=
  segment exchange.received
    (min (exchange.command.data.length - exchange.received) (exchange.buffer.length - offset))
    exchange.command.data

/-- Moves the next bytes of data into the buffer. -/
def receiveAt (exchange : Exchange) (offset : Nat) : Exchange :=
  let chunk := exchange.nextChunk offset
  let received := exchange.received + chunk.length
  { exchange with
    buffer := exchange.buffer.overwrite offset (.ofList chunk)
    received := received
    phase := if received = exchange.command.data.length then .fullIncoming else .partialIncoming }

/-- Receives the first bytes of data behind the header and says how many. -/
def receive (exchange : Exchange) : Except ExchangeError Nat × Exchange :=
  if exchange.phase = .initial then
    let offset := exchange.command.dataOffset
    (.ok (exchange.nextChunk offset).length, exchange.receiveAt offset)
  else (.error (exchange.illegal .receive), exchange)

/-- Receives further bytes of data at `offset` and says how many. -/
def receiveMore (exchange : Exchange) (offset : Nat) : Except ExchangeError Nat × Exchange :=
  if exchange.phase ≠ .partialIncoming then (.error (exchange.illegal .receiveMore), exchange)
  else if exchange.buffer.length ≤ offset then
    (.error (.bufferBounds offset 1 exchange.buffer.length), exchange)
  else (.ok (exchange.nextChunk offset).length, exchange.receiveAt offset)

/-! ### Sending -/

/-- Whether all data of the command have been received. -/
def isReady (exchange : Exchange) : Bool :=
  match exchange.phase with
  | .fullIncoming => true
  | .initial => exchange.command.data.isEmpty
  | _ => false

/-- Turns to the response and says how many bytes the sender accepts in one reply. Without
chaining the response has to fit into one reply. -/
def turn (exchange : Exchange) (chaining : Bool) : Except ExchangeError Nat × Exchange :=
  if exchange.isReady then
    (.ok exchange.command.accepted,
      { exchange with phase := .outgoing, unchained := exchange.unchained || !chaining })
  else (.error (exchange.illegal (if chaining then .turn else .turnUnchained)), exchange)

/-- Announces the length of the response. -/
def announce (exchange : Exchange) (length : Nat) : Except ExchangeError Unit × Exchange :=
  if exchange.phase ≠ .outgoing then (.error (exchange.illegal .announce), exchange)
  else if exchange.maxOutgoing < length then
    (.error (.badLength length exchange.maxOutgoing), exchange)
  else
    (.ok (), { exchange with
      announced := length
      phase := if length = 0 then .fullOutgoing else .outgoingLengthKnown })

/-- Sends `length` bytes of `source` from `offset` on. -/
def sendSegment (exchange : Exchange) (operation : Operation) (source : Runs UInt8)
    (offset length : Nat) : Except ExchangeError Unit × Exchange :=
  if exchange.phase ≠ .outgoingLengthKnown ∧ exchange.phase ≠ .partialOutgoing then
    (.error (exchange.illegal operation), exchange)
  else if source.length < offset + length then
    (.error (.bufferBounds offset length source.length), exchange)
  else if exchange.announced < exchange.response.length + length then
    (.error (.overrun exchange.announced exchange.response.length length), exchange)
  else
    let response := exchange.response ++ (source.segment offset length).toList
    (.ok (), { exchange with
      response := response
      phase := if response.length = exchange.announced then .fullOutgoing else .partialOutgoing })

/-- Sends bytes of the buffer. -/
def send (exchange : Exchange) (offset length : Nat) : Except ExchangeError Unit × Exchange :=
  exchange.sendSegment .send exchange.buffer offset length

/-- Sends bytes that are not in the buffer. -/
def sendFrom (exchange : Exchange) (source : List UInt8) (offset length : Nat) :
    Except ExchangeError Unit × Exchange :=
  exchange.sendSegment .sendFrom (.ofList source) offset length

/-- Turns to the response, announces its length and sends it from the buffer. The range is looked
at before anything else. -/
def announceAndSend (exchange : Exchange) (offset length : Nat) :
    Except ExchangeError Unit × Exchange :=
  if exchange.buffer.length < offset + length then
    (.error (.bufferBounds offset length exchange.buffer.length), exchange)
  else
    match exchange.turn true with
    | (.error error, turned) => (.error error, turned)
    | (.ok _, turned) =>
      match turned.announce length with
      | (.error error, announced) => (.error error, announced)
      | (.ok (), announced) =>
        if length = 0 then (.ok (), announced) else announced.send offset length

/-- Writes into the buffer directly. What does not fit is not written at all. -/
def poke (exchange : Exchange) (offset : Nat) (bytes : List UInt8) : Exchange :=
  if offset + bytes.length ≤ exchange.buffer.length then
    { exchange with buffer := exchange.buffer.overwrite offset (.ofList bytes) }
  else exchange

/-- The response of an ended exchange. Bytes announced and not sent are an error. -/
def finish (exchange : Exchange) : Except ExchangeError (List UInt8) :=
  match exchange.phase with
  | .outgoingLengthKnown | .partialOutgoing =>
    .error (.incomplete exchange.announced exchange.response.length)
  | _ => .ok exchange.response

end Exchange

end SmartCard
