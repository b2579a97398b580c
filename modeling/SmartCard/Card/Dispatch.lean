import SmartCard.Card.Installation

/-!
# Dispatching commands

`transmit` takes the bytes of one command and gives the bytes of the response. It never fails:
whatever goes wrong, in the command or in applet code, becomes a bare status word. A command that
reaches an open channel takes the bytes waiting there; they are answered if the command asks for
them and dropped otherwise.

`route` is all that happens before an applet handles the command. For a buffer so large that no
memory holds it, `attempt?` gives no response where `transmit` would need one.
-/

set_option autoImplicit false
set_option relaxedAutoImplicit false

namespace SmartCard.Card

variable {σ : Type}

/-- The class byte that no command has. -/
def invalidClass : UInt8 := 0xFF

/-- First parameter of a selection by identifier. -/
def selectByName : UInt8 := 0x04

/-- First parameter of the command that opens a channel. -/
def manageOpen : UInt8 := 0x00

/-- First parameter of the command that closes a channel. -/
def manageClose : UInt8 := 0x80

/-- Answers with as many bytes as are accepted. The rest is left to wait on the channel, and the
status word tells how much that is. -/
def reply (card : Card σ) (channel : Nat) (output : List UInt8) (accepted : Nat) :
    List UInt8 × Card σ :=
  if accepted < output.length then
    let rest := output.drop accepted
    (output.take accepted ++ (StatusWord.bytesRemaining rest.length).toBytes,
      { card with channels := card.channels.setPending channel rest })
  else (output ++ StatusWord.noError.toBytes, card)

/-- Lets the applet in a context handle a command. Afterwards no transaction is open. -/
def process (card : Card σ) (channel : Nat) (context : ContextId) (command : Command)
    (selecting : Bool) : Except StatusWord (List UInt8) × Card σ :=
  match card.registry.inContext? context with
  | none => (.error .commandNotAllowed, card)
  | some entry =>
    let exchange := Exchange.start command card.config.bufferSize selecting
    let (ending, session, exchange) := entry.applet.process.run.run Session.answerProcess
      (⟨⟨context, channel, selecting⟩, card.platform, card.host, none⟩, exchange)
    let settled :=
      { card with platform := session.platform, host := session.host : Card σ }.settle
    match outcome ending with
    | .error error => (.error error.statusWord, settled)
    | .ok () =>
      match exchange.finish with
      | .error error => (.error (CardError.exchange error).statusWord, settled)
      | .ok output =>
        let (response, replied) := settled.reply channel output command.accepted
        (.ok response, replied)

/-- What becomes of a command: the card answers it, or the applet in a context handles it. -/
inductive Route where
  | answered (response : List UInt8)
  | handled (context : ContextId) (selecting : Bool)
  deriving DecidableEq

/-- Opens or closes a channel. In the second parameter zero stands for the lowest closed channel or
for the one that the command came on; a channel chosen by the card is told in the response. -/
def manageChannel (card : Card σ) (command : Command) :
    Except StatusWord (List UInt8) × Card σ :=
  let named := command.p2.toNat
  if command.p1 = manageOpen then
    match card.openChannel command.channel (if named = 0 then none else some named) with
    | (.error word, card) => (.error word, card)
    | (.ok channel, card) =>
      let told := if named = 0 then [UInt8.ofNat channel] else []
      (.ok (told ++ StatusWord.noError.toBytes), card)
  else if command.p1 = manageClose then
    match card.closeChannel (if named = 0 then command.channel else named) with
    | (.error word, card) => (.error word, card)
    | (.ok (), card) => (.ok StatusWord.noError.toBytes, card)
  else (.error .incorrectParameters, card)

/-- Leaves a command to the applet selected on its channel. -/
def routeSelected (card : Card σ) (channel : Nat) (missing : StatusWord) :
    Except StatusWord Route :=
  match card.channels.selected channel with
  | none => .error missing
  | some context => .ok (.handled context false)

/-- Selects the applet that a command names and leaves the command to it. If the command names
none, it goes to the applet selected already. -/
def routeSelection (card : Card σ) (channel : Nat) (command : Command) :
    Except StatusWord Route × Card σ :=
  match card.registry.resolve? command.data with
  | none => (card.routeSelected channel .fileNotFound, card)
  | some entry =>
    match card.selectContext channel entry.context with
    | (.error word, card) => (.error word, card)
    | (.ok (), card) => (.ok (.handled entry.context true), card)

/-- Whether a command is the industry-wide one with the given instruction. -/
def isInstruction (command : Command) (instruction : UInt8) : Bool :=
  command.isInterindustry && command.instruction == instruction

/-- Does with a command all that the card itself does. -/
def route (card : Card σ) (command : Command) : Except StatusWord Route × Card σ :=
  let channel := command.channel
  if command.classByte = invalidClass then (.error .classNotSupported, card)
  else if !card.channels.isOpen channel then (.error .logicalChannelNotSupported, card)
  else
    let pending := card.channels.pending channel
    let taken := { card with channels := card.channels.setPending channel [] }
    if isInstruction command Command.getResponseInstruction && !pending.isEmpty then
      let (response, replied) := taken.reply channel pending command.accepted
      (.ok (.answered response), replied)
    else if isInstruction command Command.manageChannelInstruction then
      let (outcome, managed) := taken.manageChannel command
      (outcome.map Route.answered, managed)
    else if isInstruction command Command.selectInstruction && command.p1 == selectByName then
      taken.routeSelection channel command
    else (taken.routeSelected channel .commandNotAllowed, taken)

/-- Handles a command that has been read. -/
def dispatch (card : Card σ) (command : Command) : Except StatusWord (List UInt8) × Card σ :=
  match card.route command with
  | (.error word, card) => (.error word, card)
  | (.ok (.answered response), card) => (.ok response, card)
  | (.ok (.handled context selecting), card) =>
    card.process command.channel context command selecting

/-- Handles the bytes of a command and gives the bytes of the response. -/
def transmit (card : Card σ) (raw : List UInt8) : List UInt8 × Card σ :=
  match Command.parse raw card.config.extendedLength with
  | .error word => (word.toBytes, card)
  | .ok command =>
    match card.dispatch command with
    | (.error word, card) => (word.toBytes, card)
    | (.ok response, card) => (response, card)

/-! ### Buffers that no memory holds -/

/-- Whether an applet handles a command. -/
def isHandled (card : Card σ) (command : Command) : Bool :=
  match (card.route command).1 with
  | .ok (.handled _ _) => true
  | _ => false

/-- Whether the bytes of a command need a buffer that cannot be laid out. -/
def isOverburdenedBy (card : Card σ) (raw : List UInt8) : Bool :=
  blockLimit ≤ card.config.bufferSize &&
    match Command.parse raw card.config.extendedLength with
    | .error _ => false
    | .ok command => card.isHandled command

/-- Handles the bytes of a command, unless the card breaks down for want of a buffer. -/
def attempt? (card : Card σ) (raw : List UInt8) : Option (List UInt8 × Card σ) :=
  if card.isOverburdenedBy raw then none else some (card.transmit raw)

/-- A card whose buffers can be laid out answers every command. -/
theorem attempt?_eq_some {card : Card σ} (hbuffer : card.config.bufferSize < blockLimit)
    (raw : List UInt8) : card.attempt? raw = some (card.transmit raw) := by
  have hfits : card.isOverburdenedBy raw = false := by
    rw [isOverburdenedBy, decide_eq_false (Nat.not_le.mpr hbuffer), Bool.false_and]
  rw [attempt?, hfits]
  rfl

end SmartCard.Card
