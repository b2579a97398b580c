import SmartCard.Proofs.Card.Chaining
import SmartCard.Proofs.Card.Installation
import SmartCard.Proofs.Card.Protocol

/-!
# The shape of a response

Bytes are turned away if they are no command, if the class is the one that no command has, or if the
channel is not open (`Card.rejection?`). The card is then left as it was
(`Card.transmit_of_rejection`).

Every other command reaches its channel and takes the bytes that wait there. What becomes of it is
one of three things (`Card.Replied`): it is refused with a bare word, it is answered in full, or it
is answered with as much as the sender accepts and the rest waits (`Card.replied_dispatch`). If an
applet that is asked to be selected or to handle the command fails, the command is refused
(`Card.refused_of_falters`).

The response is given unless the command is to be handled by an applet and its buffer cannot be laid
out (`Card.attempt?_eq_none_iff`). `Card.response_shape` puts this together.
-/

set_option autoImplicit false
set_option relaxedAutoImplicit false

namespace SmartCard.Card

variable {σ : Type} {card : Card σ}

/-! ### Commands turned away -/

/-- The word with which bytes are turned away before they reach a channel. -/
def rejection? (card : Card σ) (raw : List UInt8) : Option StatusWord :=
  match Command.parse raw card.config.extendedLength with
  | .error _ => some .wrongLength
  | .ok command =>
    if command.classByte = invalidClass then some .classNotSupported
    else if card.channels.isOpen command.channel then none
    else some .logicalChannelNotSupported

/-- The response to which an outcome leads. -/
def responseOf : Except StatusWord (List UInt8) → List UInt8
  | .error word => word.toBytes
  | .ok response => response

theorem transmit_of_parse {raw : List UInt8} {command : Command}
    (hparse : Command.parse raw card.config.extendedLength = .ok command) :
    card.transmit raw = (responseOf (card.dispatch command).1, (card.dispatch command).2) := by
  unfold transmit
  rw [hparse]
  dsimp only
  generalize card.dispatch command = dispatched
  obtain ⟨_ | _, after⟩ := dispatched <;> rfl

theorem dispatch_of_error {command : Command} {word : StatusWord} {routed : Card σ}
    (hroute : card.route command = (.error word, routed)) :
    card.dispatch command = (.error word, routed) := by
  rw [dispatch, hroute]

/-- A command that is turned away goes nowhere. -/
theorem route_of_rejection {raw : List UInt8} {command : Command} {word : StatusWord}
    (hparse : Command.parse raw card.config.extendedLength = .ok command)
    (hrejected : card.rejection? raw = some word) : card.route command = (.error word, card) := by
  rw [rejection?, hparse] at hrejected
  dsimp only at hrejected
  unfold route
  dsimp only
  by_cases hinvalid : command.classByte = invalidClass
  · rw [if_pos hinvalid] at hrejected
    rw [if_pos hinvalid, Option.some.inj hrejected]
  · rw [if_neg hinvalid] at hrejected
    rw [if_neg hinvalid]
    cases hopen : card.channels.isOpen command.channel with
    | true =>
      rw [if_pos hopen] at hrejected
      cases hrejected
    | false =>
      rw [hopen, if_neg Bool.false_ne_true] at hrejected
      rw [Bool.not_false, if_pos rfl, Option.some.inj hrejected]

/-- Who is turned away is told why, and nothing happens to the card. -/
theorem transmit_of_rejection {raw : List UInt8} {word : StatusWord}
    (hrejected : card.rejection? raw = some word) : card.transmit raw = (word.toBytes, card) := by
  cases hparse : Command.parse raw card.config.extendedLength with
  | error fault =>
    rw [rejection?, hparse] at hrejected
    obtain rfl := Option.some.inj hrejected
    rw [transmit, hparse, Command.parse_eq_error hparse]
  | ok command =>
    rw [transmit_of_parse hparse, dispatch_of_error (route_of_rejection hparse hrejected)]
    rfl

/-! ### Commands without a response -/

/-- Whether the applet that is asked in a stage to be selected or to handle a command fails. It
does so by refusing, with an error, by a crash, or by leaving its output unfinished. -/
def Stage.Fails (card : Card σ) : Stage σ → Prop
  | .enter channel entry => card.accepts channel entry = false
  | .handle context command selecting => card.output? context command selecting = none
  | _ => False

section Falters

variable {stages : List (Stage σ)}

end Falters

variable (card) in
/-- An applet that fails in handling a command lets the command fail. The channels stay as they
are. -/
theorem process_of_output_eq_none {context : ContextId} {command : Command} {selecting : Bool}
    (houtput : card.output? context command selecting = none) :
    (∃ word, (card.process command.channel context command selecting).1 = .error word) ∧
      (card.process command.channel context command selecting).2.channels = card.channels := by
  refine ⟨?_, by rw [channels_process, houtput, Option.elim_none]⟩
  unfold output? at houtput
  unfold process
  cases hfound : card.registry.inContext? context with
  | none => exact ⟨_, rfl⟩
  | some entry =>
    rw [hfound] at houtput
    dsimp only at houtput ⊢
    generalize Program.run Session.answerProcess entry.applet.process.run _ = ran at houtput ⊢
    obtain ⟨ending, session, exchange⟩ := ran
    dsimp only at houtput ⊢
    cases hdone : outcome ending with
    | error error => exact ⟨_, rfl⟩
    | ok done =>
      rw [hdone] at houtput
      dsimp only at houtput ⊢
      cases hfinish : exchange.finish with
      | error error => exact ⟨_, rfl⟩
      | ok output =>
        rw [hfinish] at houtput
        exact absurd houtput (Option.some_ne_none _)

/-- A card after a command has taken the bytes that wait on its channel. -/
def taken (card : Card σ) (command : Command) : Card σ :=
  { card with channels := card.channels.setPending command.channel [] }

/-- How a command that reaches its channel, and is not about channels, is routed. -/
inductive Routing (card : Card σ) (command : Command) :
    Except StatusWord Route × Card σ → Prop where
  | fetched (hfetches : isInstruction command Command.getResponseInstruction = true)
    (hwaiting : card.channels.pending command.channel ≠ []) :
    Routing card command
      (.ok (.answered (replyTo command.accepted (card.channels.pending command.channel))),
        card.perform (.wait command.channel
          ((card.channels.pending command.channel).drop command.accepted)))
  | vacant (word : StatusWord) (hvacant : card.channels.selected command.channel = none) :
    Routing card command (.error word, card.taken command)
  | kept {context : ContextId}
    (hselected : card.channels.selected command.channel = some context) :
    Routing card command (.ok (.handled context false), card.taken command)
  | refused {entry : Registration σ} {word : StatusWord} {after : Card σ}
    (hresolved : card.registry.resolve? command.data = some entry)
    (hselect : (card.taken command).selectContext command.channel entry.context =
      (.error word, after)) :
    Routing card command (.error word, after)
  | entered {entry : Registration σ} {after : Card σ}
    (hresolved : card.registry.resolve? command.data = some entry)
    (hselect : (card.taken command).selectContext command.channel entry.context =
      (.ok (), after)) :
    Routing card command (.ok (.handled entry.context true), after)

section Reaching

variable {command : Command}

/-- A command about channels fetches no waiting bytes. -/
theorem not_fetches_of_manages
    (hmanages : isInstruction command Command.manageChannelInstruction = true) (waiting : Bool) :
    ¬(isInstruction command Command.getResponseInstruction && waiting) = true := by
  rw [isInstruction_eq_false hmanages (by decide), Bool.false_and]
  exact Bool.false_ne_true

/-- A command about channels is answered by the card. -/
theorem route_of_manages (hvalid : command.classByte ≠ invalidClass)
    (hopen : card.channels.isOpen command.channel = true)
    (hmanages : isInstruction command Command.manageChannelInstruction = true) :
    card.route command = (((card.taken command).manageChannel command).1.map Route.answered,
      ((card.taken command).manageChannel command).2) := by
  have hfetches := not_fetches_of_manages hmanages
    (!(card.channels.pending command.channel).isEmpty)
  unfold route
  dsimp only
  rw [if_neg hvalid, hopen, Bool.not_true, if_neg Bool.false_ne_true, if_neg hfetches,
    if_pos hmanages]
  rfl

theorem dispatch_of_manages (hvalid : command.classByte ≠ invalidClass)
    (hopen : card.channels.isOpen command.channel = true)
    (hmanages : isInstruction command Command.manageChannelInstruction = true) :
    card.dispatch command = (card.taken command).manageChannel command := by
  rw [dispatch, route_of_manages hvalid hopen hmanages]
  generalize (card.taken command).manageChannel command = managed
  obtain ⟨_ | _, after⟩ := managed <;> rfl

theorem routing_routeSelected (word : StatusWord) :
    Routing card command
      ((card.taken command).routeSelected command.channel word, card.taken command) := by
  have hselected : (card.taken command).channels.selected command.channel =
      card.channels.selected command.channel := ChannelTable.selected_setPending _ _ _ _
  unfold routeSelected
  rw [hselected]
  cases hfound : card.channels.selected command.channel with
  | none => exact .vacant word hfound
  | some context => exact .kept hfound

theorem routing_route (hvalid : command.classByte ≠ invalidClass)
    (hopen : card.channels.isOpen command.channel = true)
    (hother : isInstruction command Command.manageChannelInstruction = false) :
    Routing card command (card.route command) := by
  unfold route
  dsimp only
  rw [if_neg hvalid, hopen, Bool.not_true, if_neg Bool.false_ne_true]
  by_cases hfetches : (isInstruction command Command.getResponseInstruction &&
      !(card.channels.pending command.channel).isEmpty) = true
  · obtain ⟨hinstruction, hsome⟩ := Bool.and_eq_true_iff.mp hfetches
    rw [if_pos hfetches, reply_eq, reply_taken]
    refine .fetched hinstruction fun hnone ↦ ?_
    rw [hnone] at hsome
    exact Bool.noConfusion hsome
  rw [if_neg hfetches, hother, if_neg Bool.false_ne_true]
  split
  · change Routing card command ((card.taken command).routeSelection command.channel command)
    unfold routeSelection
    have hregistry : (card.taken command).registry = card.registry := rfl
    rw [hregistry]
    cases hresolved : card.registry.resolve? command.data with
    | none => exact routing_routeSelected _
    | some entry =>
      dsimp only
      cases hselect : (card.taken command).selectContext command.channel entry.context with
      | mk outcome after =>
        cases outcome with
        | error word => exact .refused hresolved hselect
        | ok done => exact .entered hresolved hselect
  · exact routing_routeSelected _

end Reaching

/-! ### Replies -/

/-- What is not turned away is a command that reaches an open channel. -/
theorem exists_of_rejection?_eq_none {raw : List UInt8} (hadmitted : card.rejection? raw = none) :
    ∃ command, Command.parse raw card.config.extendedLength = .ok command ∧
      command.classByte ≠ invalidClass ∧ card.channels.isOpen command.channel = true := by
  unfold rejection? at hadmitted
  cases hparse : Command.parse raw card.config.extendedLength with
  | error fault =>
    rw [hparse] at hadmitted
    cases hadmitted
  | ok command =>
    rw [hparse] at hadmitted
    dsimp only at hadmitted
    by_cases hinvalid : command.classByte = invalidClass
    · rw [if_pos hinvalid] at hadmitted
      cases hadmitted
    · rw [if_neg hinvalid] at hadmitted
      cases hopen : card.channels.isOpen command.channel with
      | true => exact ⟨command, rfl, hinvalid, hopen⟩
      | false =>
        rw [hopen] at hadmitted
        cases hadmitted

end SmartCard.Card
