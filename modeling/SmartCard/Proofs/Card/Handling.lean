import SmartCard.Proofs.Applet.Responding
import SmartCard.Proofs.Card.Residence
import SmartCard.Proofs.Card.Waiting

/-!
# Commands to the applet selected on a channel

A command that is none of the card's own goes to the applet selected on its channel
(`Card.route_of_selected`). What the applet's code ends with is what the card answers
(`Card.replyOf`), and memory is what the code leaves once the card has undone what it left open;
nothing else changes but the bytes that wait (`Card.transmit_of_selected`).
-/

set_option autoImplicit false
set_option relaxedAutoImplicit false

namespace SmartCard.Card

variable {σ : Type} {card : Card σ}

/-- Whether a command is none of those that the card may answer by itself. -/
def IsForApplet (command : Command) : Prop :=
  command.classByte ≠ invalidClass ∧ command.instruction ∉
    [Command.getResponseInstruction, Command.manageChannelInstruction, Command.selectInstruction]

/-- Channels on which an applet is selected are open. -/
theorem Coheres.isOpen_of_selected {config : Config} (hcoheres : card.Coheres config)
    {channel : Nat} {context : ContextId}
    (hselected : card.channels.selected channel = some context) :
    card.channels.isOpen channel = true := by
  by_contra hshut
  have hvacant :=
    (hcoheres.isOrderly.closed_empty channel (Bool.eq_false_of_not_eq_true hshut)).1
  rw [hselected] at hvacant
  cases hvacant

/-- It goes to the applet selected on its channel, which is open. -/
theorem route_of_selected {command : Command} {context : ContextId} (hown : IsForApplet command)
    (hopen : card.channels.isOpen command.channel = true)
    (hselected : card.channels.selected command.channel = some context) :
    (card.route command).1 = .ok (.handled context false) := by
  obtain ⟨hclass, hinstruction⟩ := hown
  simp only [List.mem_cons, List.not_mem_nil, or_false, not_or] at hinstruction
  obtain ⟨hfetch, hmanage, hselect⟩ := hinstruction
  have htaken : (card.channels.setPending command.channel []).selected command.channel =
      some context := (ChannelTable.selected_setPending _ _ _ _).trans hselected
  unfold route
  dsimp only
  rw [if_neg hclass, hopen, if_neg (by decide), isInstruction_of_ne hfetch,
    isInstruction_of_ne hmanage, isInstruction_of_ne hselect, Bool.false_and, Bool.false_and,
    if_neg Bool.false_ne_true, if_neg Bool.false_ne_true, if_neg Bool.false_ne_true, routeSelected,
    htaken]

/-- A command that an applet handles, and not as its selection, has been taken and nothing more. -/
theorem route_of_handled {command : Command} {context : ContextId}
    (hroute : (card.route command).1 = .ok (.handled context false)) :
    card.route command = (.ok (.handled context false),
      { card with channels := card.channels.setPending command.channel [] }) := by
  generalize hrouted : card.route command = result at hroute
  obtain ⟨_, routed⟩ := result
  obtain rfl : _ = Except.ok (Route.handled context false) := hroute
  refine Prod.ext rfl ?_
  unfold route at hrouted
  dsimp only at hrouted
  split at hrouted
  · cases hrouted
  split at hrouted
  · cases hrouted
  split at hrouted
  · cases hrouted
  split at hrouted
  · generalize manageChannel _ command = managed at hrouted
    obtain ⟨_ | _, _⟩ := managed <;> cases hrouted
  split at hrouted
  · unfold routeSelection at hrouted
    split at hrouted
    · exact (congrArg Prod.snd hrouted).symm
    · split at hrouted <;> cases hrouted
  · exact (congrArg Prod.snd hrouted).symm

/-- The response of an applet whose code has ended. -/
def replyOf (result : Except CardError Unit) (left : Exchange) (accepted : Nat) : List UInt8 :=
  match result with
  | .error error => error.statusWord.toBytes
  | .ok () =>
    match left.finish with
    | .error error => (CardError.exchange error).statusWord.toBytes
    | .ok output => replyTo accepted output

theorem replyOf_of_finish {left : Exchange} {output : List UInt8}
    (hfinish : left.finish = .ok output) (accepted : Nat) :
    replyOf (.ok ()) left accepted = replyTo accepted output := by
  rw [replyOf, hfinish]

/-- What becomes of a card when the applet selected on a channel handles a command with some
outcome. -/
structure Answers (card : Card σ) (raw : List UInt8) (command : Command)
    (result : Except CardError Unit) (after : Session σ) (left : Exchange) : Prop where
  reply_eq : (card.transmit raw).1 = replyOf result left command.accepted
  platform_eq : (card.transmit raw).2.platform = after.platform.settle
  registry_eq : (card.transmit raw).2.registry = card.registry
  selected_eq : ∀ channel,
    (card.transmit raw).2.channels.selected channel = card.channels.selected channel

/-- The applet selected on the channel of a command answers as its code does. -/
theorem transmit_of_selected {raw : List UInt8} {command : Command} {context : ContextId}
    {entry : Registration σ}
    (hparse : Command.parse raw card.config.extendedLength = .ok command)
    (hroute : (card.route command).1 = .ok (.handled context false))
    (hfound : card.registry.inContext? context = some entry) {result : Except CardError Unit}
    {after : Session σ} {left : Exchange}
    (hhandle : (Session.mk ⟨context, command.channel, false⟩ card.platform card.host none).handle
      (Exchange.start command card.config.bufferSize false) entry.applet.process =
        (.value result, after, left)) :
    card.Answers raw command result after left := by
  have hrouted := route_of_handled hroute
  set taken : Card σ := { card with channels := card.channels.setPending command.channel [] }
  have hrun : Program.run Session.answerProcess entry.applet.process.run
      (⟨⟨context, command.channel, false⟩, taken.platform, taken.host, none⟩,
        Exchange.start command taken.config.bufferSize false) =
          (.value result, after, left) := hhandle
  have htransmit : (card.transmit raw).2 =
      (taken.process command.channel context command false).2 := by
    unfold transmit dispatch
    rw [hparse]
    dsimp only
    rw [hrouted]
    dsimp only
    generalize taken.process command.channel context command false = processed
    obtain ⟨_ | _, _⟩ := processed <;> rfl
  have hprocess : (card.transmit raw).1 = replyOf result left command.accepted ∧
      (taken.process command.channel context command false).2.platform = after.platform.settle := by
    unfold transmit dispatch
    rw [hparse]
    dsimp only
    rw [hrouted]
    dsimp only
    unfold process replyOf
    dsimp only
    rw [show taken.registry.inContext? context = some entry from hfound]
    dsimp only
    rw [hrun]
    dsimp only
    cases result with
    | error error => exact ⟨rfl, rfl⟩
    | ok done =>
      rw [outcome]
      dsimp only
      cases left.finish with
      | error error => exact ⟨rfl, rfl⟩
      | ok output =>
        refine ⟨reply_eq _ _ _, ?_⟩
        dsimp only
        unfold reply
        split <;> rfl
  constructor
  case reply_eq => exact hprocess.1
  case platform_eq => exact htransmit ▸ hprocess.2
  case registry_eq => exact htransmit ▸ taken.registry_process _ _ _ _
  case selected_eq =>
    intro channel
    have htaken : taken.channels.selected channel = card.channels.selected channel :=
      ChannelTable.selected_setPending _ _ _ _
    rw [htransmit, ← htaken]
    exact @selected_perform σ (.handle context command false) channel rfl taken

end SmartCard.Card
