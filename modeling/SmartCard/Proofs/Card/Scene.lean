import SmartCard.Proofs.Card.Waiting

/-!
# The scenes of a run

`Card.scenes` are the stages of a run, each with the card that it begins with, and the run is made
of them (`Card.enacts`). An operation finds the card ready for each of its stages
(`Card.Stage.IsReady`, `Card.isReady_stages`): an applet that enters a channel is registered and the
channel is open, a command is handled by the applet selected on its channel, and an applet is
expelled when it has left all its channels.
-/

set_option autoImplicit false
set_option relaxedAutoImplicit false

namespace SmartCard.Card

variable {σ : Type}

/-- Stages one after another, each with the card that it begins with. -/
def along : Card σ → List (Stage σ) → List (Card σ × Stage σ)
  | _, [] => []
  | card, stage :: rest => (card, stage) :: along (card.perform stage) rest

/-- The stages of operations one after another, each with the card that it begins with. -/
def scenes : Card σ → List (Operation σ) → List (Card σ × Stage σ)
  | _, [] => []
  | card, operation :: rest =>
    along card (card.stages operation) ++ scenes (card.next operation) rest

theorem along_append (card : Card σ) (first second : List (Stage σ)) :
    along card (first ++ second) =
      along card first ++ along (first.foldl perform card) second := by
  induction first generalizing card with
  | nil => rfl
  | cons stage rest ih => exact congrArg (List.cons _) (ih _)

theorem scenes_append (card : Card σ) (first second : List (Operation σ)) :
    scenes card (first ++ second) =
      scenes card first ++ scenes (first.foldl next card) second := by
  induction first generalizing card with
  | nil => rfl
  | cons operation rest ih =>
    rw [List.cons_append, scenes, ih, scenes, List.append_assoc]
    rfl

theorem map_snd_along (card : Card σ) (stages : List (Stage σ)) :
    (along card stages).map Prod.snd = stages := by
  induction stages generalizing card with
  | nil => rfl
  | cons stage rest ih => exact congrArg (List.cons stage) (ih _)

/-- What happens in stages is one of them. -/
theorem mem_of_mem_along {card : Card σ} {stages : List (Stage σ)} {scene : Card σ × Stage σ}
    (hscene : scene ∈ along card stages) : scene.2 ∈ stages := by
  rw [← map_snd_along card stages]
  exact List.mem_map_of_mem hscene

/-- The stages of a run, one after another. -/
def runStages (card : Card σ) (operations : List (Operation σ)) : List (Stage σ) :=
  (scenes card operations).map Prod.snd

theorem runStages_cons (card : Card σ) (operation : Operation σ) (rest : List (Operation σ)) :
    card.runStages (operation :: rest) =
      card.stages operation ++ (card.next operation).runStages rest := by
  unfold runStages
  rw [scenes, List.map_append, map_snd_along]

theorem scenes_eq_along (card : Card σ) (operations : List (Operation σ)) :
    scenes card operations = along card (card.runStages operations) := by
  induction operations generalizing card with
  | nil => rfl
  | cons operation rest ih => rw [runStages_cons, along_append, foldl_stages, ← ih, scenes]

theorem foldl_runStages (card : Card σ) (operations : List (Operation σ)) :
    (card.runStages operations).foldl perform card = operations.foldl next card := by
  induction operations generalizing card with
  | nil => rfl
  | cons operation rest ih =>
    rw [runStages_cons, List.foldl_append, foldl_stages, ih, List.foldl_cons]

/-- Whether the scenes of a run are what really happens in it: each begins with the card that the
stage before it leaves, the stages of an operation are what the operation does, and in those that
are about a selection the applet leaves or enters the channel just as the card has it. -/
structure Enacts (card : Card σ) (operations : List (Operation σ)) : Prop where
  scenes_eq : scenes card operations = along card (card.runStages operations)
  foldl_eq : (card.runStages operations).foldl perform card = operations.foldl next card
  stages_eq : ∀ (before : Card σ) operation,
    (before.stages operation).foldl perform before = before.next operation
  leave_eq : ∀ (before : Card σ) channel, before.perform (.leave channel) = before.deselect channel
  enter_eq : ∀ (before : Card σ) channel context entry,
    before.registry.inContext? context = some entry → before.isBusy channel entry = false →
      before.selectContext channel context = (before.deselect channel).seat channel entry
  busy_eq : ∀ (before : Card σ) channel context entry,
    before.registry.inContext? context = some entry → before.isBusy channel entry = true →
      before.selectContext channel context = (.error .conditionsNotSatisfied, before)

/-- Every run is made of its stages. -/
theorem enacts (card : Card σ) (operations : List (Operation σ)) : card.Enacts operations where
  scenes_eq := card.scenes_eq_along operations
  foldl_eq := card.foldl_runStages operations
  stages_eq := foldl_stages
  leave_eq _ _ := rfl
  enter_eq _ _ _ _ := selectContext_eq
  busy_eq _ _ _ _ := selectContext_of_isBusy

/-! ### Stages for which the card is ready -/

/-- Whether a card is ready for a stage. -/
def Stage.IsReady (card : Card σ) : Stage σ → Prop
  | .wait channel _ => card.channels.isOpen channel = true
  | .enter channel entry => entry ∈ card.registry.entries ∧ card.channels.isOpen channel = true ∧
      (entry.applet.multiSelectable = true ∨
        card.channels.activeElsewhere entry.context channel = false)
  | .handle context command _ => card.channels.isOpen command.channel = true ∧
      card.channels.selected command.channel = some context
  | .expel entry => entry ∈ card.registry.entries ∧ card.channels.channelsOf entry.context = []
  | .adjust change => (∃ writes, change = (·.arm writes)) ∨ change = (·.disarm)
  | .reserve _ | .shut _ | .leave _ | .install _ _ _ | .inspect _ _ | .reset | .tell _ => True

/-- Whether a card is ready for each of some stages when it comes. -/
def IsReady (card : Card σ) (stages : List (Stage σ)) : Prop :=
  ∀ scene ∈ along card stages, scene.2.IsReady scene.1

section IsReady

variable {card : Card σ} {stage : Stage σ} {stages others : List (Stage σ)}

theorem isReady_nil : IsReady card [] :=
  List.forall_mem_nil _

theorem IsReady.cons (hfirst : stage.IsReady card) (hrest : IsReady (card.perform stage) stages) :
    IsReady card (stage :: stages) :=
  List.forall_mem_cons.mpr ⟨hfirst, hrest⟩

theorem isReady_singleton (hstage : stage.IsReady card) : IsReady card [stage] :=
  .cons hstage isReady_nil

theorem IsReady.append (hfirst : IsReady card stages)
    (hsecond : IsReady (stages.foldl perform card) others) : IsReady card (stages ++ others) := by
  unfold IsReady
  rw [along_append]
  exact List.forall_mem_append.mpr ⟨hfirst, hsecond⟩

variable (card)

theorem isReady_selectContext {channel : Nat} (hopen : card.channels.isOpen channel = true)
    (context : ContextId) : IsReady card (card.selectContextStages channel context) := by
  unfold selectContextStages
  cases hfound : card.registry.inContext? context with
  | none => exact isReady_nil
  | some entry =>
    obtain ⟨hentry, rfl⟩ := mem_of_inContext? hfound
    dsimp only
    cases hbusy : card.isBusy channel entry with
    | true => exact isReady_nil
    | false =>
      refine .cons trivial (isReady_singleton ⟨?_, ?_, ?_⟩)
      · exact (card.registry_deselect channel).symm ▸ hentry
      · rw [isOpen_perform rfl]
        exact hopen
      · rw [isBusy, Bool.and_eq_false_iff, Bool.not_eq_false'] at hbusy
        rw [perform, channels_deselect]
        exact hbusy.imp_right ChannelTable.activeElsewhere_setSelected_none

theorem isReady_leave (channels : List Nat) : IsReady card (channels.map .leave) := by
  induction channels generalizing card with
  | nil => exact isReady_nil
  | cons channel rest ih => exact .cons trivial (ih _)

theorem isReady_openChannel (origin : Nat) (requested : Option Nat) :
    IsReady card (card.openChannelStages origin requested) := by
  unfold openChannelStages
  split
  · exact isReady_nil
  cases hreserved : reserveChannel card.channels requested with
  | error word => exact isReady_nil
  | ok reserved =>
    obtain ⟨channel, channels⟩ := reserved
    obtain ⟨rfl, hchannel⟩ := reserveChannel_eq_ok hreserved
    dsimp only
    generalize (if origin = 0 then none else _) = initial
    cases initial with
    | none => exact isReady_singleton trivial
    | some context =>
      dsimp only
      set opened : Card σ := { card with channels := card.channels.markOpen channel }
      have hopen : opened.channels.isOpen channel = true := ChannelTable.isOpen_markOpen hchannel
      refine .append (.cons trivial (isReady_selectContext opened hopen context)) ?_
      generalize opened.selectContext channel context = outcome
      obtain ⟨_ | _, after⟩ := outcome
      · exact isReady_singleton trivial
      · exact isReady_nil

theorem isReady_closeChannel (channel : Nat) : IsReady card (card.closeChannelStages channel) := by
  unfold closeChannelStages
  split
  · exact isReady_nil
  · exact .cons trivial (isReady_singleton trivial)

theorem isReady_dispatch (command : Command) : IsReady card (card.dispatchStages command) := by
  have hrouted : IsReady card (card.routeStages command) := by
    unfold routeStages
    dsimp only
    split
    · exact isReady_nil
    by_cases hopen : card.channels.isOpen command.channel = true
    · rw [if_neg (by rw [hopen]; exact Bool.false_ne_true)]
      have htaken : (card.perform (.wait command.channel [])).channels.isOpen command.channel =
          true := (isOpen_perform rfl card).trans hopen
      split
      · exact isReady_singleton hopen
      split
      · refine .cons hopen ?_
        unfold manageChannelStages
        dsimp only
        split
        · exact isReady_openChannel _ _ _
        split
        · exact isReady_closeChannel _ _
        · exact isReady_nil
      split
      · refine .cons hopen ?_
        unfold routeSelectionStages
        cases card.registry.resolve? command.data with
        | none => exact isReady_nil
        | some entry => exact isReady_selectContext _ htaken entry.context
      · exact isReady_singleton hopen
    · rw [if_pos (by rw [Bool.not_eq_true] at hopen; rw [hopen]; rfl)]
      exact isReady_nil
  refine hrouted.append ?_
  rw [foldl_routeStages]
  cases hroute : card.route command with
  | mk outcome routed =>
    obtain _ | _ | ⟨context, selecting⟩ := outcome
    · exact isReady_nil
    · exact isReady_nil
    · obtain ⟨hopen, hselected, -⟩ := route_handled hroute
      exact isReady_singleton ⟨hopen, hselected⟩

/-- An operation finds the card ready for each of its stages. -/
theorem isReady_stages (operation : Operation σ) : IsReady card (card.stages operation) := by
  cases operation with
  | transmit raw =>
    rw [stages, transmitStages]
    cases Command.parse raw card.config.extendedLength with
    | error word => exact isReady_nil
    | ok command => exact card.isReady_dispatch command
  | select aid channel =>
    rw [stages, selectStages]
    cases card.registry.find? aid.bytes with
    | none => exact isReady_nil
    | some entry =>
      dsimp only
      split
      · exact card.isReady_selectContext ‹_› entry.context
      · exact isReady_nil
  | openChannel origin requested => exact card.isReady_openChannel origin requested
  | closeChannel channel => exact card.isReady_closeChannel channel
  | uninstall aid =>
    rw [stages, uninstallStages]
    cases hfound : card.registry.find? aid.bytes with
    | none => exact isReady_nil
    | some entry =>
      dsimp only
      refine .append (card.isReady_leave _) (isReady_singleton ?_)
      rw [foldl_leave, Stage.IsReady, registry_deselectAll, channels_deselectAll]
      exact ⟨List.mem_of_find?_eq_some hfound,
        ChannelTable.channelsOf_foldl_setSelected_none card.channels entry.context⟩
  | armTear writes => exact isReady_singleton (.inl ⟨writes, rfl⟩)
  | disarmTear => exact isReady_singleton (.inr rfl)
  | deselect | install | inspect | reset | setHost => exact isReady_singleton trivial

end IsReady

end SmartCard.Card
