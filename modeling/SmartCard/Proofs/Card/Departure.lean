import SmartCard.Proofs.Card.Coherence
import SmartCard.Proofs.Memory.Cell

/-!
# What an applet loses when it leaves a channel

An applet stops being selected on a channel in two kinds of stages: when it leaves the channel, and
when it is asked to take the channel and does not accept (`Card.Departure`). Either ends in the same
way: the applet has been told, what it left open has been undone, and then its clear-on-deselect
memory is forgotten unless it is still selected somewhere (`Card.forget`), although the two look for
other channels in different ways (`Card.deselect_eq`, `Card.refuseSelection_eq`).

So in every run, which is made of its stages (`Card.enacts`), whatever a departure clears is the
clear-on-deselect memory of the applet that departs, all of it or nothing (`Card.Departure.Clears`),
no selection is lost without a departure but at a reset, and an applet that is refused because it is
selected elsewhere loses nothing (`Card.departures_clear`).
-/

set_option autoImplicit false
set_option relaxedAutoImplicit false

namespace SmartCard

namespace Card

variable {σ : Type}

/-- Forgets what a context's applet loses by deselection, unless it is selected on some channel. -/
def forget (card : Card σ) (context : ContextId) : Card σ :=
  if (card.channels.channelsOf context).isEmpty then card.clearOnDeselect context else card

/-- Takes an applet off a channel and tells it, and undoes what it leaves open. -/
def farewell (card : Card σ) (channel : Nat) (context : ContextId) : Card σ :=
  let cleared := card.setSelected channel none
  let told := match cleared.registry.inContext? context with
    | some entry => (cleared.activate ⟨context, channel, false⟩ entry.applet.deselect).2
    | none => cleared
  told.settle

/-- Asks an applet whether it takes a channel, undoes what it leaves open, and takes it off the
channel again. -/
def rebuff (card : Card σ) (channel : Nat) (entry : Registration σ) : Card σ :=
  let prepared := card.setSelected channel (some entry.context)
  (prepared.activate ⟨entry.context, channel, true⟩ entry.applet.select).2.settle.setSelected
    channel none

/-- An applet that stops being selected on a channel. -/
structure Departure (σ : Type) where
  channel : Nat
  context : ContextId
  /-- The card when the applet has been told and has left the channel. -/
  told : Card σ

/-- The departure in a stage. -/
def departure? (card : Card σ) : Stage σ → Option (Departure σ)
  | .leave channel => (card.channels.selected channel).map fun context ↦
      ⟨channel, context, card.farewell channel context⟩
  | .enter channel entry => (card.seat channel entry).1.toOption.elim
      (some ⟨channel, entry.context, card.rebuff channel entry⟩) fun _ ↦ none
  | _ => none

/-- Whether a departure that leads to some card clears what it should. -/
structure Departure.Clears (departure : Departure σ) (after : Card σ) : Prop where
  cleared : (∀ channel, after.channels.selected channel ≠ some departure.context) →
    ∀ id region, after.platform.store.heap.find? id = some region →
      region.owner = departure.context → region.lifetime = .clearOnDeselect → region.cells.IsBlank
  kept : ∀ channel, after.channels.selected channel = some departure.context →
    after = departure.told
  others_kept : ∀ id region, departure.told.platform.store.heap.find? id = some region →
    region.owner ≠ departure.context ∨ region.lifetime ≠ .clearOnDeselect →
      after.platform.store.heap.find? id = some region
  isLive_eq : ∀ id, after.platform.store.heap.isLive id =
    departure.told.platform.store.heap.isLive id
  left : after.channels.selected departure.channel = none
  rest_kept : after.channels = departure.told.channels ∧
    after.registry = departure.told.registry ∧
    after.platform.contexts = departure.told.platform.contexts ∧
    after.platform.store.transaction = departure.told.platform.store.transaction

/-! ### Both ways to depart -/

/-- An applet that leaves a channel is told before it forgets. -/
theorem deselect_eq {card : Card σ} {channel : Nat} {context : ContextId}
    (hselected : card.channels.selected channel = some context) :
    card.deselect channel = (card.farewell channel context).forget context := by
  unfold deselect
  rw [hselected]
  rfl

/-- An applet off a channel is active elsewhere just when it is selected on some channel. -/
theorem isEmpty_channelsOf {table : ChannelTable} {context : ContextId} {channel : Nat}
    (hleft : table.selected channel ≠ some context) :
    (table.channelsOf context).isEmpty = !table.activeElsewhere context channel := by
  cases helsewhere : table.activeElsewhere context channel with
  | false =>
    refine List.isEmpty_iff.mpr (ChannelTable.channelsOf_eq_nil_iff.mpr fun other hother ↦ hleft ?_)
    exact ChannelTable.activeElsewhere_eq_false_iff.mp helsewhere other hother ▸ hother
  | true =>
    refine List.isEmpty_eq_false_iff.mpr fun hnone ↦ ?_
    rw [ChannelTable.activeElsewhere, hnone] at helsewhere
    exact nomatch helsewhere

/-- An applet refused on a channel forgets just like one that leaves it. -/
theorem refuseSelection_eq (card : Card σ) (channel : Nat) (context : ContextId) :
    card.refuseSelection channel context = (card.setSelected channel none).forget context := by
  have hleft : (card.setSelected channel none).channels.selected channel ≠ some context := by
    rw [setSelected, ChannelTable.selected_setSelected_none, if_pos rfl]
    exact (Option.some_ne_none context).symm
  unfold refuseSelection forget
  dsimp only
  rw [isEmpty_channelsOf hleft]
  cases (card.setSelected channel none).channels.activeElsewhere context channel <;> rfl

theorem seat_of_refused {card : Card σ} {channel : Nat} {entry : Registration σ}
    (hrefused : (card.seat channel entry).1.toOption = none) :
    (card.seat channel entry).2 = (card.rebuff channel entry).forget entry.context := by
  unfold seat rebuff at *
  dsimp only at hrefused ⊢
  generalize activate _ _ entry.applet.select = outcome at hrefused ⊢
  obtain ⟨(_ | _) | _, asked⟩ := outcome
  · exact refuseSelection_eq _ channel entry.context
  · exact nomatch hrefused
  · exact refuseSelection_eq _ channel entry.context

/-- A departure ends with forgetting, when the applet has left the channel. -/
theorem perform_of_departure {card : Card σ} {stage : Stage σ} {departure : Departure σ}
    (hdeparture : card.departure? stage = some departure) :
    card.perform stage = departure.told.forget departure.context ∧
      departure.told.channels.selected departure.channel = none := by
  have hleft : ∀ (table : ChannelTable) channel,
      (table.setSelected channel none).selected channel = none := fun table channel ↦
    (table.selected_setSelected_none channel channel).trans (if_pos rfl)
  cases stage with
  | leave channel =>
    rw [departure?, Option.map_eq_some_iff] at hdeparture
    obtain ⟨context, hselected, rfl⟩ := hdeparture
    refine ⟨deselect_eq hselected, ?_⟩
    unfold farewell
    dsimp only
    cases (card.setSelected channel none).registry.inContext? context <;> exact hleft _ channel
  | enter channel entry =>
    rw [departure?] at hdeparture
    cases hoption : (card.seat channel entry).1.toOption with
    | none =>
      rw [hoption] at hdeparture
      obtain rfl := Option.some.inj hdeparture
      exact ⟨seat_of_refused hoption, hleft _ channel⟩
    | some done =>
      rw [hoption] at hdeparture
      exact nomatch hdeparture
  | wait | reserve | shut | handle | install | expel | inspect | reset | adjust | tell =>
    exact nomatch hdeparture

/-- What an applet loses is forgotten, and nothing else. -/
theorem find?_clearOnDeselect (card : Card σ) (context : ContextId) (id : Nat) :
    (card.clearOnDeselect context).platform.store.heap.find? id =
      (card.platform.store.heap.find? id).map fun region ↦
        if Heap.isClearedOnDeselect context region then
          { region with cells := region.cells.cleared }
        else region :=
  Heap.find?_mapRegions card.platform.store.heap _ id

/-- A departure clears what it should. -/
theorem Departure.clears {card : Card σ} {stage : Stage σ} {departure : Departure σ}
    (hdeparture : card.departure? stage = some departure) :
    departure.Clears (card.perform stage) := by
  obtain ⟨hafter, hleft⟩ := perform_of_departure hdeparture
  rw [hafter, forget]
  obtain ⟨channel, context, told⟩ := departure
  dsimp only at hleft ⊢
  by_cases hidle : (told.channels.channelsOf context).isEmpty = true
  · have hnowhere := ChannelTable.channelsOf_eq_nil_iff.mp (List.isEmpty_iff.mp hidle)
    rw [if_pos hidle]
    refine ⟨?_, fun other hother ↦ absurd hother (hnowhere other), ?_, ?_, hleft, rfl, rfl, rfl,
      rfl⟩
    · intro _ id region hfind howner hlifetime
      rw [find?_clearOnDeselect, Option.map_eq_some_iff] at hfind
      obtain ⟨former, -, rfl⟩ := hfind
      by_cases hcleared : Heap.isClearedOnDeselect context former = true
      · rw [if_pos hcleared]
        exact Cells.isBlank_cleared former.cells
      · rw [if_neg hcleared] at howner hlifetime
        rw [Heap.isClearedOnDeselect, howner, hlifetime] at hcleared
        exact absurd (by simp) hcleared
    · intro id region hfind hother
      have hstays : Heap.isClearedOnDeselect context region = false := by
        rw [Heap.isClearedOnDeselect, Bool.and_eq_false_iff, beq_eq_false_iff_ne,
          beq_eq_false_iff_ne]
        exact hother
      rw [find?_clearOnDeselect, hfind, Option.map_some, hstays]
      rfl
    · intro id
      rw [Heap.isLive, Heap.isLive, find?_clearOnDeselect, Option.isSome_map]
  · rw [if_neg hidle]
    refine ⟨fun hnowhere ↦ ?_, fun _ _ ↦ rfl, fun _ _ hfind _ ↦ hfind, fun _ ↦ rfl, hleft, rfl, rfl,
      rfl, rfl⟩
    exact absurd (List.isEmpty_iff.mpr (ChannelTable.channelsOf_eq_nil_iff.mpr hnowhere)) hidle

/-! ### Channels that are vacant -/

/-- The channel that a stage finds vacant, if it needs one. -/
def Stage.vacant? : Stage σ → Option Nat
  | .enter channel _ | .shut channel => some channel
  | _ => none

/-- Whether stages find every channel vacant that they need so. -/
def FindVacant (card : Card σ) (stages : List (Stage σ)) : Prop :=
  ∀ scene ∈ along card stages, ∀ channel, scene.2.vacant? = some channel →
    scene.1.channels.selected channel = none

section FindVacant

variable {card : Card σ} {stage : Stage σ} {stages others : List (Stage σ)}

theorem findVacant_nil : FindVacant card [] :=
  List.forall_mem_nil _

theorem FindVacant.cons
    (hvacant : ∀ channel, stage.vacant? = some channel → card.channels.selected channel = none)
    (hrest : FindVacant (card.perform stage) stages) : FindVacant card (stage :: stages) :=
  List.forall_mem_cons.mpr ⟨hvacant, hrest⟩

/-- A stage that needs no channel vacant, and those behind it. -/
theorem FindVacant.next (hnone : stage.vacant? = none)
    (hrest : FindVacant (card.perform stage) stages) : FindVacant card (stage :: stages) := by
  refine .cons (fun channel hchannel ↦ ?_) hrest
  rw [hnone] at hchannel
  cases hchannel

theorem FindVacant.append (hfirst : FindVacant card stages)
    (hsecond : FindVacant (stages.foldl perform card) others) :
    FindVacant card (stages ++ others) := by
  unfold FindVacant
  rw [along_append]
  exact List.forall_mem_append.mpr ⟨hfirst, hsecond⟩

/-- Stages that need no channel vacant. -/
theorem findVacant_of_forall (hnone : ∀ stage ∈ stages, stage.vacant? = none) :
    FindVacant card stages := by
  intro scene hscene channel hchannel
  rw [hnone scene.2 (mem_of_mem_along hscene)] at hchannel
  exact nomatch hchannel

end FindVacant

section Operations

variable (card : Card σ)

/-- An applet that has left a channel is not selected there. -/
theorem selected_deselect (channel : Nat) :
    (card.deselect channel).channels.selected channel = none := by
  rw [channels_deselect, ChannelTable.selected_setSelected_none, if_pos rfl]

theorem findVacant_selectContext (channel : Nat) (context : ContextId) :
    FindVacant card (card.selectContextStages channel context) := by
  unfold selectContextStages
  cases card.registry.inContext? context with
  | none => exact findVacant_nil
  | some entry =>
    dsimp only
    cases card.isBusy channel entry with
    | true => exact findVacant_nil
    | false =>
      refine .next rfl (.cons (fun other hother ↦ ?_) findVacant_nil)
      obtain rfl := Option.some.inj hother
      exact card.selected_deselect channel

/-- Whoever is refused on a channel where nothing was selected leaves it so. -/
theorem selected_of_refused {channel : Nat} {context : ContextId} {word : StatusWord}
    (hvacant : card.channels.selected channel = none)
    (hrefused : (card.selectContext channel context).1 = .error word) :
    (card.selectContext channel context).2.channels.selected channel = none := by
  cases hfound : card.registry.inContext? context with
  | none =>
    unfold selectContext
    rw [hfound]
    exact hvacant
  | some entry =>
    cases hbusy : card.isBusy channel entry with
    | true =>
      rw [selectContext_of_isBusy hfound hbusy]
      exact hvacant
    | false =>
      rw [selectContext_eq hfound hbusy] at hrefused ⊢
      rw [channels_seat, hrefused]
      exact ((card.deselect channel).channels.selected_setSelected_none channel channel).trans
        (if_pos rfl)

variable {card} (hclosed : ∀ {channel}, card.channels.isOpen channel = false →
  card.channels.selected channel = none)

include hclosed

theorem findVacant_openChannel (origin : Nat) (requested : Option Nat) :
    FindVacant card (card.openChannelStages origin requested) := by
  unfold openChannelStages
  split
  · exact findVacant_nil
  cases hreserved : reserveChannel card.channels requested with
  | error word => exact findVacant_nil
  | ok reserved =>
    obtain ⟨channel, channels⟩ := reserved
    obtain ⟨rfl, -⟩ := reserveChannel_eq_ok hreserved
    dsimp only
    generalize (if origin = 0 then none else _) = initial
    cases initial with
    | none => exact .next rfl findVacant_nil
    | some context =>
      dsimp only
      set opened : Card σ := { card with channels := card.channels.markOpen channel }
      have hvacant : opened.channels.selected channel = none :=
        (ChannelTable.selected_markOpen _ _ _).trans (hclosed (isOpen_of_reserveChannel hreserved))
      have hstages : (Stage.reserve channel :: opened.selectContextStages channel context).foldl
          perform card = (opened.selectContext channel context).2 :=
        opened.foldl_selectContextStages channel context
      refine .append (.next rfl (opened.findVacant_selectContext channel context)) ?_
      rw [hstages]
      cases hrefused : (opened.selectContext channel context).1 with
      | ok done => exact findVacant_nil
      | error word =>
        refine .cons (fun other hother ↦ ?_) findVacant_nil
        obtain rfl := Option.some.inj hother
        exact selected_of_refused opened hvacant hrefused

omit hclosed in
theorem findVacant_closeChannel (channel : Nat) :
    FindVacant card (card.closeChannelStages channel) := by
  unfold closeChannelStages
  split
  · exact findVacant_nil
  · refine .next rfl (.cons (fun other hother ↦ ?_) findVacant_nil)
    obtain rfl := Option.some.inj hother
    exact card.selected_deselect channel

theorem findVacant_manageChannel (command : Command) :
    FindVacant card (card.manageChannelStages command) := by
  unfold manageChannelStages
  dsimp only
  split
  · exact findVacant_openChannel hclosed command.channel _
  split
  · exact findVacant_closeChannel _
  · exact findVacant_nil

theorem findVacant_dispatch (command : Command) :
    FindVacant card (card.dispatchStages command) := by
  have htaken : ∀ {channel},
      (card.perform (.wait command.channel [])).channels.isOpen channel = false →
        (card.perform (.wait command.channel [])).channels.selected channel = none := by
    intro channel hshut
    rw [isOpen_perform rfl] at hshut
    rw [selected_perform rfl]
    exact hclosed hshut
  have hrouted : FindVacant card (card.routeStages command) := by
    unfold routeStages
    dsimp only
    split
    · exact findVacant_nil
    split
    · exact findVacant_nil
    split
    · exact .next rfl findVacant_nil
    split
    · exact .next rfl (findVacant_manageChannel htaken command)
    split
    · refine .next rfl ?_
      unfold routeSelectionStages
      cases card.registry.resolve? command.data with
      | none => exact findVacant_nil
      | some entry => exact findVacant_selectContext _ command.channel entry.context
    · exact .next rfl findVacant_nil
  unfold dispatchStages
  refine hrouted.append ?_
  generalize (card.route command).1 = outcome
  obtain _ | _ | ⟨context, selecting⟩ := outcome
  · exact findVacant_nil
  · exact findVacant_nil
  · exact .next rfl findVacant_nil

/-- Every operation on a card whose closed channels are empty finds those channels vacant that it
enters or shuts. -/
theorem findVacant_stages (operation : Operation σ) :
    FindVacant card (card.stages operation) := by
  cases operation with
  | transmit raw =>
    rw [stages, transmitStages]
    cases Command.parse raw card.config.extendedLength with
    | error word => exact findVacant_nil
    | ok command => exact findVacant_dispatch hclosed command
  | select aid channel =>
    rw [stages, selectStages]
    cases card.registry.find? aid.bytes with
    | none => exact findVacant_nil
    | some entry =>
      dsimp only
      split
      · exact card.findVacant_selectContext channel entry.context
      · exact findVacant_nil
  | openChannel origin requested => exact findVacant_openChannel hclosed origin requested
  | closeChannel channel => exact findVacant_closeChannel channel
  | uninstall aid =>
    rw [stages, uninstallStages]
    cases card.registry.find? aid.bytes with
    | none => exact findVacant_nil
    | some entry =>
      refine findVacant_of_forall (List.forall_mem_append.mpr ⟨?_, ?_⟩)
      · exact List.forall_mem_map.mpr fun _ _ ↦ rfl
      · exact List.forall_mem_singleton.mpr rfl
  | deselect | install | inspect | reset | armTear | disarmTear | setHost =>
    exact .next rfl findVacant_nil

end Operations

/-- A selection is lost in no stage but a reset and a departure, if the channel was vacant where
that is needed. -/
theorem exists_departure {card : Card σ} {stage : Stage σ} {channel : Nat} {context : ContextId}
    (hreset : stage ≠ .reset)
    (hvacant : ∀ channel, stage.vacant? = some channel → card.channels.selected channel = none)
    (hselected : card.channels.selected channel = some context)
    (hlost : (card.perform stage).channels.selected channel ≠ some context) :
    ∃ departure, card.departure? stage = some departure ∧ departure.channel = channel ∧
      departure.context = context := by
  cases hseat : stage.reseats channel with
  | false =>
    rw [selected_perform hseat] at hlost
    exact absurd hselected hlost
  | true =>
    have hthere : ∀ {other}, stage.vacant? = some other → other ≠ channel := by
      rintro other hother rfl
      rw [hvacant other hother] at hselected
      exact nomatch hselected
    cases stage with
    | leave left =>
      obtain rfl := eq_of_beq hseat
      exact ⟨_, by rw [departure?, hselected, Option.map_some], rfl, rfl⟩
    | enter entered entry => exact absurd (eq_of_beq hseat) (hthere rfl)
    | shut closed =>
      rw [Stage.reseats, Bool.and_eq_true] at hseat
      exact absurd (eq_of_beq hseat.1) (hthere rfl)
    | reset => exact absurd rfl hreset
    | wait | reserve | handle | install | expel | inspect | adjust | tell =>
      exact Bool.noConfusion hseat

/-! ### Runs -/

/-- The applet in the context of a registered one is that applet. -/
theorem Coheres.inContext?_eq_some {card : Card σ} {config : Config}
    (hcoheres : card.Coheres config) {entry : Registration σ}
    (hentry : entry ∈ card.registry.entries) :
    card.registry.inContext? entry.context = some entry := by
  cases hfound : card.registry.inContext? entry.context with
  | none =>
    have hnone := List.find?_eq_none.mp hfound entry hentry
    exact absurd (BEq.rfl) hnone
  | some found =>
    obtain ⟨hmem, hcontext⟩ := mem_of_inContext? hfound
    exact congrArg some (List.inj_on_of_nodup_map hcoheres.nodup_contexts hmem hentry hcontext)

/-- In a run of a card that coheres the channels are vacant that have to be. -/
theorem findVacant_scenes {card : Card σ} {config : Config} (hcoheres : card.Coheres config)
    {operations : List (Operation σ)} :
    ∀ scene ∈ scenes card operations, ∀ channel, scene.2.vacant? = some channel →
      scene.1.channels.selected channel = none := by
  induction operations generalizing card with
  | nil => exact List.forall_mem_nil _
  | cons operation rest ih =>
    refine List.forall_mem_append.mpr ⟨?_, ih (hcoheres.course (card.course_next operation))⟩
    exact findVacant_stages (fun hshut ↦ (hcoheres.isOrderly.closed_empty _ hshut).1) operation

/-- A run is made of its stages, and whatever is done to a card, every departure in them clears the
clear-on-deselect memory of the applet that departs if it is selected nowhere any more, and
otherwise nothing, and it changes no other memory. No selection is lost otherwise, but by a reset,
and nobody enters or shuts a channel that an applet has not left before. And an applet that is not
meant for several channels and is selected elsewhere is refused without anything being changed. -/
theorem departures_clear {config : Config} {host : σ} {card : Card σ}
    (hcard : Card.ofConfig config host = .ok card) (operations : List (Operation σ)) :
    card.Enacts operations ∧
    (∀ scene ∈ scenes card operations, ∀ departure, scene.1.departure? scene.2 = some departure →
      departure.Clears (scene.1.perform scene.2)) ∧
    (∀ scene ∈ scenes card operations, scene.2 ≠ .reset → ∀ channel context,
      scene.1.channels.selected channel = some context →
      (scene.1.perform scene.2).channels.selected channel ≠ some context →
      ∃ departure, scene.1.departure? scene.2 = some departure ∧ departure.channel = channel ∧
        departure.context = context) ∧
    (∀ scene ∈ scenes card operations, ∀ channel, scene.2.vacant? = some channel →
      scene.1.channels.selected channel = none) ∧
    ∀ entry ∈ (operations.foldl next card).registry.entries,
      entry.applet.multiSelectable = false → ∀ channel other, other ≠ channel →
        (operations.foldl next card).channels.selected other = some entry.context →
          (operations.foldl next card).selectContext channel entry.context =
            (.error .conditionsNotSatisfied, operations.foldl next card) := by
  have hcoheres := Coheres.ofConfig hcard
  refine ⟨card.enacts operations, fun scene _ departure hdeparture ↦ Departure.clears hdeparture,
    ?_, findVacant_scenes hcoheres, ?_⟩
  · intro scene hscene hreset channel context hselected hlost
    exact exists_departure hreset (findVacant_scenes hcoheres scene hscene) hselected hlost
  · intro entry hentry hsingle channel other hother hselected
    refine selectContext_of_isBusy ((hcoheres.foldl operations).inContext?_eq_some hentry) ?_
    rw [isBusy, hsingle, Bool.not_false, Bool.true_and]
    by_contra halone
    rw [Bool.not_eq_true, ChannelTable.activeElsewhere_eq_false_iff] at halone
    exact hother (halone other hselected)

/-- An applet that fills its clear-on-deselect memory while it is being deselected. -/
theorem departures_clear_filling :
    let config : Config := { atr := "3B" }
    let card : Card Unit := {
      config := config
      atr := [0x3B]
      platform := ⟨.empty config.quotas config.commitCapacity, .initial⟩
      registry := .empty config.maxApplets
      channels := .initial config.logicalChannels
      host := () }
    let aid : Aid := ⟨[0xA0, 0, 0, 0, 1], by decide, by decide⟩
    let factory : Factory Unit := fun _ ↦ do
      let array ← Code.allocate .clearOnDeselect .byte 2
      Code.register
      return {
        process := Code.refuse .noError
        deselect := do
          let _ ← (Code.fill array 0 2 9).run
          return () }
    let selected := [.install aid [] factory, .select aid 0].foldl next card
    let departure : Departure Unit := ⟨0, ⟨1⟩, selected.farewell 0 ⟨1⟩⟩
    Card.ofConfig config () = .ok card ∧
      departure.Clears (selected.deselect 0) ∧
      (departure.told.platform.store.heap.find? 1).map (·.cells.toBytes) = some [9, 9] ∧
      ((selected.deselect 0).platform.store.heap.find? 1).map (·.cells.toBytes) = some [0, 0] := by
  intro config card aid factory selected departure
  have hvalid : config.validate = .ok () := by decide
  have hatr : config.readAtr = .ok [0x3B] := by decide
  have hpowered : Card.ofConfig config () = .ok card := by rw [Card.ofConfig, hvalid, hatr]
  have hseated : selected.channels.selected 0 = some ⟨1⟩ := by decide +kernel
  have hscene : (selected, Stage.leave 0) ∈
      scenes card ([.install aid [] factory, .select aid 0] ++ [.deselect 0]) := by
    rw [scenes_append]
    exact List.mem_append_right _ List.mem_cons_self
  have hdeparture : selected.departure? (.leave 0) = some departure := by
    rw [departure?, hseated, Option.map_some]
  have hclears := (departures_clear hpowered _).2.1 _ hscene departure hdeparture
  exact ⟨hpowered, hclears, by decide +kernel, by decide +kernel⟩

end Card

end SmartCard
