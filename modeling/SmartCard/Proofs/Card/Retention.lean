import SmartCard.Proofs.Card.Residence
import SmartCard.Proofs.Memory.Forgetting

/-!
# Memory that lasts as long as a selection

An array that is cleared on deselection stays as it is while code leaves it alone, and is cleared
when its applet departs from its channel or the card is reset (`Card.Retains.perform`): for an
applet that is selected on one channel at most, these are the stages that lapse (`Card.lapses`), and
there are no others. So after stages one after another the array is either what it was or blank
(`Card.Retains.foldl_perform`).
-/

set_option autoImplicit false
set_option relaxedAutoImplicit false

namespace SmartCard

/-! ### Forgetting -/

/-- What is forgotten already is forgotten no further. -/
theorem Region.forgotten_forgotten (region : Region) :
    region.forgotten.forgotten = region.forgotten := by
  cases htransient : region.lifetime.isTransient with
  | false =>
    have hkept : region.forgotten = region := by
      rw [forgotten, htransient, if_neg Bool.false_ne_true]
    rw [hkept, hkept]
  | true =>
    have hforgotten : region.forgotten = { region with cells := region.cells.cleared } :=
      if_pos htransient
    rw [hforgotten, forgotten, if_pos htransient]
    congr 1
    exact Cells.cleared_eq_of_shape (Cells.shape_cleared _)

/-- An operation that clears an array leaves it live and blank. -/
theorem Store.Keeps.forget {store : Store} {id : Nat} {region : Region} {operation : Operation}
    (hkeeps : store.Keeps id region) (hclears : operation.clears region = true) :
    (store.next operation).Keeps id region.forgotten := by
  have hstore := hkeeps.wellFormed.next operation
  cases operation with
  | clearOnDeselect owner =>
    refine ⟨hstore, ?_, hkeeps.unrecorded, hkeeps.old⟩
    have hlifetime : region.lifetime = .clearOnDeselect := by
      rw [Operation.clears, Heap.isClearedOnDeselect, Bool.and_eq_true] at hclears
      exact eq_of_beq hclears.2
    have hforgotten : region.forgotten = { region with cells := region.cells.cleared } :=
      if_pos (congrArg Lifetime.isTransient hlifetime)
    have hfind : (store.heap.clearOnDeselect owner).find? id = _ :=
      Heap.find?_mapRegions store.heap _ id
    refine hfind.trans ?_
    rw [hkeeps.found, Option.map_some, hforgotten]
    exact congrArg some (if_pos hclears)
  | clearOnReset =>
    refine ⟨hstore, (store.heap.find?_clearOnReset id).trans ?_, hkeeps.unrecorded, hkeeps.old⟩
    rw [hkeeps.found, Option.map_some]
  | _ => cases hclears

namespace Card

variable {σ α : Type} {card told : Card σ} {config : Config} {entry other : Registration σ}
  {stage : Stage σ} {channel id : Nat} {context : ContextId} {region : Region}

/-! ### Code of a stage and what it leaves -/

/-- The farewell of an applet leaves what its code spares. -/
theorem keeps_farewell (hkeeps : card.platform.Keeps id region)
    (hselected : card.channels.selected channel = some context)
    (hspares : ∀ piece ∈ card.deselectPieces channel, SparedBy id region piece) :
    (card.farewell channel context).platform.Keeps id region := by
  rw [deselectPieces, hselected] at hspares
  dsimp only at hspares
  unfold farewell
  dsimp only
  cases hfound : (card.setSelected channel none).registry.inContext? context with
  | none => exact hkeeps.settle
  | some entry =>
    rw [hfound] at hspares
    exact (hspares _ List.mem_cons_self hkeeps).settle

/-- An applet that accepts a channel has been asked, and nothing more. -/
theorem platform_seat_of_accepted (haccepted : (card.seat channel entry).1.toOption = some ()) :
    (card.seat channel entry).2.platform =
      ((card.setSelected channel (some entry.context)).activate ⟨entry.context, channel, true⟩
        entry.applet.select).2.platform.settle := by
  unfold seat at haccepted ⊢
  dsimp only at haccepted ⊢
  generalize activate _ _ entry.applet.select = outcome at haccepted ⊢
  obtain ⟨(_ | _) | _, asked⟩ := outcome
  · cases haccepted
  · rfl
  · cases haccepted

/-- The code that handles a command is followed by undoing what it leaves open. -/
theorem platform_process (hfound : card.registry.inContext? context = some entry)
    (command : Command) (selecting : Bool) :
    (card.process command.channel context command selecting).2.platform =
      (Piece.handler ⟨⟨context, command.channel, selecting⟩, card.platform, card.host, none⟩
        (Exchange.start command card.config.bufferSize selecting)
        entry.applet.process.run).stop.platform.settle := by
  unfold process Piece.stop
  rw [hfound]
  dsimp only
  generalize Program.run Session.answerProcess entry.applet.process.run _ = ran
  obtain ⟨ending, session, exchange⟩ := ran
  dsimp only
  cases outcome ending with
  | error error => rfl
  | ok done =>
    dsimp only
    cases exchange.finish with
    | error error => rfl
    | ok output =>
      dsimp only
      unfold reply
      split <;> rfl

/-- Looking at memory leaves what the code spares. -/
theorem keeps_inspect {aid : Aid} {program : Program (services σ) α}
    (hkeeps : card.platform.Keeps id region)
    (hspares : ∀ piece ∈ card.inspectPieces aid program, SparedBy id region piece) :
    (card.inspect aid program).2.platform.Keeps id region := by
  unfold inspect
  rw [inspectPieces] at hspares
  cases hfound : card.registry.find? aid.bytes with
  | none => exact hkeeps
  | some entry =>
    rw [hfound] at hspares
    have hasked : (card.activate ⟨entry.context, 0, false⟩ program).2.platform.Keeps id region :=
      hspares _ List.mem_cons_self hkeeps
    dsimp only
    generalize card.activate ⟨entry.context, 0, false⟩ program = outcome at hasked ⊢
    obtain ⟨_ | _, asked⟩ := outcome
    · exact hasked.settle
    · exact hasked

/-- An installation leaves what its fresh context has nothing to do with. -/
theorem Coheres.keeps_install (hcoheres : card.Coheres config)
    (hkeeps : card.platform.Keeps id region) (hgrants : region.grants = []) (aid : Aid)
    (data : List UInt8) (factory : Factory σ) :
    (card.install aid data factory).2.platform.Keeps id region := by
  rcases hcoheres.install_cases aid data factory with
    ⟨error, h⟩ | ⟨params, fresh, contexts, hcreate, hcases⟩
  · rw [h]
    exact hkeeps
  have hother := hcoheres.owner_ne hcreate hkeeps.store.found
  have hbegun : (card.factoryPiece fresh contexts params factory).start.platform.Keeps id region :=
    by
      obtain ⟨-, rfl⟩ := ContextTable.create_eq_some hcreate
      exact ⟨hkeeps.store, hkeeps.unoffered⟩
  have hforeign :
      region.admits (card.factoryPiece fresh contexts params factory).start.context = false := by
    change region.admits fresh = false
    rw [Region.admits_of_ne (hcoheres.fresh_context hcreate).1 hother, hgrants]
    rfl
  have hran := (Piece.keeps_of_foreign hbegun hforeign).settle
  rcases hcases with ⟨error, h⟩ | ⟨added, -, -, h⟩
  · rw [h]
    exact hran.discard hother
  · rw [h]
    exact hran

/-! ### Applets that depart -/

/-- Whether the applet in a context loses in a stage what it does not keep beyond a selection: it
departs from a channel, or the card is reset. -/
def lapses (card : Card σ) (context : ContextId) : Stage σ → Bool
  | .reset => true
  | stage => (card.departure? stage).any (·.context == context)

/-- Whether it does so in one of some stages. -/
def hasLapse (card : Card σ) (context : ContextId) (stages : List (Stage σ)) : Bool :=
  (along card stages).any fun scene ↦ scene.1.lapses context scene.2

theorem lapses_of_ne_reset (hreset : stage ≠ .reset) :
    card.lapses context stage = (card.departure? stage).any (·.context == context) := by
  cases stage with
  | reset => exact absurd rfl hreset
  | wait | reserve | shut | leave | enter | handle | install | expel | inspect | adjust | tell =>
    rfl

/-- An applet that may be selected on one channel only is selected nowhere when it has departed. -/
theorem Coheres.isIdle_told (hcoheres : card.Coheres config) (hready : stage.IsReady card)
    (hentry : entry ∈ card.registry.entries) (hsingle : entry.applet.multiSelectable = false)
    {departure : Departure σ} (hdeparture : card.departure? stage = some departure)
    (hcontext : departure.context = entry.context) :
    (departure.told.channels.channelsOf departure.context).isEmpty = true := by
  rw [List.isEmpty_iff, ChannelTable.channelsOf_eq_nil_iff]
  intro elsewhere helsewhere
  cases stage with
  | leave channel =>
    rw [departure?, Option.map_eq_some_iff] at hdeparture
    obtain ⟨context, hselected, rfl⟩ := hdeparture
    obtain rfl : context = entry.context := hcontext
    have htable : (card.farewell channel entry.context).channels =
        card.channels.setSelected channel none := by
      unfold farewell
      dsimp only
      cases (card.setSelected channel none).registry.inContext? entry.context <;> rfl
    rw [htable, ChannelTable.selected_setSelected_none] at helsewhere
    split at helsewhere
    · cases helsewhere
    · rename_i hother
      exact hother (hcoheres.seats.alone hentry hsingle helsewhere hselected).symm
  | enter channel found =>
    rw [departure?] at hdeparture
    cases hoption : (card.seat channel found).1.toOption with
    | some done =>
      rw [hoption] at hdeparture
      cases hdeparture
    | none =>
      rw [hoption] at hdeparture
      obtain rfl := Option.some.inj hdeparture
      obtain ⟨hfound, -, halone⟩ := hready
      obtain rfl := List.inj_on_of_nodup_map hcoheres.nodup_contexts hfound hentry hcontext
      have hfree := halone.resolve_left (Bool.eq_false_iff.mp hsingle)
      have htable : (card.rebuff channel found).channels =
          (card.channels.setSelected channel (some found.context)).setSelected channel none := rfl
      rw [htable, ChannelTable.setSelected_setSelected,
        ChannelTable.selected_setSelected_none] at helsewhere
      split at helsewhere
      · cases helsewhere
      · rename_i hother
        exact hother (ChannelTable.activeElsewhere_eq_false_iff.mp hfree _ helsewhere).symm
  | wait | reserve | shut | handle | install | expel | inspect | reset | adjust | tell =>
    cases hdeparture

/-- What a departure leads to: what the code of the applet spares is forgotten if it belongs to the
applet, and else stays. -/
theorem keeps_forget (hkeeps : told.platform.Keeps id region)
    (hlifetime : region.lifetime = .clearOnDeselect)
    (hidle : context = region.owner → (told.channels.channelsOf context).isEmpty = true) :
    (told.forget context).platform.Keeps id
      (if context = region.owner then region.forgotten else region) := by
  unfold forget
  by_cases hcontext : context = region.owner
  · have hclears : Store.Operation.clears region (.clearOnDeselect context) = true := by
      rw [Store.Operation.clears, Heap.isClearedOnDeselect, hlifetime, hcontext, BEq.rfl]
      rfl
    rw [if_pos (hidle hcontext), if_pos hcontext]
    exact ⟨hkeeps.store.forget hclears, hkeeps.unoffered⟩
  · have hlasts : Store.Operation.clears region (.clearOnDeselect context) = false := by
      rw [Store.Operation.clears, Heap.isClearedOnDeselect, beq_false_of_ne (Ne.symm hcontext)]
      rfl
    rw [if_neg hcontext]
    split
    · exact hkeeps.next hlasts trivial
    · exact hkeeps

/-! ### An applet and its array -/

/-- Whether an applet that may be selected on one channel only is registered and has an array that
is cleared on deselection, just as given, all to itself. -/
structure Retains (card : Card σ) (entry : Registration σ) (id : Nat) (region : Region) :
    Prop where
  registered : entry ∈ card.registry.entries
  single : entry.applet.multiSelectable = false
  owner_eq : region.owner = entry.context
  lifetime_eq : region.lifetime = .clearOnDeselect
  grants_eq : region.grants = []
  keeps : card.platform.Keeps id region

/-- Whether an applet is not expelled in a stage and its code that runs spares an array, whatever is
in it. -/
structure Stage.Tolerates (card : Card σ) (entry : Registration σ) (id : Nat) (stage : Stage σ) :
    Prop where
  stays : ∀ other, stage = .expel other → other.context ≠ entry.context
  spares : ∀ piece region, Runs entry stage piece → piece ∈ card.stagePieces stage →
    SparedBy id region piece

/-- A stage that spares an array whatever is in it tolerates the applet. -/
theorem Stage.tolerates_of_spares (hspares : ∀ region, stage.Spares card entry id region) :
    stage.Tolerates card entry id where
  -- that the applet stays is no matter of the array, so any will do
  stays := (hspares (.fresh .system .persistent .byte 0)).stays
  spares := fun piece region ↦ (hspares region).spares piece

/-- The code of a stage spares an array that belongs to an applet alone if the code of the applet
does. -/
theorem Retains.sparedBy (hretains : card.Retains entry id region)
    (hcoheres : card.Coheres config) (hready : stage.IsReady card)
    (htolerates : stage.Tolerates card entry id) :
    ∀ piece ∈ card.stagePieces stage, SparedBy id region piece := by
  intro piece hpiece
  rcases hcoheres.runs_or_foreign hready hretains.registered hretains.owner_eq hretains.grants_eq
    hpiece with hruns | hforeign
  · exact htolerates.spares piece region hruns hpiece
  · exact fun hkeeps ↦ Piece.keeps_of_foreign hkeeps hforeign

/-- In a stage without departure or reset the array stays as it is. -/
theorem Retains.keeps_perform (hretains : card.Retains entry id region)
    (hcoheres : card.Coheres config) (hreset : stage ≠ .reset)
    (hnone : card.departure? stage = none)
    (hstays : ∀ other, stage = .expel other → other.context ≠ entry.context)
    (hspares : ∀ piece ∈ card.stagePieces stage, SparedBy id region piece) :
    (card.perform stage).platform.Keeps id region := by
  cases stage with
  | reset => exact absurd rfl hreset
  | wait | reserve | shut | tell => exact hretains.keeps
  | leave channel =>
    have hvacant : card.channels.selected channel = none := Option.map_eq_none_iff.mp hnone
    rw [Card.perform, deselect, hvacant]
    exact hretains.keeps
  | enter channel found =>
    have haccepted : (card.seat channel found).1.toOption = some () := by
      rw [departure?] at hnone
      cases hoption : (card.seat channel found).1.toOption with
      | some done => rfl
      | none =>
        rw [hoption] at hnone
        cases hnone
    rw [Card.perform, platform_seat_of_accepted haccepted]
    exact (hspares _ List.mem_cons_self hretains.keeps).settle
  | handle context command selecting =>
    rw [Card.perform]
    rw [stagePieces, processPieces] at hspares
    cases hfound : card.registry.inContext? context with
    | none =>
      rw [process, hfound]
      exact hretains.keeps
    | some found =>
      rw [hfound] at hspares
      rw [platform_process hfound]
      exact (hspares _ List.mem_cons_self hretains.keeps).settle
  | install aid data factory =>
    exact hcoheres.keeps_install hretains.keeps hretains.grants_eq aid data factory
  | expel other =>
    have hran := hspares _ List.mem_cons_self hretains.keeps
    exact hran.settle.discard (hretains.owner_eq ▸ hstays other rfl)
  | inspect aid program => exact keeps_inspect hretains.keeps hspares
  | adjust change => exact ⟨hretains.keeps.store.withTear _, hretains.keeps.unoffered⟩

/-- In one with a departure it stays so until the applet has been told. -/
theorem Retains.keeps_told (hretains : card.Retains entry id region) {departure : Departure σ}
    (hdeparture : card.departure? stage = some departure)
    (hspares : ∀ piece ∈ card.stagePieces stage, SparedBy id region piece) :
    departure.told.platform.Keeps id region := by
  cases stage with
  | leave channel =>
    rw [departure?, Option.map_eq_some_iff] at hdeparture
    obtain ⟨context, hselected, rfl⟩ := hdeparture
    exact keeps_farewell hretains.keeps hselected hspares
  | enter channel found =>
    rw [departure?] at hdeparture
    cases hoption : (card.seat channel found).1.toOption with
    | some done =>
      rw [hoption] at hdeparture
      cases hdeparture
    | none =>
      rw [hoption] at hdeparture
      obtain rfl := Option.some.inj hdeparture
      exact (hspares _ List.mem_cons_self hretains.keeps).settle
  | wait | reserve | shut | handle | install | expel | inspect | reset | adjust | tell =>
    cases hdeparture

/-- A stage leaves the applet and its array, or clears the array if it lapses. -/
theorem Retains.perform (hretains : card.Retains entry id region)
    (hcoheres : card.Coheres config) (hready : stage.IsReady card)
    (htolerates : stage.Tolerates card entry id) :
    (card.perform stage).Retains entry id
      (if card.lapses entry.context stage then region.forgotten else region) := by
  have hspares := hretains.sparedBy hcoheres hready htolerates
  have hkeeps : (card.perform stage).platform.Keeps id
      (if card.lapses entry.context stage then region.forgotten else region) := by
    by_cases hreset : stage = .reset
    · subst hreset
      have hclears : Store.Operation.clears region .clearOnReset = true := by
        rw [Store.Operation.clears, hretains.lifetime_eq]
        rfl
      exact ⟨hretains.keeps.settle.store.forget hclears, hretains.keeps.unoffered⟩
    rw [lapses_of_ne_reset hreset]
    cases hdeparture : card.departure? stage with
    | none => exact hretains.keeps_perform hcoheres hreset hdeparture htolerates.stays hspares
    | some departure =>
      have hforgot := keeps_forget (hretains.keeps_told hdeparture hspares) hretains.lifetime_eq
        fun hcontext ↦ hcoheres.isIdle_told hready hretains.registered hretains.single hdeparture
          (hcontext.trans hretains.owner_eq)
      rw [hretains.owner_eq] at hforgot
      rw [(perform_of_departure hdeparture).1]
      simpa only [Option.any_some, beq_iff_eq] using hforgot
  have hregistered := mem_registry_perform hcoheres hretains.registered htolerates.stays
  split at hkeeps
  · rw [if_pos ‹_›]
    have horiginal := Region.eq_of_original_eq region.original_forgotten
    exact ⟨hregistered, hretains.single, horiginal.1.trans hretains.owner_eq,
      horiginal.2.1.trans hretains.lifetime_eq, region.grants_forgotten.trans hretains.grants_eq,
      hkeeps⟩
  · rw [if_neg ‹_›]
    exact ⟨hregistered, hretains.single, hretains.owner_eq, hretains.lifetime_eq,
      hretains.grants_eq, hkeeps⟩

/-- So do stages one after another. -/
theorem Retains.foldl_perform {stages : List (Stage σ)} (hretains : card.Retains entry id region)
    (hcoheres : card.Coheres config) (hready : IsReady card stages)
    (htolerates : ∀ scene ∈ along card stages, scene.2.Tolerates scene.1 entry id) :
    (stages.foldl Card.perform card).Retains entry id
      (if card.hasLapse entry.context stages then region.forgotten else region) := by
  induction stages generalizing card region with
  | nil => exact hretains
  | cons stage rest ih =>
    obtain ⟨hfirst, hothers⟩ := List.forall_mem_cons.mp hready
    obtain ⟨htolerated, hrest⟩ := List.forall_mem_cons.mp htolerates
    have hperformed := @Retains.perform σ card config entry stage id region hretains hcoheres
      hfirst htolerated
    have hlast := ih hperformed (hcoheres.course (course_perform hfirst)) hothers hrest
    rw [hasLapse, along, List.any_cons]
    dsimp only
    rw [← hasLapse]
    cases hlapses : card.lapses entry.context stage with
    | false =>
      rw [hlapses, if_neg Bool.false_ne_true] at hlast
      exact hlast
    | true =>
      rw [hlapses, if_pos rfl, Region.forgotten_forgotten, ite_self] at hlast
      rw [Bool.true_or, if_pos rfl]
      exact hlast

end Card

end SmartCard
