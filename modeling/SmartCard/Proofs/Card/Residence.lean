import SmartCard.Proofs.Card.Keeping

/-!
# Applets that stay

An applet stays registered until it is expelled itself. Meanwhile an array that it has to itself
stays as it is (`Card.Holds`) through every stage in which the applet is not expelled and its own
code respects the array (`Card.Holds.perform`): code in other contexts cannot do otherwise. Which
code of the applet runs in which stage is said once (`Card.Runs`), so for one applet there are five
pieces of code to look at.
-/

set_option autoImplicit false
set_option relaxedAutoImplicit false

namespace SmartCard

namespace Card

variable {σ α : Type} {card : Card σ} {config : Config} {entry : Registration σ} {stage : Stage σ}
  {id : Nat} {region : Region}

/-! ### The registry -/

theorem registry_seat (card : Card σ) (channel : Nat) (entry : Registration σ) :
    (card.seat channel entry).2.registry = card.registry := by
  have hrefused : ∀ asked : Card σ,
      (asked.settle.refuseSelection channel entry.context).registry = asked.registry := by
    intro asked
    unfold refuseSelection
    dsimp only
    split <;> rfl
  have hasked : ((card.setSelected channel (some entry.context)).activate
      ⟨entry.context, channel, true⟩ entry.applet.select).2.registry = card.registry := rfl
  unfold seat
  dsimp only
  generalize activate _ _ entry.applet.select = outcome at hasked ⊢
  obtain ⟨(_ | _) | _, asked⟩ := outcome
  · exact (hrefused asked).trans hasked
  · exact hasked
  · exact (hrefused asked).trans hasked

theorem registry_process (card : Card σ) (channel : Nat) (context : ContextId) (command : Command)
    (selecting : Bool) :
    (card.process channel context command selecting).2.registry = card.registry := by
  unfold process
  cases card.registry.inContext? context with
  | none => rfl
  | some entry =>
    dsimp only
    generalize Program.run Session.answerProcess entry.applet.process.run _ = ran
    obtain ⟨ending, session, exchange⟩ := ran
    dsimp only
    cases outcome ending with
    | error error => rfl
    | ok done =>
      dsimp only
      cases exchange.finish with
      | error error => rfl
      | ok output =>
        dsimp only
        unfold reply
        split <;> rfl

theorem registry_inspect (card : Card σ) (aid : Aid) (program : Program (services σ) α) :
    (card.inspect aid program).2.registry = card.registry := by
  unfold inspect
  cases card.registry.find? aid.bytes with
  | none => rfl
  | some entry =>
    have hasked : (card.activate ⟨entry.context, 0, false⟩ program).2.registry =
        card.registry := rfl
    dsimp only
    generalize card.activate ⟨entry.context, 0, false⟩ program = outcome at hasked ⊢
    obtain ⟨_ | _, asked⟩ := outcome <;> exact hasked

/-- An applet stays registered in every stage in which it is not expelled. -/
theorem mem_registry_perform (hcoheres : card.Coheres config)
    (hentry : entry ∈ card.registry.entries)
    (hstays : ∀ other, stage = .expel other → other.context ≠ entry.context) :
    entry ∈ (card.perform stage).registry.entries := by
  cases stage with
  | leave channel => exact (card.registry_deselect channel).symm ▸ hentry
  | enter channel other => exact (card.registry_seat channel other).symm ▸ hentry
  | handle context command selecting =>
    exact (card.registry_process command.channel context command selecting).symm ▸ hentry
  | install aid data factory =>
    rw [perform]
    rcases hcoheres.install_cases aid data factory with
      ⟨error, h⟩ | ⟨params, context, contexts, -, ⟨error, h⟩ | ⟨added, -, -, h⟩⟩
    · rw [h]
      exact hentry
    · rw [h]
      exact hentry
    · rw [h]
      exact List.mem_append_left _ hentry
  | expel other =>
    have hkept : ¬(entry.context == other.context) = true := fun hsame ↦
      hstays other rfl (eq_of_beq hsame).symm
    exact (List.mem_eraseP_of_neg (p := (·.context == other.context)) hkept).mpr hentry
  | inspect aid program => exact (card.registry_inspect aid program).symm ▸ hentry
  | wait | reserve | shut | reset | adjust | tell => exact hentry

/-! ### The code of one applet -/

/-- Which code of an applet runs in a stage: one of its hooks, or code that looks at its memory. -/
inductive Runs (entry : Registration σ) : Stage σ → Piece σ → Prop
  | deselect (channel : Nat) (session : Session σ) :
    Runs entry (.leave channel) (.code session entry.applet.deselect)
  | select (channel : Nat) (session : Session σ) :
    Runs entry (.enter channel entry) (.code session entry.applet.select)
  | process (command : Command) (selecting : Bool) (session : Session σ) (bufferSize : Nat) :
    Runs entry (.handle entry.context command selecting)
      (.handler session (Exchange.start command bufferSize selecting) entry.applet.process.run)
  | uninstall (session : Session σ) :
    Runs entry (.expel entry) (.code session entry.applet.uninstall)
  | inspect {α : Type} (aid : Aid) (program : Program (services σ) α) (session : Session σ) :
    Runs entry (.inspect aid program) (.code session program)

/-- The code of a stage is code of a registered applet in its context, or that of an installation in
a fresh one. -/
theorem runs_or_create (hready : stage.IsReady card) {piece : Piece σ}
    (hpiece : piece ∈ card.stagePieces stage) :
    (∃ found ∈ card.registry.entries, piece.start.context = found.context ∧
        Runs found stage piece) ∨
      ∃ contexts, card.platform.contexts.create = some (piece.start.context, contexts) := by
  cases stage with
  | leave channel =>
    rw [stagePieces, deselectPieces] at hpiece
    cases hselected : card.channels.selected channel with
    | none =>
      rw [hselected] at hpiece
      cases hpiece
    | some context =>
      rw [hselected] at hpiece
      dsimp only at hpiece
      cases hfound : (card.setSelected channel none).registry.inContext? context with
      | none =>
        rw [hfound] at hpiece
        cases hpiece
      | some found =>
        rw [hfound] at hpiece
        obtain rfl := List.mem_singleton.mp hpiece
        obtain ⟨hmem, rfl⟩ := mem_of_inContext? hfound
        exact .inl ⟨found, hmem, rfl, .deselect channel _⟩
  | enter channel found =>
    obtain rfl := List.mem_singleton.mp hpiece
    exact .inl ⟨found, hready.1, rfl, .select channel _⟩
  | handle context command selecting =>
    rw [stagePieces, processPieces] at hpiece
    cases hfound : card.registry.inContext? context with
    | none =>
      rw [hfound] at hpiece
      cases hpiece
    | some found =>
      rw [hfound] at hpiece
      obtain rfl := List.mem_singleton.mp hpiece
      obtain ⟨hmem, rfl⟩ := mem_of_inContext? hfound
      exact .inl ⟨found, hmem, rfl, .process command selecting _ _⟩
  | install aid data factory =>
    rw [stagePieces, installPieces] at hpiece
    cases hadmitted : card.admitInstall aid data with
    | error error =>
      rw [hadmitted] at hpiece
      cases hpiece
    | ok params =>
      rw [hadmitted] at hpiece
      dsimp only at hpiece
      cases hcreate : card.platform.contexts.create with
      | none =>
        rw [hcreate] at hpiece
        cases hpiece
      | some created =>
        rw [hcreate] at hpiece
        obtain rfl := List.mem_singleton.mp hpiece
        exact .inr ⟨created.2, rfl⟩
  | expel found =>
    obtain rfl := List.mem_singleton.mp hpiece
    exact .inl ⟨found, hready.1, rfl, .uninstall _⟩
  | inspect aid program =>
    rw [stagePieces, inspectPieces] at hpiece
    cases hfound : card.registry.find? aid.bytes with
    | none =>
      rw [hfound] at hpiece
      cases hpiece
    | some found =>
      rw [hfound] at hpiece
      obtain rfl := List.mem_singleton.mp hpiece
      exact .inl ⟨found, List.mem_of_find?_eq_some hfound, rfl, .inspect aid program _⟩
  | wait | reserve | shut | reset | adjust | tell => cases hpiece

/-- So it never runs in the card's own context, and in that of an applet it is its own code. -/
theorem Coheres.runs (hcoheres : card.Coheres config) (hready : stage.IsReady card)
    (hentry : entry ∈ card.registry.entries) {piece : Piece σ}
    (hpiece : piece ∈ card.stagePieces stage) :
    piece.start.context ≠ .system ∧
      (piece.start.context = entry.context → Runs entry stage piece) := by
  rcases runs_or_create hready hpiece with ⟨found, hfound, hcontext, hruns⟩ | ⟨contexts, hcreate⟩
  · refine ⟨hcontext ▸ hcoheres.context_ne_system hfound, fun hsame ↦ ?_⟩
    obtain rfl := List.inj_on_of_nodup_map hcoheres.nodup_contexts hfound hentry
      (hcontext.symm.trans hsame)
    exact hruns
  · obtain ⟨hsystem, hfresh⟩ := hcoheres.fresh_context hcreate
    exact ⟨hsystem, fun hsame ↦ absurd hsame.symm (hfresh entry hentry)⟩

/-! ### An applet and its array -/

/-- Code of a stage is code of the applet, or it is kept from an array granted to nobody that the
applet owns. -/
theorem Coheres.runs_or_foreign (hcoheres : card.Coheres config) (hready : stage.IsReady card)
    (hentry : entry ∈ card.registry.entries) (howner : region.owner = entry.context)
    (hgrants : region.grants = []) {piece : Piece σ} (hpiece : piece ∈ card.stagePieces stage) :
    Runs entry stage piece ∨ region.admits piece.start.context = false := by
  obtain ⟨hsystem, hruns⟩ := hcoheres.runs hready hentry hpiece
  by_cases hcontext : piece.start.context = entry.context
  · exact .inl (hruns hcontext)
  · refine .inr ?_
    rw [Region.admits_of_ne hsystem (howner ▸ hcontext), hgrants]
    rfl

/-- Whether an applet is registered and has an array, just as given, all to itself. -/
structure Holds (card : Card σ) (entry : Registration σ) (id : Nat) (region : Region) : Prop where
  registered : entry ∈ card.registry.entries
  owner_eq : region.owner = entry.context
  lifetime_eq : region.lifetime = .persistent
  grants_eq : region.grants = []
  keeps : card.platform.Keeps id region

/-- Whether an applet is not expelled in a stage and its code that runs spares an array, just as
given. -/
structure Stage.Spares (card : Card σ) (entry : Registration σ) (id : Nat) (region : Region)
    (stage : Stage σ) : Prop where
  stays : ∀ other, stage = .expel other → other.context ≠ entry.context
  spares : ∀ piece, Runs entry stage piece → piece ∈ card.stagePieces stage →
    SparedBy id region piece

/-- A stage that spares an applet and its array changes neither. -/
theorem Holds.perform (hholds : card.Holds entry id region) (hcoheres : card.Coheres config)
    (hready : stage.IsReady card) (hspares : stage.Spares card entry id region) :
    (card.perform stage).Holds entry id region := by
  have hregistered := mem_registry_perform hcoheres hholds.registered hspares.stays
  refine ⟨hregistered, hholds.owner_eq, hholds.lifetime_eq, hholds.grants_eq, ?_⟩
  have hspared : ∀ piece ∈ card.stagePieces stage, SparedBy id region piece := by
    intro piece hpiece
    rcases hcoheres.runs_or_foreign hready hholds.registered hholds.owner_eq hholds.grants_eq hpiece
      with hruns | hforeign
    · exact hspares.spares piece hruns hpiece
    · exact fun hkeeps ↦ Piece.keeps_of_foreign hkeeps hforeign
  refine ((course_perform hready).keeps hcoheres hholds.lifetime_eq hholds.keeps
    hspared).resolve_right fun hretired ↦ ?_
  exact hretired.not_registered entry hregistered hholds.owner_eq.symm

/-- Nor do stages one after another that all spare them. -/
theorem Holds.foldl_perform {stages : List (Stage σ)} (hholds : card.Holds entry id region)
    (hcoheres : card.Coheres config) (hready : IsReady card stages)
    (hspares : ∀ scene ∈ along card stages, scene.2.Spares scene.1 entry id region) :
    (stages.foldl Card.perform card).Holds entry id region := by
  induction stages generalizing card with
  | nil => exact hholds
  | cons stage rest ih =>
    obtain ⟨hfirst, hothers⟩ := List.forall_mem_cons.mp hready
    obtain ⟨hspared, hrest⟩ := List.forall_mem_cons.mp hspares
    exact ih (hholds.perform hcoheres hfirst hspared)
      (hcoheres.course (course_perform hfirst)) hothers hrest

end Card

/-! ### The commit capacity -/

theorem Journal.capacity_record {journal after : Journal} {region start length : Nat}
    {current : Cells} (hrecord : journal.record region start length current = .ok after) :
    after.capacity = journal.capacity := by
  unfold record at hrecord
  dsimp only at hrecord
  split at hrecord
  · cases hrecord
    rfl
  · split at hrecord
    · cases hrecord
    · cases hrecord
      rfl

namespace Store

/-- The bytes of old contents that a transaction may replace. -/
def commitCapacity (store : Store) : Nat :=
  store.transaction.journal.capacity

/-- No operation on memory changes how many these are. -/
theorem commitCapacity_next {store : Store} (hstore : store.WellFormed) (operation : Operation) :
    (store.next operation).commitCapacity = store.commitCapacity := by
  cases operation with
  | allocate owner lifetime kind length =>
    rw [next]
    rcases store.allocate_cases owner lifetime kind length with ⟨error, h⟩ | ⟨text, h⟩ | h
    · rw [h]
    · rw [h]
      rfl
    · rw [h]
      change (Transaction.noteAllocation _ _).journal.capacity = _
      unfold Transaction.noteAllocation
      split <;> rfl
  | release id => rw [next]; cases store.heap.release id <;> rfl
  | grant id client => rw [next]; cases store.heap.grant id client <;> rfl
  | write caller write =>
    have heffect := perform_effect hstore.heap caller write
    rw [next]
    generalize (store.perform caller write).2 = after at heffect
    cases heffect with
    | recorded _ _ _ _ _ _ hrecord => exact Journal.capacity_record hrecord
    | _ => rfl
  | begin =>
    rw [next]
    cases hactive : store.transaction.isActive with
    | false => rw [begin_of_idle hactive]; rfl
    | true => rw [begin_of_active hactive]
  | commit =>
    rw [next]
    cases hactive : store.transaction.isActive with
    | false => rw [commit_of_idle hactive]
    | true => rw [commit_of_active hactive]; rfl
  | abort =>
    rw [next]
    cases hactive : store.transaction.isActive with
    | false => rw [abort_of_idle hactive]
    | true => rw [abort_of_active hactive]; rfl
  | releaseOwnedBy | clearOnDeselect | clearOnReset | arm | disarm => rfl

end Store

namespace Card

variable {σ : Type} {card after : Card σ} {config : Config}

/-- What no operation of the store changes, nothing that happens to a card does. -/
theorem Course.read_eq {β : Type} {read : Store → β}
    (hread : ∀ {store : Store}, store.WellFormed → ∀ operation,
      read (store.next operation) = read store)
    {pieces : List (Piece σ)} (hcourse : Course card pieces after)
    (hcoheres : card.Coheres config) :
    read after.platform.store = read card.platform.store := by
  refine (@Course.store_induction σ
    (fun store ↦ store.WellFormed ∧ read store = read card.platform.store) ?next card after pieces
    hcourse ⟨hcoheres.houses.store, rfl⟩).2
  case next =>
    rintro store operation ⟨hstore, hsame⟩
    exact ⟨hstore.next operation, (hread hstore operation).trans hsame⟩

/-- On every card reached that is what the configuration says. -/
theorem Reachable.commitCapacity_eq (hreach : card.Reachable) :
    card.platform.store.commitCapacity = card.config.commitCapacity := by
  have hboth : ∃ config, card.Coheres config ∧
      card.platform.store.commitCapacity = config.commitCapacity := by
    induction hreach with
    | @ofConfig config host card hcard =>
      refine ⟨config, Coheres.ofConfig hcard, ?_⟩
      obtain ⟨atr, -, rfl⟩ := eq_of_ofConfig hcard
      rfl
    | @next card _ operation _ ih =>
      obtain ⟨config, hcoheres, hcapacity⟩ := ih
      have hcourse := card.course_next operation
      exact ⟨config, hcoheres.course hcourse,
        (hcourse.read_eq Store.commitCapacity_next hcoheres).trans hcapacity⟩
  obtain ⟨config, hcoheres, hcapacity⟩ := hboth
  rw [hcapacity, hcoheres.config_eq]

end Card

end SmartCard
