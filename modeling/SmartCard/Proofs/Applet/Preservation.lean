import SmartCard.Proofs.Applet.Confinement
import SmartCard.Proofs.Memory.Completion

/-!
# Arrays that a context is let into

Once an array of another owner has been granted to a context, code there may write to it, and
nothing else can happen to the array. `Store.Preserves` says that an array is live as it was
allocated and holds what it held outside some cells, and that undoing the open transaction would
leave that so. Every operation that code can ask for keeps this, provided that the cells which it
writes to with success are among those (`Store.Preserves.next`): a rollback puts back nothing but
cells that the journal covers, and these have been written to.

For a piece of code the cells are those of the calls that write through a grant
(`Call.WritesGranted`), since a context that does not own an array has no other way to write to it
(`Piece.preserves_stop`).
-/

set_option autoImplicit false
set_option relaxedAutoImplicit false

namespace SmartCard

/-- Whether an array is as it was allocated and, outside some cells, holds what it held earlier. -/
structure Region.AgreesOutside (region earlier : Region) (written : Nat → Prop) : Prop where
  original_eq : region.original = earlier.original
  cell?_eq : ∀ position, ¬written position →
    region.cells.cell? position = earlier.cells.cell? position

theorem Region.AgreesOutside.trans {region middle earlier : Region} {written : Nat → Prop}
    (hlast : region.AgreesOutside middle written) (hfirst : middle.AgreesOutside earlier written) :
    region.AgreesOutside earlier written :=
  ⟨hlast.original_eq.trans hfirst.original_eq, fun position hnot ↦
    (hlast.cell?_eq position hnot).trans (hfirst.cell?_eq position hnot)⟩

/-- Cells that fit into the array that they are written to change nothing outside them. -/
theorem Heap.agreesOutside_written {heap : Heap} {write : Write} {id : Nat} {region : Region}
    (hfind : heap.find? id = some region)
    (hfits : id = write.array.id → write.patch.FitsAt write.start region.cells.shape)
    {written : Nat → Prop} (hwrites : ∀ position, (id, position) ∈ write.cells → written position) :
    ∃ later, (heap.written write).find? id = some later ∧ later.AgreesOutside region written := by
  rw [Heap.written, Heap.find?_modify, hfind, Option.map_some]
  refine ⟨_, rfl, Heap.original_written write id region, fun position hnot ↦ ?_⟩
  by_cases hid : id = write.array.id
  · rw [if_pos hid, Cells.cell?_overlay (hfits hid),
      if_neg fun hinside ↦ hnot (hwrites position (mem_cellRange.mpr ⟨hid, hinside⟩))]
  · rw [if_neg hid]

namespace Store

/-- Whether an array is live as it was allocated and, outside some cells, holds what it held
earlier, and undoing the open transaction would leave that so. -/
structure Preserves (store : Store) (id : Nat) (earlier : Region) (written : Nat → Prop) :
    Prop where
  wellFormed : store.WellFormed
  found : ∃ region, store.heap.find? id = some region ∧ region.AgreesOutside earlier written
  recorded : ∀ position, (id, position) ∈ store.transaction.journal.covered → written position
  old : id ∉ store.transaction.journal.allocations

section Preserves

variable {store : Store} {id : Nat} {earlier : Region} {written : Nat → Prop}

/-- A store at rest preserves the arrays that there are. -/
theorem Rests.preserves (hrests : store.Rests) (hfind : store.heap.find? id = some earlier)
    (written : Nat → Prop) : store.Preserves id earlier written := by
  refine ⟨hrests.wellFormed, ⟨earlier, hfind, rfl, fun _ _ ↦ rfl⟩, fun position hcovered ↦ ?_, ?_⟩
  · rw [hrests.journal_eq] at hcovered
    exact absurd hcovered (Finset.notMem_empty _)
  · rw [hrests.journal_eq]
    exact List.not_mem_nil

/-- More cells may have been written to. -/
theorem Preserves.mono (hpreserves : store.Preserves id earlier written) {more : Nat → Prop}
    (hmore : ∀ position, written position → more position) : store.Preserves id earlier more := by
  obtain ⟨region, hfind, horiginal, hcells⟩ := hpreserves.found
  exact ⟨hpreserves.wellFormed,
    ⟨region, hfind, horiginal, fun position hnot ↦ hcells position (mt (hmore position) hnot)⟩,
    fun position hcovered ↦ hmore position (hpreserves.recorded position hcovered),
    hpreserves.old⟩

/-- Another heap, in which the array has changed in some of the cells at most. -/
theorem Preserves.withHeap (hpreserves : store.Preserves id earlier written) {heap : Heap}
    (hstore : { store with heap }.WellFormed)
    (hfound : ∀ {region}, store.heap.find? id = some region →
      ∃ later, heap.find? id = some later ∧ later.AgreesOutside region written) :
    { store with heap }.Preserves id earlier written := by
  obtain ⟨region, hfind, hagrees⟩ := hpreserves.found
  obtain ⟨later, hlater, hsince⟩ := hfound hfind
  exact ⟨hstore, ⟨later, hlater, hsince.trans hagrees⟩, hpreserves.recorded, hpreserves.old⟩

/-- Another transaction, in which nothing else of the array is recorded than some of the cells. -/
theorem Preserves.withTransaction (hpreserves : store.Preserves id earlier written)
    {transaction : Transaction} (hstore : { store with transaction }.WellFormed)
    (hrecorded : ∀ position, (id, position) ∈ transaction.journal.covered → written position)
    (hold : id ∉ transaction.journal.allocations) :
    { store with transaction }.Preserves id earlier written :=
  ⟨hstore, hpreserves.found, hrecorded, hold⟩

theorem Preserves.withTear (hpreserves : store.Preserves id earlier written)
    (tear : TearInjector) : (store.withTear tear).Preserves id earlier written :=
  hpreserves.withTransaction (hpreserves.wellFormed.withTear tear) hpreserves.recorded
    hpreserves.old

/-! ### Operations that code can ask for -/

theorem Preserves.allocate (hpreserves : store.Preserves id earlier written) (owner : ContextId)
    (lifetime : Lifetime) (kind : ElementKind) (length : Nat) :
    (store.allocate owner lifetime kind length).2.Preserves id earlier written := by
  have hstore := hpreserves.wellFormed.allocate owner lifetime kind length
  obtain ⟨region, hfind, hagrees⟩ := hpreserves.found
  have hother : id ≠ store.heap.nextId :=
    Nat.ne_of_lt (hpreserves.wellFormed.heap.lt_nextId hfind)
  unfold Store.allocate at hstore ⊢
  rcases store.heap.allocate_cases owner lifetime kind length with ⟨error, h⟩ | ⟨text, h⟩ | h
  · rw [h]
    exact hpreserves
  · rw [h] at hstore ⊢
    exact ⟨hstore, ⟨region, hfind, hagrees⟩, hpreserves.recorded, hpreserves.old⟩
  · rw [h] at hstore ⊢
    refine ⟨hstore, ⟨region, ?_, hagrees⟩, fun position hcovered ↦ ?_, fun hmem ↦ ?_⟩
    · rw [Heap.find?_insert, if_neg hother]
      exact hfind
    · rw [Journal.covered, Transaction.entries_noteAllocation] at hcovered
      exact hpreserves.recorded position hcovered
    · exact (Transaction.mem_of_noteAllocation hmem).elim hpreserves.old hother

/-- Who may use the array is no part of what is preserved. -/
theorem Preserves.grant (hpreserves : store.Preserves id earlier written) (granted : Nat)
    (client : ContextId) : (store.next (.grant granted client)).Preserves id earlier written := by
  have hstore : (store.withHeap? (store.heap.grant granted client)).WellFormed :=
    hpreserves.wellFormed.next (.grant granted client)
  rw [Store.next]
  rcases store.heap.grant_cases granted client with ⟨error, h⟩ | ⟨change, h, horiginal, hcells⟩
  · rw [h]
    exact hpreserves
  · rw [h] at hstore ⊢
    refine hpreserves.withHeap hstore fun {region} hfind ↦ ⟨change id region, ?_, ?_, ?_⟩
    · rw [Heap.find?_mapRegions, hfind, Option.map_some]
    · exact horiginal id region
    · exact fun position _ ↦ congrArg (·.cell? position) (hcells id region)

/-- A write that succeeds changes no other cells than those that it names. -/
theorem Preserves.perform (hpreserves : store.Preserves id earlier written) {caller : ContextId}
    {write : Write} (hwrites : (store.perform caller write).1 = .ok () →
      ∀ position, (id, position) ∈ write.cells → written position) :
    (store.perform caller write).2.Preserves id earlier written := by
  have hstore := hpreserves.wellFormed.perform caller write
  cases hresult : (store.perform caller write).1 with
  | error error =>
    obtain ⟨tear, hafter⟩ := perform_of_error hresult
    rw [hafter]
    exact hpreserves.withTear tear
  | ok done =>
    replace hwrites := hwrites hresult
    have hfound : ∀ {target}, store.heap.find? write.array.id = some target →
        write.patch.FitsAt write.start target.cells.shape →
          ∀ {region}, store.heap.find? id = some region →
            ∃ later, (store.heap.written write).find? id = some later ∧
              later.AgreesOutside region written := by
      intro target htarget hfits region hfind
      refine Heap.agreesOutside_written hfind (fun hid ↦ ?_) hwrites
      exact Option.some.inj (htarget.symm.trans (hid ▸ hfind)) ▸ hfits
    have heffect := perform_effect hpreserves.wellFormed.heap caller write
    generalize (store.perform caller write).2 = after at heffect hstore
    cases heffect with
    | nothing tear => exact hpreserves.withTear tear
    | transient htarget hfits _ => exact hpreserves.withHeap hstore (hfound htarget hfits)
    | direct tear htarget hfits _ =>
      exact (hpreserves.withTear tear).withHeap hstore (hfound htarget hfits)
    | recorded tear journal htarget hfits _ _ hrecord =>
      have hadmits := hpreserves.wellFormed.admits htarget hfits
      have hrecorded := Journal.isRecorded_of_ok hpreserves.wellFormed.journal hadmits hrecord
      obtain ⟨region, hfind, hagrees⟩ := hpreserves.found
      obtain ⟨later, hlater, hsince⟩ := hfound htarget hfits hfind
      refine ⟨hstore, ⟨later, hlater, hsince.trans hagrees⟩, fun position hcovered ↦ ?_,
        hrecorded.allocations ▸ hpreserves.old⟩
      rw [hrecorded.covered_eq hadmits.inside] at hcovered
      exact (Finset.mem_union.mp hcovered).elim (hwrites position) (hpreserves.recorded position)

/-- Undoing the transaction puts back no other cells than those recorded. -/
theorem Preserves.abort (hpreserves : store.Preserves id earlier written) :
    store.abort.2.Preserves id earlier written := by
  have hstore := hpreserves.wellFormed.abort
  cases hactive : store.transaction.isActive with
  | false =>
    rw [abort_of_idle hactive]
    exact hpreserves
  | true =>
    rw [abort_of_active hactive] at hstore ⊢
    obtain ⟨region, hfind, hagrees⟩ := hpreserves.found
    have hkept : store.transaction.journal.allocations.contains id = false := by
      simpa using hpreserves.old
    have hreplayed := @Journal.replay_spec store.transaction.journal.entries id region.cells
      fun entry hentry hid ↦ (hpreserves.wellFormed.fits entry hentry (hid.symm ▸ hfind)).2
    refine ⟨hstore, ⟨{ region with
        cells := Journal.replay store.transaction.journal.entries id region.cells }, ?_,
        hagrees.original_eq, fun position hnot ↦ ?_⟩,
      fun position hcovered ↦ absurd hcovered (Finset.notMem_empty _), List.not_mem_nil⟩
    · rw [hpreserves.wellFormed.find?_rollBack, hfind, Option.map_some, hkept]
      rfl
    · have hnone := (Journal.imageIn_eq_none_iff _ _ _).mpr
        (mt (hpreserves.recorded position) hnot)
      change (Journal.replay _ id region.cells).cell? position = _
      rw [hreplayed.2, hnone, Option.none_or]
      exact hagrees.cell?_eq position hnot

/-- Every operation that code can ask for preserves the array outside the cells that it writes
to with success. -/
theorem Preserves.next (hpreserves : store.Preserves id earlier written) {operation : Operation}
    (hservice : operation.isService = true)
    (hwrites : ∀ caller write, operation = .write caller write →
      (store.perform caller write).1 = .ok () →
        ∀ position, (id, position) ∈ write.cells → written position) :
    (store.next operation).Preserves id earlier written := by
  have hstore := hpreserves.wellFormed.next operation
  cases operation with
  | allocate owner lifetime kind length => exact hpreserves.allocate owner lifetime kind length
  | grant granted client => exact hpreserves.grant granted client
  | write caller write => exact hpreserves.perform (hwrites caller write rfl)
  | begin =>
    rw [Store.next] at hstore ⊢
    cases hactive : store.transaction.isActive with
    | false =>
      rw [begin_of_idle hactive] at hstore ⊢
      exact hpreserves.withTransaction hstore
        (fun _ hcovered ↦ absurd hcovered (Finset.notMem_empty _)) List.not_mem_nil
    | true =>
      rw [begin_of_active hactive]
      exact hpreserves
  | commit =>
    rw [Store.next] at hstore ⊢
    cases hactive : store.transaction.isActive with
    | false =>
      rw [commit_of_idle hactive]
      exact hpreserves
    | true =>
      rw [commit_of_active hactive] at hstore ⊢
      exact hpreserves.withTransaction hstore
        (fun _ hcovered ↦ absurd hcovered (Finset.notMem_empty _)) List.not_mem_nil
  | abort => exact hpreserves.abort
  | release _ | releaseOwnedBy _ | clearOnDeselect _ | clearOnReset | arm _ | disarm =>
    exact Bool.noConfusion hservice

/-! ### What the card does for another owner -/

/-- Forgetting what another owner loses by deselection changes nothing of the array. -/
theorem Preserves.clearOnDeselect (hpreserves : store.Preserves id earlier written)
    {owner : ContextId} (hother : earlier.owner ≠ owner) :
    { store with heap := store.heap.clearOnDeselect owner }.Preserves id earlier written := by
  obtain ⟨region, hfind, hagrees⟩ := hpreserves.found
  obtain ⟨howner, -⟩ := Region.eq_of_original_eq hagrees.original_eq
  have hkept : Heap.isClearedOnDeselect owner region = false := by
    rw [Heap.isClearedOnDeselect, howner, beq_false_of_ne hother, Bool.false_and]
  refine ⟨hpreserves.wellFormed.next (.clearOnDeselect owner), ⟨region, ?_, hagrees⟩,
    hpreserves.recorded, hpreserves.old⟩
  rw [Heap.clearOnDeselect, Heap.clearWhere, Heap.find?_mapRegions, hfind, Option.map_some, hkept]
  rfl

/-- Freeing the arrays of another owner leaves the array. -/
theorem Preserves.found_of_release (hpreserves : store.Preserves id earlier written)
    {owner : ContextId} (hother : earlier.owner ≠ owner) :
    ∃ region, (store.heap.releaseOwnedBy owner).find? id = some region ∧
      region.AgreesOutside earlier written := by
  obtain ⟨region, hfind, hagrees⟩ := hpreserves.found
  have howner : region.owner = earlier.owner := (Region.eq_of_original_eq hagrees.original_eq).1
  exact ⟨region, (Heap.find?_releaseOwnedBy_eq_some_iff hpreserves.wellFormed.heap.nodup).mpr
    ⟨hfind, howner ▸ hother⟩, hagrees⟩

end Preserves

end Store

/-! ### Calls and pieces of code -/

section Calls

variable {σ : Type} {id : Nat} {earlier : Region}

/-- Whether a call made in some context, to which the array has been granted, writes to a cell with
success. -/
def Call.WritesGranted (call : Call σ) (context : ContextId) (id position : Nat) : Prop :=
  call.session.context = context ∧ ∃ write region,
    call.session.operation? call.service = some (.write context write) ∧
    (call.session.platform.store.perform context write).1 = .ok () ∧
    (id, position) ∈ write.cells ∧
    call.session.platform.store.heap.find? id = some region ∧
    context ∈ region.grants

/-- In a context that does not own an array a call leaves it as it is but where it writes through a
grant. -/
theorem Call.preserves_after {call : Call σ} {written : Nat → Prop}
    (hsystem : call.session.context ≠ .system) (hforeign : earlier.owner ≠ call.session.context)
    (hpreserves : call.session.platform.store.Preserves id earlier written) :
    call.after.platform.store.Preserves id earlier fun position ↦
      written position ∨ call.WritesGranted call.session.context id position := by
  have hmore : call.session.platform.store.Preserves id earlier fun position ↦
      written position ∨ call.WritesGranted call.session.context id position :=
    hpreserves.mono fun _ ↦ Or.inl
  obtain ⟨session, service⟩ := call
  change (Session.answer service session).2.platform.store.Preserves id earlier _
  rw [Session.store_answer]
  cases hoperation : session.operation? service with
  | none => exact hmore
  | some operation =>
    refine hmore.next (Session.isService_operation? hoperation) ?_
    rintro caller write rfl hok position hcell
    obtain rfl : caller = session.context := Session.actor_of_operation? hoperation rfl
    obtain ⟨target, haccess⟩ := Store.access_of_ok hok
    obtain ⟨hfind, hcheck⟩ := Heap.access_eq_ok_iff.mp haccess
    obtain rfl := (mem_cellRange.mp hcell).1
    refine .inr ⟨rfl, write, target, hoperation, hok, hcell, hfind, ?_⟩
    -- What lets the context in is a grant, since it neither owns the array nor is the card itself.
    obtain ⟨region, hthere, hagrees⟩ := hpreserves.found
    obtain rfl := Option.some.inj (hfind.symm.trans hthere)
    have howner : target.owner ≠ session.context := by
      rwa [(Region.eq_of_original_eq hagrees.original_eq).1]
    have hadmits := (Region.check_eq_ok_iff.mp hcheck).1
    rw [Region.admits_of_ne hsystem howner.symm] at hadmits
    exact List.contains_iff_mem.mp hadmits

/-- In a context that does not own an array a piece of code leaves it as it is but where it writes
through a grant. -/
theorem Piece.preserves_stop {piece : Piece σ} {context : ContextId} {made : List (Call σ)}
    (hcontext : piece.start.context = context) (hsystem : context ≠ .system)
    (hforeign : earlier.owner ≠ context)
    (hstart : piece.start.platform.store.Preserves id earlier fun position ↦
      ∃ call ∈ made, call.WritesGranted context id position) :
    piece.stop.platform.store.Preserves id earlier fun position ↦
      ∃ call ∈ made ++ piece.calls, call.WritesGranted context id position := by
  have hstop := @Piece.induction σ
    (fun made session ↦ session.context = context ∧
      session.platform.store.Preserves id earlier fun position ↦
        ∃ call ∈ made, call.WritesGranted context id position)
    ?step piece made ⟨hcontext, hstart⟩
  case step =>
    rintro made call ⟨rfl, hpreserves⟩
    refine ⟨congrArg Frame.context (Session.frame_answer _ _), ?_⟩
    refine (Call.preserves_after hsystem hforeign hpreserves).mono ?_
    rintro position (⟨writer, hwriter, hwrites⟩ | hwrites)
    · exact ⟨writer, List.mem_append_left _ hwriter, hwrites⟩
    · exact ⟨call, List.mem_append_right _ (List.mem_singleton_self call), hwrites⟩
  exact hstop.2

end Calls

end SmartCard
