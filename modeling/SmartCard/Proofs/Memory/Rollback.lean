import SmartCard.Proofs.Memory.Operation

/-!
# Undoing a transaction

While a transaction is open, the store remembers the heap as it was when it began. What a persistent
array held then can be read off cell by cell: it is the image of a cell that has one, and what the
cell holds otherwise (`Store.former`). `Store.Retains` is the invariant of an open transaction, kept
by every operation that neither closes it nor frees arrays (`Store.Retains.next`): the arrays that
the transaction did not allocate are those of the heap it began with, and their former contents are
the contents then.

Undoing the transaction makes the former contents the present ones (`Store.Retains.rollBack`). So
whatever happens in a transaction, and whether its writes succeed, fail or are torn, after an abort
the store has the arrays, the persistent contents and the counts of before (`Store.abort_undoes`).
-/

set_option autoImplicit false
set_option relaxedAutoImplicit false

namespace SmartCard.Store

/-! ### A store at rest -/

/-- With no transaction open there is nothing to undo. -/
theorem settle_of_idle {store : Store} (hidle : store.transaction.isActive = false) :
    store.settle = store := by
  rw [settle, abort_of_idle hidle]

/-- After undoing no transaction is open. -/
theorem depth_settle (store : Store) : store.settle.transaction.depth = 0 := by
  rw [settle, depth_eq_zero_iff]
  cases hactive : store.transaction.isActive with
  | false =>
    rw [abort_of_idle hactive]
    exact hactive
  | true => rw [abort_of_active hactive]

/-- Whether no transaction is open and nothing is recorded, in a store that is well formed. -/
structure Rests (store : Store) : Prop where
  wellFormed : store.WellFormed
  depth_eq : store.transaction.depth = 0
  journal_eq : store.transaction.journal = .empty store.transaction.journal.capacity

/-- A well-formed store in which no transaction is open is at rest. -/
theorem WellFormed.rests {store : Store} (hstore : store.WellFormed)
    (hidle : store.transaction.isActive = false) : store.Rests :=
  ⟨hstore, depth_eq_zero_iff.mpr hidle, hstore.idle hidle⟩

/-! ### What an open transaction keeps -/

/-- What a cell of a persistent array held before the open transaction wrote to it. -/
def former (store : Store) (id position : Nat) : Option Cell :=
  (store.transaction.journal.image? id position).or
    ((store.heap.contents? id).bind (·.cell? position))

/-- The heap without the arrays that the open transaction has allocated. -/
def withoutAllocations (store : Store) : Heap :=
  store.heap.discard fun id _ ↦ store.transaction.journal.allocations.contains id

/-- The invariant of a transaction that began with some heap. -/
structure Retains (store : Store) (origin : Heap) : Prop where
  wellFormed : store.WellFormed
  isActive : store.transaction.isActive = true
  nextId_le : origin.nextId ≤ store.heap.nextId
  outline_eq : store.withoutAllocations.outline = origin.outline
  former_eq : ∀ {id cells}, origin.contents? id = some cells →
    ∀ position, store.former id position = cells.cell? position

/-- Which arrays the transaction has allocated depends on their numbers alone. -/
theorem outline_withoutAllocations (store : Store) :
    store.withoutAllocations.outline = store.heap.outline.filter fun entry ↦
      !store.transaction.journal.allocations.contains entry.1 :=
  Heap.outline_discard fun _ _ ↦ rfl

section Retains

variable {store : Store} {origin : Heap}

/-- A transaction begins with the heap that there is. -/
theorem retains_begin (hstore : store.WellFormed) (hidle : store.transaction.isActive = false) :
    store.begin.2.Retains store.heap := by
  rw [begin_of_idle hidle]
  constructor
  case wellFormed => exact wellFormed_of_empty hstore.heap rfl
  case isActive => rfl
  case nextId_le => exact Nat.le_refl _
  case outline_eq =>
    rw [outline_withoutAllocations]
    exact List.filter_true store.heap.outline
  case former_eq =>
    intro id cells hcells position
    change ((store.heap.contents? id).bind (·.cell? position)) = _
    rw [hcells, Option.bind_some]

/-- An array that there was is still there, was not allocated since, and is what it was but for
contents and grants. -/
theorem Retains.find?_of_origin (hretains : store.Retains origin) {id : Nat} {region : Region}
    (hregion : origin.find? id = some region) :
    store.transaction.journal.allocations.contains id = false ∧
      ∃ later, store.heap.find? id = some later ∧ later.original = region.original := by
  have hlookup := congrArg (List.lookup id) hretains.outline_eq
  rw [Heap.lookup_outline, Heap.lookup_outline, hregion, Option.map_some,
    Option.map_eq_some_iff] at hlookup
  obtain ⟨later, hlater, horiginal⟩ := hlookup
  rw [withoutAllocations, Heap.find?_discard hretains.wellFormed.heap.nodup,
    Option.filter_eq_some_iff] at hlater
  exact ⟨by simpa using hlater.2, later, hlater.1, horiginal⟩

/-- A change of the heap that keeps arrays and persistent contents keeps the invariant. -/
theorem Retains.withHeap (hretains : store.Retains origin) {heap : Heap}
    (hwellFormed : { store with heap }.WellFormed) (hnextId : store.heap.nextId ≤ heap.nextId)
    (hresembles : heap.Resembles store.heap) : { store with heap }.Retains origin where
  wellFormed := hwellFormed
  isActive := hretains.isActive
  nextId_le := Nat.le_trans hretains.nextId_le hnextId
  outline_eq := by
    rw [outline_withoutAllocations, ← hretains.outline_eq, outline_withoutAllocations]
    exact congrArg _ hresembles.outline_eq
  former_eq := fun hcells position ↦ by
    rw [← hretains.former_eq hcells, former, former, hresembles.contents_eq]

theorem Retains.withTear (hretains : store.Retains origin) (tear : TearInjector) :
    (store.withTear tear).Retains origin :=
  ⟨hretains.wellFormed.withTear tear, hretains.isActive, hretains.nextId_le, hretains.outline_eq,
    hretains.former_eq⟩

/-- An array allocated is none of those that there were. -/
theorem Retains.allocate (hretains : store.Retains origin) (owner : ContextId)
    (lifetime : Lifetime) (kind : ElementKind) (length : Nat) :
    (store.allocate owner lifetime kind length).2.Retains origin := by
  have hwellFormed := hretains.wellFormed.allocate owner lifetime kind length
  rcases store.allocate_cases owner lifetime kind length with ⟨error, h⟩ | ⟨text, h⟩ | h
  · rw [h]
    exact hretains
  · rw [h] at hwellFormed ⊢
    exact hretains.withHeap hwellFormed (Nat.le_succ _) ⟨rfl, fun _ ↦ rfl⟩
  · rw [h] at hwellFormed ⊢
    dsimp only at hwellFormed ⊢
    rw [Transaction.noteAllocation, if_pos hretains.isActive] at hwellFormed ⊢
    constructor
    case wellFormed => exact hwellFormed
    case isActive => exact hretains.isActive
    case nextId_le => exact Nat.le_succ_of_le hretains.nextId_le
    case outline_eq =>
      rw [← hretains.outline_eq, outline_withoutAllocations, outline_withoutAllocations]
      change List.filter _ ((store.heap.nextId, _) :: store.heap.outline) = _
      rw [List.filter_cons_of_neg (by simp [Journal.recordAllocation])]
      refine List.filter_congr fun entry hentry ↦ ?_
      obtain ⟨⟨id, region⟩, hmem, rfl⟩ := List.mem_map.mp hentry
      have hold : id ≠ store.heap.nextId :=
        Nat.ne_of_lt (hretains.wellFormed.heap.lt_nextId
          (hretains.wellFormed.heap.find?_eq_some_iff.mpr hmem))
      simp [Journal.recordAllocation, hold]
    case former_eq =>
      intro id cells hcells position
      obtain ⟨region, hregion, -, -⟩ := Heap.contents?_eq_some_iff.mp hcells
      obtain ⟨-, later, hlater, -⟩ := hretains.find?_of_origin hregion
      have hold : id ≠ store.heap.nextId :=
        Nat.ne_of_lt (hretains.wellFormed.heap.lt_nextId hlater)
      rw [← hretains.former_eq hcells, former, former, Heap.contents?, Heap.contents?,
        Heap.find?_insert, if_neg hold]
      rfl

/-- A cell recorded before it is written to keeps its former contents, and so does every other. -/
theorem former_recorded {write : Write} {region : Region}
    (hfind : store.heap.find? write.array.id = some region)
    (hlifetime : region.lifetime = .persistent)
    (hfits : write.patch.FitsAt write.start region.cells.shape) {transaction : Transaction}
    (hrecorded : store.transaction.journal.IsRecorded write.array.id write.start write.patch.size
      region.cells transaction.journal) (id position : Nat) :
    former ⟨store.heap.written write, transaction⟩ id position = store.former id position := by
  unfold former
  dsimp only
  rw [hrecorded.image, Option.or_assoc]
  congr 1
  rw [Heap.contents?, Heap.contents?, Heap.written, Heap.find?_modify]
  by_cases hid : id = write.array.id
  · have hinside := hfits.2
    rw [Cells.size_shape] at hinside
    simp only [hid, hfind, Option.map_some, if_true, Option.bind_some, hlifetime, mem_cellRange,
      true_and, Cells.cell?_overlay hfits]
    by_cases hrange : write.start ≤ position ∧ position < write.start + write.patch.size
    · have hsome := (Cells.isSome_cell?_iff region.cells position).mpr (by omega)
      rw [if_pos hrange, Option.or_of_isSome hsome]
    · rw [if_neg hrange, if_neg hrange, Option.none_or]
  · have hnot : (id, position) ∉ cellRange write.array.id write.start write.patch.size := by
      intro hcell
      exact hid (mem_cellRange.mp hcell).1
    rw [if_neg hnot, Option.none_or]
    simp only [if_neg hid, Option.map_id']

/-- A write keeps the invariant, whatever becomes of it. -/
theorem Retains.perform (hretains : store.Retains origin) (caller : ContextId) (write : Write) :
    (store.perform caller write).2.Retains origin := by
  have hwellFormed := hretains.wellFormed.perform caller write
  have heffect := perform_effect hretains.wellFormed.heap caller write
  generalize (store.perform caller write).2 = after at hwellFormed heffect
  cases heffect with
  | nothing tear => exact hretains.withTear tear
  | @transient region hfind hfits hlifetime =>
    refine hretains.withHeap hwellFormed (Nat.le_refl _) ?_
    refine Heap.resembles_mapRegions (Heap.original_written write) ?_
    intro id other hother hpersistent
    have hid : id ≠ write.array.id := by
      rintro rfl
      obtain rfl : region = other := Option.some_inj.mp (hfind.symm.trans hother)
      exact hlifetime hpersistent
    rw [if_neg hid]
  | direct tear hfind hfits hidle => exact absurd (hretains.isActive.symm.trans hidle) (by decide)
  | @recorded region tear journal hfind hfits hlifetime hactive hrecord =>
    have hadmits := hretains.wellFormed.admits hfind hfits
    have hrecorded := Journal.isRecorded_of_ok hretains.wellFormed.journal hadmits hrecord
    constructor
    case wellFormed => exact hwellFormed
    case isActive => exact hactive
    case nextId_le => exact hretains.nextId_le
    case outline_eq =>
      rw [← hretains.outline_eq, outline_withoutAllocations, outline_withoutAllocations]
      dsimp only
      rw [hrecorded.allocations]
      exact congrArg _ (Heap.outline_mapRegions (Heap.original_written write))
    case former_eq =>
      intro id cells hcells position
      rw [former_recorded hfind hlifetime hfits hrecorded,
        hretains.former_eq hcells]

/-! ### Operations inside a transaction -/

/-- Whether an operation neither closes the transaction nor frees arrays. -/
def Operation.isUndoable : Operation → Bool
  | .release _ | .releaseOwnedBy _ | .commit | .abort => false
  | _ => true

/-- The invariant is kept by every operation that neither closes the transaction nor frees
arrays. -/
theorem Retains.next (hretains : store.Retains origin) {operation : Operation}
    (hundoable : operation.isUndoable = true) : (store.next operation).Retains origin := by
  have hwellFormed := hretains.wellFormed.next operation
  cases operation with
  | allocate owner lifetime kind length => exact hretains.allocate owner lifetime kind length
  | release id => exact Bool.noConfusion hundoable
  | releaseOwnedBy owner => exact Bool.noConfusion hundoable
  | grant id client =>
    rw [Store.next] at hwellFormed ⊢
    rcases store.heap.grant_cases id client with ⟨error, h⟩ | ⟨change, h, horiginal, hcells⟩
    · rw [h]
      exact hretains
    · rw [h] at hwellFormed ⊢
      exact hretains.withHeap hwellFormed (Nat.le_refl _)
        (Heap.resembles_mapRegions horiginal fun id region _ _ ↦ hcells id region)
  | write caller write => exact hretains.perform caller write
  | clearOnDeselect owner =>
    exact hretains.withHeap hwellFormed (Nat.le_refl _) (Heap.resembles_clearOnDeselect _ owner)
  | clearOnReset =>
    exact hretains.withHeap hwellFormed (Nat.le_refl _) (Heap.resembles_clearOnReset _)
  | begin =>
    rw [Store.next, begin_of_active hretains.isActive]
    exact hretains
  | commit => exact Bool.noConfusion hundoable
  | abort => exact Bool.noConfusion hundoable
  | arm writes => exact hretains.withTear _
  | disarm => exact hretains.withTear _

/-- So it is by any number of them. -/
theorem Retains.foldl (hretains : store.Retains origin) {operations : List Operation}
    (hundoable : ∀ operation ∈ operations, operation.isUndoable = true) :
    (operations.foldl Store.next store).Retains origin := by
  induction operations generalizing store with
  | nil => exact hretains
  | cons operation rest ih =>
    rw [List.forall_mem_cons] at hundoable
    exact ih (hretains.next hundoable.1) hundoable.2

/-! ### Rolling back -/

/-- What a number names after rolling back: an array with its images put back, unless the
transaction has allocated it. -/
theorem WellFormed.find?_rollBack (hstore : store.WellFormed) (id : Nat) :
    (store.heap.rollBack store.transaction.journal).find? id =
      ((store.heap.find? id).map fun region ↦ { region with
        cells := Journal.replay store.transaction.journal.entries id region.cells }).filter
          fun _ ↦ !store.transaction.journal.allocations.contains id := by
  rw [Heap.rollBack_eq, Heap.find?_discard hstore.restored.nodup, Heap.find?_restored]

/-- Rolling back makes the former contents the present ones. -/
theorem Retains.cell?_rollBack (hretains : store.Retains origin) {id : Nat} {cells others : Cells}
    (hcells : origin.contents? id = some cells)
    (hothers : (store.heap.rollBack store.transaction.journal).contents? id = some others)
    (position : Nat) : others.cell? position = cells.cell? position := by
  obtain ⟨later, hlater, hpersistent, rfl⟩ := Heap.contents?_eq_some_iff.mp hothers
  rw [hretains.wellFormed.find?_rollBack, Option.filter_eq_some_iff] at hlater
  obtain ⟨region, hregion, rfl⟩ := Option.map_eq_some_iff.mp hlater.1
  have hcontents : store.heap.contents? id = some region.cells :=
    Heap.contents?_eq_some_iff.mpr ⟨region, hregion, hpersistent, rfl⟩
  have hfits : ∀ entry ∈ store.transaction.journal.entries, entry.region = id →
      entry.image.FitsAt entry.start region.cells.shape := by
    rintro entry hentry rfl
    exact (hretains.wellFormed.fits entry hentry hregion).2
  rw [(Journal.replay_spec hfits).2, ← hretains.former_eq hcells, former, hcontents,
    Option.bind_some]
  rfl

/-- Undoing the transaction gives back the arrays and the persistent contents that there were. -/
theorem Retains.rollBack (hretains : store.Retains origin) (horigin : origin.WellFormed) :
    (store.heap.rollBack store.transaction.journal).Resembles origin := by
  apply Heap.resembles_of_cells hretains.wellFormed.rollBack horigin
  · rw [← hretains.outline_eq, outline_withoutAllocations, Heap.rollBack_eq,
      Heap.outline_discard fun _ _ ↦ rfl, Heap.outline_restored]
  · intro id cells others hcells hothers position
    exact hretains.cell?_rollBack hcells hothers position

/-- So a store is at rest again once its transaction has been undone, as it was when that began. -/
theorem Retains.settle (hretains : store.Retains origin) (horigin : origin.WellFormed) :
    store.settle.Rests ∧ store.settle.heap.Resembles origin := by
  have hwellFormed := hretains.wellFormed.abort
  unfold Store.settle
  rw [abort_of_active hretains.isActive] at hwellFormed ⊢
  exact ⟨hwellFormed.rests rfl, hretains.rollBack horigin⟩

/-- Transient arrays that there were are left alone by undoing the transaction. -/
theorem Retains.find?_rollBack (hretains : store.Retains origin) {id : Nat} {region : Region}
    (hregion : origin.find? id = some region) (htransient : region.lifetime ≠ .persistent) :
    ∃ later, store.heap.find? id = some later ∧ later.original = region.original ∧
      (store.heap.rollBack store.transaction.journal).find? id = some later := by
  obtain ⟨hallocated, later, hlater, horiginal⟩ := hretains.find?_of_origin hregion
  refine ⟨later, hlater, horiginal, ?_⟩
  have hnone : ∀ entry ∈ store.transaction.journal.entries, entry.region ≠ id := by
    rintro entry hentry rfl
    have hpersistent := (hretains.wellFormed.fits entry hentry hlater).1
    exact htransient ((Region.eq_of_original_eq horiginal).2.1.symm.trans hpersistent)
  rw [hretains.wellFormed.find?_rollBack, hlater, Option.map_some, Journal.replay_eq_self hnone,
    hallocated]
  rfl

end Retains

/-! ### All that an abort undoes -/

/-- Whether `after`, where a transaction that began in `before` and came to `last` has been undone,
is `before` again but for transient contents and grants. -/
structure Undone (before last after : Store) : Prop where
  persistent : ∀ id region, before.heap.find? id = some region → region.lifetime = .persistent →
    ∃ later, after.heap.find? id = some later ∧ later.original = region.original ∧
      later.cells = region.cells
  isLive_eq : ∀ id, after.heap.isLive id = before.heap.isLive id
  used_eq : after.heap.used = before.heap.used
  /-- Transient arrays of before are as the transaction left them. -/
  transient : ∀ id region, before.heap.find? id = some region → region.lifetime ≠ .persistent →
    ∃ later, last.heap.find? id = some later ∧ later.original = region.original ∧
      after.heap.find? id = some later
  depth_eq : after.transaction.depth = 0
  journal_eq : after.transaction.journal = .empty after.transaction.journal.capacity

/-- Undoing a transaction that began with the heap of a store gives back that store. -/
theorem Retains.undone {before last : Store} (hbefore : before.WellFormed)
    (hretains : last.Retains before.heap) : before.Undone last last.abort.2 := by
  have hresembles := hretains.rollBack hbefore.heap
  rw [abort_of_active hretains.isActive]
  constructor
  case persistent =>
    intro id region hregion hlifetime
    have hcells : before.heap.contents? id = some region.cells :=
      Heap.contents?_eq_some_iff.mpr ⟨region, hregion, hlifetime, rfl⟩
    rw [← hresembles.contents_eq] at hcells
    obtain ⟨later, hlater, -, hsame⟩ := Heap.contents?_eq_some_iff.mp hcells
    have horiginal := congrArg (List.lookup id) hresembles.outline_eq
    rw [Heap.lookup_outline, Heap.lookup_outline, hlater, hregion] at horiginal
    exact ⟨later, hlater, Option.some_inj.mp horiginal, hsame⟩
  case isLive_eq => exact Heap.isLive_eq_of_outline hresembles.outline_eq
  case used_eq =>
    exact hretains.wellFormed.rollBack.used_eq_of_outline hbefore.heap hresembles.outline_eq
  case transient =>
    intro id region hregion hlifetime
    exact hretains.find?_rollBack hregion hlifetime
  case depth_eq => rfl
  case journal_eq => rfl

/-- Whatever happens in a transaction, as long as it is not closed and frees no arrays, an abort
undoes. -/
theorem abort_undoes {store : Store} (hreach : store.Reachable)
    (hidle : store.transaction.depth = 0) {operations : List Operation}
    (hundoable : ∀ operation ∈ operations, operation.isUndoable = true) :
    store.begin.1 = .ok () ∧
      (∃ count, (operations.foldl next store.begin.2).abort.1 = .ok count) ∧
      store.Undone (operations.foldl next store.begin.2)
        (operations.foldl next store.begin.2).abort.2 ∧
      ∀ earlier owner lifetime kind length later array,
        operations = earlier ++ .allocate owner lifetime kind length :: later →
        ((earlier.foldl next store.begin.2).allocate owner lifetime kind length).1 =
          .value (.ok array) →
        (operations.foldl next store.begin.2).abort.2.heap.isLive array.id = false := by
  have hstore := hreach.wellFormed
  rw [depth_eq_zero_iff] at hidle
  have hbegun := retains_begin hstore hidle
  have hlast := hbegun.foldl hundoable
  have hundone := hlast.undone hstore
  refine ⟨by rw [begin_of_idle hidle], ⟨_, by rw [abort_of_active hlast.isActive]⟩, hundone, ?_⟩
  rintro earlier owner lifetime kind length later array rfl hallocated
  have hearlier := hbegun.foldl fun operation hoperation ↦
    hundoable operation (List.mem_append_left _ hoperation)
  rw [hundone.isLive_eq]
  -- The number of the array is ahead of every array that there was.
  have hnew : store.heap.nextId ≤ array.id := by
    rw [Store.allocate] at hallocated
    rcases (earlier.foldl next store.begin.2).heap.allocate_cases owner lifetime kind length with
      ⟨error, h⟩ | ⟨text, h⟩ | h
    · rw [h] at hallocated
      cases hallocated
    · rw [h] at hallocated
      cases hallocated
    · rw [h] at hallocated
      cases hallocated
      exact hearlier.nextId_le
  cases hfind : store.heap.find? array.id with
  | none => rw [Heap.isLive, hfind]; rfl
  | some region => exact absurd (hstore.heap.lt_nextId hfind) (Nat.not_lt.mpr hnew)

/-- A transaction that merges images, allocates, writes to a transient array, asks to begin once
more and is torn is undone. -/
theorem abort_undoes_torn :
    let card : ContextId := ⟨1⟩
    let kept : ArrayRef := ⟨1, card⟩
    let transient : ArrayRef := ⟨2, card⟩
    let store := [Operation.allocate card .persistent .byte 4,
      .allocate card .clearOnReset .byte 2].foldl next (empty ⟨64, 64, 64⟩ 16)
    let operations := [Operation.write card (.fill kept 2 2 7), .write card (.fill kept 0 2 9),
      .allocate card .persistent .object 3, .write card (.element transient .byte 1 (5 : UInt8)),
      .begin, .arm 0, .write card (.bytes kept 1 [1, 2])]
    store.Reachable ∧ store.transaction.depth = 0 ∧
      (∀ operation ∈ operations, operation.isUndoable = true) ∧
      store.Undone (operations.foldl next store.begin.2)
        (operations.foldl next store.begin.2).abort.2 := by
  intro card kept transient store operations
  have hreach : store.Reachable := (Reachable.empty _ _).foldl _
  have hidle : store.transaction.depth = 0 := rfl
  have hundoable : ∀ operation ∈ operations, operation.isUndoable = true := by decide
  exact ⟨hreach, hidle, hundoable, (abort_undoes hreach hidle hundoable).2.2.1⟩

end SmartCard.Store
