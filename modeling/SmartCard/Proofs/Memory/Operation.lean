import SmartCard.Proofs.Journal.Recording
import SmartCard.Proofs.Memory.Replay
import SmartCard.Proofs.Memory.Write

/-!
# Every state of the store

A store is reached from an empty one by operations in any order, by any contexts and with any
arguments (`Store.Reachable`). All of these keep it well formed (`Store.WellFormed.next`): the heap
is well formed, the journal is sound and its entries fit the arrays that they name, which are
persistent, and nothing is recorded while no transaction is open.
-/

set_option autoImplicit false
set_option relaxedAutoImplicit false

namespace SmartCard

namespace Store

/-- What can be done to a store. -/
inductive Operation where
  | allocate (owner : ContextId) (lifetime : Lifetime) (kind : ElementKind) (length : Nat)
  | release (id : Nat)
  | releaseOwnedBy (owner : ContextId)
  | grant (id : Nat) (client : ContextId)
  | write (caller : ContextId) (write : Write)
  | clearOnDeselect (owner : ContextId)
  | clearOnReset
  | begin
  | commit
  | abort
  | arm (writes : Nat)
  | disarm

/-- The store with the outcome of a change of its heap; a change refused changes nothing. -/
def withHeap? (store : Store) : Except MemoryError Heap → Store
  | .ok heap => { store with heap }
  | .error _ => store

/-- The store with another tear injector. -/
def withTear (store : Store) (tear : TearInjector) : Store :=
  { store with transaction := { store.transaction with tear } }

/-- The store after an operation. -/
def next (store : Store) : Operation → Store
  | .allocate owner lifetime kind length => (store.allocate owner lifetime kind length).2
  | .release id => store.withHeap? (store.heap.release id)
  | .releaseOwnedBy owner => { store with heap := store.heap.releaseOwnedBy owner }
  | .grant id client => store.withHeap? (store.heap.grant id client)
  | .write caller write => (store.perform caller write).2
  | .clearOnDeselect owner => { store with heap := store.heap.clearOnDeselect owner }
  | .clearOnReset => { store with heap := store.heap.clearOnReset }
  | .begin => store.begin.2
  | .commit => store.commit.2
  | .abort => store.abort.2
  | .arm writes => store.withTear (store.transaction.tear.arm writes)
  | .disarm => store.withTear store.transaction.tear.disarm

/-- The stores that operations lead to. -/
inductive Reachable : Store → Prop where
  | empty (quotas : PerLifetime) (capacity : Nat) : Reachable (.empty quotas capacity)
  | next {store : Store} (hstore : Reachable store) (operation : Operation) :
    Reachable (store.next operation)

/-- What every operation keeps. -/
structure WellFormed (store : Store) : Prop where
  heap : store.heap.WellFormed
  journal : store.transaction.journal.Sound
  lt_nextId : ∀ entry ∈ store.transaction.journal.entries, entry.region < store.heap.nextId
  fits : ∀ entry ∈ store.transaction.journal.entries, ∀ {region},
    store.heap.find? entry.region = some region →
      region.lifetime = .persistent ∧ entry.image.FitsAt entry.start region.cells.shape
  idle : store.transaction.isActive = false →
    store.transaction.journal = .empty store.transaction.journal.capacity

end Store

/-! ### Changes of the heap -/

namespace Heap

variable {heap : Heap}

/-- Writing keeps what an array was when it was allocated. -/
theorem original_written (write : Write) (id : Nat) (region : Region) :
    (if id = write.array.id then
        { region with cells := write.patch.overlay write.start region.cells }
      else region).original = region.original := by
  split <;> rfl

theorem follows_written (heap : Heap) (write : Write) : (heap.written write).Follows heap :=
  follows_mapRegions (original_written write)

/-- Cells that fit are written without changing the shape of an array. -/
theorem WellFormed.written (hheap : heap.WellFormed) {write : Write} {region : Region}
    (hfind : heap.find? write.array.id = some region)
    (hfits : write.patch.FitsAt write.start region.cells.shape) :
    (heap.written write).WellFormed := by
  apply hheap.mapRegions (original_written write)
  intro id other hother
  by_cases hid : id = write.array.id
  · rw [if_pos hid]
    obtain rfl : region = other := Option.some_inj.mp (hfind.symm.trans (hid ▸ hother))
    exact Cells.shape_overlay hfits
  · rw [if_neg hid]

/-- Clearing keeps what an array was when it was allocated. -/
theorem original_cleared (forgotten : Region → Bool) (region : Region) :
    (if forgotten region then { region with cells := region.cells.cleared } else region).original =
      region.original := by
  split <;> rfl

theorem follows_clearWhere (heap : Heap) (forgotten : Region → Bool) :
    (heap.clearWhere forgotten).Follows heap :=
  follows_mapRegions fun _ ↦ original_cleared forgotten

theorem WellFormed.clearWhere (hheap : heap.WellFormed) (forgotten : Region → Bool) :
    (heap.clearWhere forgotten).WellFormed := by
  apply hheap.mapRegions fun _ ↦ original_cleared forgotten
  intro id region hregion
  split
  · exact Cells.shape_cleared region.cells
  · rfl

/-- Granting is refused or changes nothing but grants. -/
theorem grant_cases (heap : Heap) (id : Nat) (client : ContextId) :
    (∃ error, heap.grant id client = .error error) ∨
      ∃ change : Nat → Region → Region, heap.grant id client = .ok (heap.mapRegions change) ∧
        (∀ other region, (change other region).original = region.original) ∧
        ∀ other region, (change other region).cells = region.cells := by
  rw [grant]
  split
  · right
    refine ⟨_, rfl, ?_, ?_⟩
    · intro other region
      split <;> rfl
    · intro other region
      split <;> rfl
  · exact Or.inl ⟨_, rfl⟩

/-- An allocation is refused, crashes and skips a number, or makes a fresh array. -/
theorem allocate_cases (heap : Heap) (owner : ContextId) (lifetime : Lifetime) (kind : ElementKind)
    (length : Nat) :
    (∃ error, heap.allocate owner lifetime kind length = (.value (.error error), heap)) ∨
    (∃ text, heap.allocate owner lifetime kind length =
      (.crash text, { heap with nextId := heap.nextId + 1 })) ∨
    heap.allocate owner lifetime kind length =
      (.value (.ok ⟨heap.nextId, owner⟩), heap.insert (.fresh owner lifetime kind length)) := by
  rw [allocate]
  split
  · exact Or.inl ⟨_, rfl⟩
  · split
    · exact Or.inr (Or.inl ⟨_, rfl⟩)
    · exact Or.inr (Or.inr rfl)

theorem WellFormed.insert_fresh (hheap : heap.WellFormed) (owner : ContextId)
    (lifetime : Lifetime) (kind : ElementKind) (length : Nat) :
    (heap.insert (.fresh owner lifetime kind length)).WellFormed :=
  hheap.insert (Cells.shape_zeroed kind length)

end Heap

namespace Store

variable {store : Store}

/-! ### Allocating -/

/-- An allocation is refused, crashes and skips a number, or makes a fresh array that an open
transaction notes. -/
theorem allocate_cases (store : Store) (owner : ContextId) (lifetime : Lifetime)
    (kind : ElementKind) (length : Nat) :
    (∃ error, store.allocate owner lifetime kind length = (.value (.error error), store)) ∨
    (∃ text, store.allocate owner lifetime kind length =
      (.crash text, { store with heap := { store.heap with nextId := store.heap.nextId + 1 } })) ∨
    store.allocate owner lifetime kind length =
      (.value (.ok ⟨store.heap.nextId, owner⟩),
        ⟨store.heap.insert (.fresh owner lifetime kind length),
          store.transaction.noteAllocation store.heap.nextId⟩) := by
  rw [Store.allocate]
  rcases store.heap.allocate_cases owner lifetime kind length with ⟨error, h⟩ | ⟨text, h⟩ | h
  · rw [h]
    exact Or.inl ⟨error, rfl⟩
  · rw [h]
    exact Or.inr (Or.inl ⟨text, rfl⟩)
  · rw [h]
    exact Or.inr (Or.inr rfl)

/-! ### Opening and closing a transaction -/

theorem depth_eq_zero_iff {transaction : Transaction} :
    transaction.depth = 0 ↔ transaction.isActive = false := by
  unfold Transaction.depth
  cases transaction.isActive <;> simp

theorem begin_of_idle (hidle : store.transaction.isActive = false) :
    store.begin = (.ok (), { store with
      transaction := { store.transaction with
        isActive := true
        journal := store.transaction.journal.clear } }) := by
  rw [begin, Transaction.begin, hidle]
  rfl

theorem begin_of_active (hactive : store.transaction.isActive = true) :
    store.begin = (.error .alreadyActive, store) := by
  rw [begin, Transaction.begin, hactive]
  rfl

theorem commit_of_active (hactive : store.transaction.isActive = true) :
    store.commit = (.ok store.transaction.journal.entries.length,
      { heap := store.heap
        transaction := { store.transaction with
          isActive := false
          journal := store.transaction.journal.clear
          commits := store.transaction.commits + 1 } }) := by
  rw [commit, Transaction.commit, hactive]
  rfl

theorem commit_of_idle (hidle : store.transaction.isActive = false) :
    store.commit = (.error .notActive, store) := by
  rw [commit, Transaction.commit, hidle]
  rfl

theorem abort_of_active (hactive : store.transaction.isActive = true) :
    store.abort = (.ok store.transaction.journal.entries.length,
      { heap := store.heap.rollBack store.transaction.journal
        transaction := { store.transaction with
          isActive := false
          journal := store.transaction.journal.clear
          aborts := store.transaction.aborts + 1 } }) := by
  rw [abort, Transaction.abort, hactive]
  rfl

theorem abort_of_idle (hidle : store.transaction.isActive = false) :
    store.abort = (.error .notActive, store) := by
  rw [abort, Transaction.abort, hidle]
  rfl

/-- A write that fails changes no more than the tear injector. -/
theorem perform_of_error {caller : ContextId} {write : Write} {error : MemoryError}
    (herror : (store.perform caller write).1 = .error error) :
    ∃ tear, (store.perform caller write).2 = store.withTear tear := by
  cases haccess : store.accessFor caller write with
  | error refusal =>
    rw [perform_of_refused haccess]
    exact ⟨store.transaction.tear, rfl⟩
  | ok region =>
    by_cases hcount : write.count = 0
    · rw [perform_of_empty haccess hcount] at herror
      cases herror
    by_cases hlifetime : region.lifetime = .persistent
    · rw [perform_of_persistent haccess hcount hlifetime] at herror ⊢
      unfold Transaction.prepareWrite at herror ⊢
      generalize store.transaction.tear.pass = passed at herror ⊢
      obtain ⟨reason | passed, tear⟩ := passed
      · exact ⟨tear, rfl⟩
      · dsimp only at herror ⊢
        by_cases hactive : store.transaction.isActive = true
        · rw [if_pos hactive] at herror ⊢
          generalize store.transaction.journal.record _ _ _ _ = recorded at herror ⊢
          -- the tear injector has counted the write before the journal refuses it
          cases recorded with
          | error reason => exact ⟨tear, rfl⟩
          | ok journal => cases herror
        · rw [if_neg hactive] at herror
          cases herror
    · rw [perform_of_transient haccess hcount hlifetime] at herror
      cases herror

/-! ### What every operation keeps -/

/-- A store whose heap has changed, and whose journal has not, stays well formed. -/
theorem WellFormed.withHeap (hstore : store.WellFormed) {heap : Heap} (hheap : heap.WellFormed)
    (hfollows : heap.Follows store.heap) : { store with heap }.WellFormed where
  heap := hheap
  journal := hstore.journal
  lt_nextId := fun entry hentry ↦
    Nat.lt_of_lt_of_le (hstore.lt_nextId entry hentry) hfollows.nextId_le
  fits := fun entry hentry {region} hfind ↦ by
    obtain ⟨former, hformer, horiginal⟩ := hfollows.former (hstore.lt_nextId entry hentry) hfind
    obtain ⟨-, hlifetime, hkind, hlength⟩ := Region.eq_of_original_eq horiginal
    rw [← hlifetime, hheap.shape_eq hfind, ← hkind, ← hlength, ← hstore.heap.shape_eq hformer]
    exact hstore.fits entry hentry hformer
  idle := hstore.idle

/-- A store stays well formed when only the counters, the injector or the allocations noted
change. -/
theorem WellFormed.withTransaction (hstore : store.WellFormed) {transaction : Transaction}
    (hsound : transaction.journal.Sound)
    (hentries : transaction.journal.entries = store.transaction.journal.entries)
    (hidle : transaction.isActive = false →
      transaction.journal = .empty transaction.journal.capacity) :
    { store with transaction }.WellFormed where
  heap := hstore.heap
  journal := hsound
  lt_nextId := hentries ▸ hstore.lt_nextId
  fits := hentries ▸ hstore.fits
  idle := hidle

theorem WellFormed.withTear (hstore : store.WellFormed) (tear : TearInjector) :
    (store.withTear tear).WellFormed :=
  hstore.withTransaction hstore.journal rfl hstore.idle

/-- A store with nothing recorded is well formed if its heap is. -/
theorem wellFormed_of_empty {heap : Heap} (hheap : heap.WellFormed) {transaction : Transaction}
    {capacity : Nat} (hempty : transaction.journal = .empty capacity) :
    Store.WellFormed ⟨heap, transaction⟩ where
  heap := hheap
  journal := hempty ▸ Journal.sound_empty capacity
  lt_nextId := fun entry hentry ↦ by
    rw [hempty] at hentry
    exact absurd hentry List.not_mem_nil
  fits := fun entry hentry ↦ by
    rw [hempty] at hentry
    exact absurd hentry List.not_mem_nil
  idle := fun _ ↦ by
    rw [hempty]
    rfl

theorem wellFormed_empty (quotas : PerLifetime) (capacity : Nat) :
    (empty quotas capacity).WellFormed :=
  @wellFormed_of_empty _ (Heap.wellFormed_empty quotas) (.idle capacity) capacity rfl

theorem WellFormed.allocate (hstore : store.WellFormed) (owner : ContextId) (lifetime : Lifetime)
    (kind : ElementKind) (length : Nat) :
    (store.allocate owner lifetime kind length).2.WellFormed := by
  rcases store.allocate_cases owner lifetime kind length with ⟨error, h⟩ | ⟨text, h⟩ | h
  · rw [h]
    exact hstore
  · rw [h]
    exact hstore.withHeap hstore.heap.skip (Heap.follows_skip store.heap)
  · rw [h]
    have hinserted := hstore.withHeap (hstore.heap.insert_fresh owner lifetime kind length)
      (Heap.follows_insert store.heap _)
    dsimp only
    rw [Transaction.noteAllocation]
    by_cases hactive : store.transaction.isActive = true
    · rw [if_pos hactive]
      refine hinserted.withTransaction ?_ rfl ?_
      · exact ⟨hstore.journal.apart, hstore.journal.used_eq, hstore.journal.used_le⟩
      · intro hidle
        exact absurd (hactive.symm.trans hidle) (by decide)
    · rw [if_neg hactive]
      exact hinserted

/-- A range that is about to be written goes with the entries that there are. -/
theorem WellFormed.admits (hstore : store.WellFormed) {write : Write} {region : Region}
    (hfind : store.heap.find? write.array.id = some region)
    (hfits : write.patch.FitsAt write.start region.cells.shape) :
    store.transaction.journal.Admits write.array.id write.start write.patch.size region.cells where
  inside := hfits.2.trans_eq (Cells.size_shape region.cells)
  fits := fun entry hentry hregion ↦ (hstore.fits entry hentry (hregion ▸ hfind)).2

theorem WellFormed.perform (hstore : store.WellFormed) (caller : ContextId) (write : Write) :
    (store.perform caller write).2.WellFormed := by
  have heffect := perform_effect hstore.heap caller write
  generalize (store.perform caller write).2 = after at heffect
  cases heffect with
  | nothing tear => exact hstore.withTear tear
  | transient hfind hfits hlifetime =>
    exact hstore.withHeap (hstore.heap.written hfind hfits) (Heap.follows_written _ write)
  | direct tear hfind hfits hidle =>
    exact (hstore.withTear tear).withHeap (hstore.heap.written hfind hfits)
      (Heap.follows_written _ write)
  | @recorded region tear journal hfind hfits hlifetime hactive hrecord =>
    have hadmits := hstore.admits hfind hfits
    have hrecorded := Journal.isRecorded_of_ok hstore.journal hadmits hrecord
    have hnoted : Store.WellFormed
        ⟨store.heap, { store.transaction with tear, journal }⟩ := {
      heap := hstore.heap
      journal := hrecorded.sound
      lt_nextId := fun entry hentry ↦ by
        rcases hrecorded.fits entry hentry with hold | ⟨hregion, -⟩
        · exact hstore.lt_nextId entry hold
        · exact hregion ▸ hstore.heap.lt_nextId hfind
      fits := fun entry hentry {other} hother ↦ by
        rcases hrecorded.fits entry hentry with hold | ⟨hregion, hentryFits⟩
        · exact hstore.fits entry hold hother
        · obtain rfl : region = other := Option.some_inj.mp (hfind.symm.trans (hregion ▸ hother))
          exact ⟨hlifetime, hentryFits⟩
      idle := fun hidle ↦ absurd (hactive.symm.trans hidle) (by decide) }
    exact hnoted.withHeap (hstore.heap.written hfind hfits) (Heap.follows_written _ write)

/-- Writing neither opens nor closes a transaction. -/
theorem isActive_perform (hstore : store.WellFormed) (caller : ContextId) (write : Write) :
    (store.perform caller write).2.transaction.isActive = store.transaction.isActive := by
  have heffect := perform_effect hstore.heap caller write
  generalize (store.perform caller write).2 = after at heffect
  cases heffect <;> rfl

/-- The images of the journal are put back without changing the shape of any array. -/
theorem WellFormed.restored (hstore : store.WellFormed) :
    (store.heap.restored store.transaction.journal.entries).WellFormed := by
  apply hstore.heap.restored
  intro entry hentry region hfind
  exact (hstore.fits entry hentry hfind).2

/-- Undoing a transaction leaves a well-formed heap. -/
theorem WellFormed.rollBack (hstore : store.WellFormed) :
    (store.heap.rollBack store.transaction.journal).WellFormed :=
  hstore.restored.discard _

theorem WellFormed.abort (hstore : store.WellFormed) : store.abort.2.WellFormed := by
  cases hactive : store.transaction.isActive with
  | false =>
    rw [abort_of_idle hactive]
    exact hstore
  | true =>
    rw [abort_of_active hactive]
    exact wellFormed_of_empty hstore.rollBack rfl

theorem WellFormed.begin (hstore : store.WellFormed) : store.begin.2.WellFormed := by
  cases hactive : store.transaction.isActive with
  | false =>
    rw [begin_of_idle hactive]
    exact wellFormed_of_empty hstore.heap rfl
  | true =>
    rw [begin_of_active hactive]
    exact hstore

theorem WellFormed.commit (hstore : store.WellFormed) : store.commit.2.WellFormed := by
  cases hactive : store.transaction.isActive with
  | false =>
    rw [commit_of_idle hactive]
    exact hstore
  | true =>
    rw [commit_of_active hactive]
    exact wellFormed_of_empty hstore.heap rfl

/-- Every operation keeps a store well formed. -/
theorem WellFormed.next (hstore : store.WellFormed) (operation : Operation) :
    (store.next operation).WellFormed := by
  cases operation with
  | allocate owner lifetime kind length => exact hstore.allocate owner lifetime kind length
  | release id =>
    rw [Store.next, Heap.release]
    split
    · exact hstore.withHeap (hstore.heap.discard _) (Heap.follows_discard hstore.heap _)
    · exact hstore
  | releaseOwnedBy owner =>
    exact hstore.withHeap (hstore.heap.discard _) (Heap.follows_discard hstore.heap _)
  | grant id client =>
    rw [Store.next]
    rcases store.heap.grant_cases id client with ⟨error, h⟩ | ⟨change, h, horiginal, hcells⟩
    · rw [h]
      exact hstore
    · rw [h]
      exact hstore.withHeap
        (hstore.heap.mapRegions horiginal fun other region _ ↦ by rw [hcells])
        (Heap.follows_mapRegions horiginal)
  | write caller write => exact hstore.perform caller write
  | clearOnDeselect owner =>
    exact hstore.withHeap (hstore.heap.clearWhere _) (Heap.follows_clearWhere store.heap _)
  | clearOnReset =>
    exact hstore.withHeap (hstore.heap.clearWhere _) (Heap.follows_clearWhere store.heap _)
  | begin => exact hstore.begin
  | commit => exact hstore.commit
  | abort => exact hstore.abort
  | arm writes => exact hstore.withTear _
  | disarm => exact hstore.withTear _

/-- Operations lead from a store reached to one reached. -/
theorem Reachable.foldl (hreach : store.Reachable) (operations : List Operation) :
    (operations.foldl Store.next store).Reachable := by
  induction operations generalizing store with
  | nil => exact hreach
  | cons operation rest ih => exact ih (.next hreach operation)

/-- Every store reached is well formed. -/
theorem Reachable.wellFormed (hreach : store.Reachable) : store.WellFormed := by
  induction hreach with
  | empty quotas capacity => exact wellFormed_empty quotas capacity
  | next _ operation ih => exact ih.next operation

end Store

end SmartCard
