import SmartCard.Proofs.Memory.Operation

/-!
# Where live arrays come from

An array that is live after an operation was live before it, with the same owner, lifetime, kind and
length, or the operation has just allocated it (`Store.lineage_next`). A context enters the grants
of an array only by an operation that grants it the array. So numbers count up and no dead array
comes back, whatever the operation is (`Store.follows_next`).
-/

set_option autoImplicit false
set_option relaxedAutoImplicit false

namespace SmartCard

namespace Heap

variable {heap later earlier : Heap}

theorem Follows.refl (heap : Heap) : heap.Follows heap :=
  ⟨Nat.le_refl _, fun _ hfind ↦ ⟨_, hfind, rfl⟩⟩

theorem Follows.trans (hlater : later.Follows heap) (hheap : heap.Follows earlier) :
    later.Follows earlier where
  nextId_le := hheap.nextId_le.trans hlater.nextId_le
  former := fun hid hfind ↦ by
    obtain ⟨middle, hmiddle, hsame⟩ :=
      hlater.former (Nat.lt_of_lt_of_le hid hheap.nextId_le) hfind
    obtain ⟨former, hformer, horiginal⟩ := hheap.former hid hmiddle
    exact ⟨former, hformer, horiginal.trans hsame⟩

/-- Changing an array leaves the others as they are. -/
theorem find?_modify_of_ne {id changed : Nat} (hne : id ≠ changed) (heap : Heap)
    (change : Region → Region) : (heap.modify changed change).find? id = heap.find? id := by
  rw [find?_modify]
  simp only [if_neg hne, Option.map_id']

/-- Whether every array of a heap is one of an earlier heap, but for its contents. -/
structure Descends (later earlier : Heap) : Prop where
  former : ∀ {id region}, later.find? id = some region → ∃ former, earlier.find? id = some former ∧
    former.original = region.original ∧ former.grants = region.grants

theorem Descends.refl (heap : Heap) : heap.Descends heap :=
  ⟨fun hfind ↦ ⟨_, hfind, rfl, rfl⟩⟩

theorem Descends.trans (hlater : later.Descends heap) (hheap : heap.Descends earlier) :
    later.Descends earlier where
  former := fun hfind ↦ by
    obtain ⟨middle, hmiddle, horiginal, hgrants⟩ := hlater.former hfind
    obtain ⟨former, hformer, hsame, hkept⟩ := hheap.former hmiddle
    exact ⟨former, hformer, hsame.trans horiginal, hkept.trans hgrants⟩

/-- A change of contents alone leaves the arrays that there are. -/
theorem descends_mapRegions {change : Nat → Region → Region}
    (horiginal : ∀ id region, (change id region).original = region.original)
    (hgrants : ∀ id region, (change id region).grants = region.grants) :
    (heap.mapRegions change).Descends heap where
  former := fun {id _} hfind ↦ by
    rw [find?_mapRegions] at hfind
    obtain ⟨former, hformer, rfl⟩ := Option.map_eq_some_iff.mp hfind
    exact ⟨former, hformer, (horiginal id former).symm, (hgrants id former).symm⟩

theorem descends_written (heap : Heap) (write : Write) : (heap.written write).Descends heap := by
  refine descends_mapRegions (original_written write) fun id region ↦ ?_
  split <;> rfl

theorem descends_clearWhere (heap : Heap) (forgotten : Region → Bool) :
    (heap.clearWhere forgotten).Descends heap := by
  refine descends_mapRegions (fun _ ↦ original_cleared forgotten) fun id region ↦ ?_
  split <;> rfl

theorem descends_restored (heap : Heap) (entries : List JournalEntry) :
    (heap.restored entries).Descends heap := by
  rw [restored_eq]
  exact descends_mapRegions (fun _ _ ↦ rfl) fun _ _ ↦ rfl

/-- Freeing leaves some of the arrays. -/
theorem descends_discard (hnodup : (heap.regions.map Prod.fst).Nodup)
    (doomed : Nat → Region → Bool) : (heap.discard doomed).Descends heap where
  former := fun {_ region} hfind ↦ by
    rw [find?_discard hnodup, Option.filter_eq_some_iff] at hfind
    exact ⟨region, hfind.1, rfl, rfl⟩

/-- Undoing a transaction leaves some of the arrays. -/
theorem descends_rollBack (hnodup : (heap.regions.map Prod.fst).Nodup) (journal : Journal) :
    (heap.rollBack journal).Descends heap := by
  have hrestored : ((heap.restored journal.entries).regions.map Prod.fst).Nodup := by
    rw [restored_eq, mapRegions, List.map_map]
    exact hnodup
  rw [rollBack_eq]
  exact (descends_discard hrestored _).trans (descends_restored heap journal.entries)

theorem nextId_rollBack (heap : Heap) (journal : Journal) :
    (heap.rollBack journal).nextId = heap.nextId := by
  rw [rollBack_eq, restored_eq]
  rfl

/-- What descends from a heap and has no new numbers follows it. -/
theorem Descends.follows (hdescends : later.Descends earlier)
    (hnextId : earlier.nextId ≤ later.nextId) : later.Follows earlier where
  nextId_le := hnextId
  former := fun _ hfind ↦ by
    obtain ⟨former, hformer, horiginal, -⟩ := hdescends.former hfind
    exact ⟨former, hformer, horiginal⟩

end Heap

namespace Store

variable {store : Store}

/-- Opening a transaction does not touch the heap. -/
theorem heap_begin (store : Store) : store.begin.2.heap = store.heap := by
  cases hactive : store.transaction.isActive with
  | false => rw [begin_of_idle hactive]
  | true => rw [begin_of_active hactive]

/-- Making a transaction permanent does not touch the heap. -/
theorem heap_commit (store : Store) : store.commit.2.heap = store.heap := by
  cases hactive : store.transaction.isActive with
  | false => rw [commit_of_idle hactive]
  | true => rw [commit_of_active hactive]

theorem WellFormed.descends_abort (hstore : store.WellFormed) :
    store.abort.2.heap.Descends store.heap := by
  cases hactive : store.transaction.isActive with
  | false =>
    rw [abort_of_idle hactive]
    exact .refl _
  | true =>
    rw [abort_of_active hactive]
    exact Heap.descends_rollBack hstore.heap.nodup store.transaction.journal

theorem nextId_abort (store : Store) : store.abort.2.heap.nextId = store.heap.nextId := by
  cases hactive : store.transaction.isActive with
  | false => rw [abort_of_idle hactive]
  | true =>
    rw [abort_of_active hactive]
    exact store.heap.nextId_rollBack store.transaction.journal

theorem WellFormed.descends_perform (hstore : store.WellFormed) (caller : ContextId)
    (write : Write) : (store.perform caller write).2.heap.Descends store.heap := by
  have heffect := perform_effect hstore.heap caller write
  generalize (store.perform caller write).2 = after at heffect
  cases heffect with
  | nothing _ => exact .refl _
  | transient _ _ _ => exact Heap.descends_written store.heap write
  | direct _ _ _ _ => exact Heap.descends_written store.heap write
  | recorded _ _ _ _ _ _ _ => exact Heap.descends_written store.heap write

/-- Whether an operation is one that the card does by itself: undoing, forgetting contents, and
setting the tear injector. -/
def Operation.isUpkeep : Operation → Bool
  | .abort | .clearOnDeselect _ | .clearOnReset | .arm _ | .disarm => true
  | _ => false

/-- Where an array comes from that is live after an operation. -/
inductive Lineage (store : Store) (operation : Operation) (id : Nat) (region : Region) : Prop where
  | kept {former : Region} (hformer : store.heap.find? id = some former)
    (horiginal : former.original = region.original)
    (hgrants : ∀ client ∈ region.grants, client ∈ former.grants ∨ operation = .grant id client)
  | made {owner : ContextId} {lifetime : Lifetime} {kind : ElementKind} {length : Nat}
    (hoperation : operation = .allocate owner lifetime kind length)
    (hid : id = store.heap.nextId) (hregion : region = .fresh owner lifetime kind length)

section Lineage

variable {operation : Operation} {id : Nat} {region : Region}

/-- What descends from the arrays before has been kept. -/
theorem lineage_of_descends {after : Heap} (hdescends : after.Descends store.heap)
    (hfind : after.find? id = some region) : store.Lineage operation id region := by
  obtain ⟨former, hformer, horiginal, hgrants⟩ := hdescends.former hfind
  exact .kept hformer horiginal fun client hclient ↦ Or.inl (hgrants ▸ hclient)

theorem lineage_grant {client : ContextId}
    (hfind : (store.next (.grant id client)).heap.find? id = some region) :
    store.Lineage (.grant id client) id region := by
  rw [next, Heap.grant] at hfind
  split at hfind
  · change (store.heap.modify id _).find? id = _ at hfind
    rw [Heap.find?_modify] at hfind
    obtain ⟨former, hformer, rfl⟩ := Option.map_eq_some_iff.mp hfind
    rw [if_pos rfl]
    refine .kept hformer rfl fun other hother ↦ ?_
    dsimp only at hother
    split at hother
    · exact Or.inl hother
    · rcases List.mem_cons.mp hother with rfl | hold
      · exact Or.inr rfl
      · exact Or.inl hold
  · exact lineage_of_descends (.refl _) hfind

/-- Granting an array leaves the others as they are. -/
theorem find?_grant_of_ne {granted : Nat} {client : ContextId} (hne : id ≠ granted) :
    (store.next (.grant granted client)).heap.find? id = store.heap.find? id := by
  rw [next, Heap.grant]
  split
  · exact Heap.find?_modify_of_ne hne store.heap _
  · rfl

theorem lineage_allocate {owner : ContextId} {lifetime : Lifetime} {kind : ElementKind}
    {length : Nat}
    (hfind : (store.next (.allocate owner lifetime kind length)).heap.find? id = some region) :
    store.Lineage (.allocate owner lifetime kind length) id region := by
  rw [next] at hfind
  rcases store.allocate_cases owner lifetime kind length with ⟨error, h⟩ | ⟨text, h⟩ | h
  · rw [h] at hfind
    exact lineage_of_descends (.refl _) hfind
  · rw [h] at hfind
    exact lineage_of_descends (.refl _) hfind
  · rw [h] at hfind
    change (store.heap.insert _).find? id = _ at hfind
    rw [Heap.find?_insert] at hfind
    split at hfind
    · exact .made rfl ‹_› (Option.some_inj.mp hfind).symm
    · exact lineage_of_descends (.refl _) hfind

/-- Every array live after an operation was live before, or is the one just allocated. -/
theorem lineage_next (hstore : store.WellFormed)
    (hfind : (store.next operation).heap.find? id = some region) :
    store.Lineage operation id region := by
  cases operation with
  | allocate owner lifetime kind length => exact lineage_allocate hfind
  | release released =>
    rw [next, Heap.release] at hfind
    split at hfind
    · exact lineage_of_descends (Heap.descends_discard hstore.heap.nodup _) hfind
    · exact lineage_of_descends (.refl _) hfind
  | releaseOwnedBy owner =>
    exact lineage_of_descends (Heap.descends_discard hstore.heap.nodup _) hfind
  | grant granted client =>
    by_cases hid : id = granted
    · subst hid
      exact lineage_grant hfind
    · rw [find?_grant_of_ne hid] at hfind
      exact lineage_of_descends (.refl _) hfind
  | write caller write => exact lineage_of_descends (hstore.descends_perform caller write) hfind
  | clearOnDeselect owner => exact lineage_of_descends (Heap.descends_clearWhere _ _) hfind
  | clearOnReset => exact lineage_of_descends (Heap.descends_clearWhere _ _) hfind
  | begin =>
    rw [next, heap_begin] at hfind
    exact lineage_of_descends (.refl _) hfind
  | commit =>
    rw [next, heap_commit] at hfind
    exact lineage_of_descends (.refl _) hfind
  | abort => exact lineage_of_descends hstore.descends_abort hfind
  | arm _ => exact lineage_of_descends (.refl _) hfind
  | disarm => exact lineage_of_descends (.refl _) hfind

end Lineage

/-- Whether an operation is an allocation. -/
def Operation.allocates : Operation → Bool
  | .allocate _ _ _ _ => true
  | _ => false

/-- Nothing but an allocation takes a number. -/
theorem WellFormed.nextId_next (hstore : store.WellFormed) {operation : Operation}
    (hother : operation.allocates = false) :
    (store.next operation).heap.nextId = store.heap.nextId := by
  cases operation with
  | allocate _ _ _ _ => exact Bool.noConfusion hother
  | release id =>
    rw [Store.next, Heap.release]
    split <;> rfl
  | grant id client =>
    rw [Store.next, Heap.grant]
    split <;> rfl
  | write caller write =>
    have heffect := perform_effect hstore.heap caller write
    change (store.perform caller write).2.heap.nextId = _
    generalize (store.perform caller write).2 = after at heffect
    cases heffect <;> rfl
  | begin => exact congrArg Heap.nextId store.heap_begin
  | commit => exact congrArg Heap.nextId store.heap_commit
  | abort => exact store.nextId_abort
  | releaseOwnedBy _ | clearOnDeselect _ | clearOnReset | arm _ | disarm => rfl

/-- Numbers count up. -/
theorem WellFormed.nextId_le_next (hstore : store.WellFormed) (operation : Operation) :
    store.heap.nextId ≤ (store.next operation).heap.nextId := by
  cases operation with
  | allocate owner lifetime kind length =>
    rw [Store.next]
    rcases store.allocate_cases owner lifetime kind length with ⟨error, h⟩ | ⟨text, h⟩ | h
    · rw [h]
    · rw [h]
      exact Nat.le_succ _
    · rw [h]
      exact Nat.le_succ _
  | _ => exact (hstore.nextId_next rfl).ge

/-- No array that is dead comes back, and those that live stay what they are but for contents and
grants. -/
theorem WellFormed.follows_next (hstore : store.WellFormed) (operation : Operation) :
    (store.next operation).heap.Follows store.heap where
  nextId_le := hstore.nextId_le_next operation
  former := fun hid hfind ↦ by
    cases lineage_next hstore hfind with
    | kept hformer horiginal _ => exact ⟨_, hformer, horiginal⟩
    | made _ hnew _ => exact absurd hid (hnew ▸ Nat.lt_irrefl _)

end Store

end SmartCard
