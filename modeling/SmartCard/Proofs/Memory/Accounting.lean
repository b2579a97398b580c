import Mathlib.Algebra.BigOperators.Intervals
import SmartCard.Proofs.Memory.Lineage

/-!
# The bytes in use

For each lifetime the heap counts the bytes in use. The count is what the live arrays take, number
by number (`Heap.occupied`), it stays within the quota, and every array has exactly the cells that
its kind and length ask for, so no access that is allowed leaves them (`Heap.IsAccounted`).

Arrays are freed in several ways, and a journal may name arrays that have been freed before it is
put back. A custody is a store together with the journals handed out by transactions that were
aborted, so that anything may happen between the two halves of undoing a transaction, and a journal
may even be put back again. After every run of a custody the heap is accounted, and every further
step changes the count by exactly what it allocates and frees (`Custody.run_accounted`).
-/

set_option autoImplicit false
set_option relaxedAutoImplicit false

namespace SmartCard

/-! ### Counting number by number -/

/-- The bytes that an array counts for a lifetime. -/
def Region.bytesFor (region : Region) (lifetime : Lifetime) : Nat :=
  if region.lifetime = lifetime then region.length * region.kind.elementSize else 0

namespace Heap

/-- The bytes that a number counts for a lifetime; a dead one counts nothing. -/
def bytesAt (heap : Heap) (lifetime : Lifetime) (id : Nat) : Nat :=
  (heap.find? id).elim 0 (·.bytesFor lifetime)

/-- The bytes that all numbers given out so far count for a lifetime. -/
def occupied (heap : Heap) (lifetime : Lifetime) : Nat :=
  ∑ id ∈ Finset.range heap.nextId, heap.bytesAt lifetime id

/-- The bytes of the arrays of an earlier heap that are dead in a later one. -/
def freed (earlier later : Heap) (lifetime : Lifetime) : Nat :=
  ∑ id ∈ Finset.range earlier.nextId, if later.isLive id then 0 else earlier.bytesAt lifetime id

/-- The bytes of the arrays of a later heap that an earlier one had no numbers for. -/
def added (earlier later : Heap) (lifetime : Lifetime) : Nat :=
  ∑ id ∈ Finset.Ico earlier.nextId later.nextId, later.bytesAt lifetime id

/-- What some arrays are charged is the sum over their numbers. -/
private theorem chargedTo_eq_sum (lifetime : Lifetime) {entries : List (Nat × Region)}
    (hnodup : (entries.map Prod.fst).Nodup) {bound : Nat}
    (hbound : ∀ entry ∈ entries, entry.1 < bound) :
    chargedTo lifetime entries =
      ∑ id ∈ Finset.range bound, (entries.lookup id).elim 0 (·.bytesFor lifetime) := by
  induction entries with
  | nil => exact (Finset.sum_eq_zero fun _ _ ↦ rfl).symm
  | cons entry rest ih =>
    rw [List.map_cons, List.nodup_cons] at hnodup
    have hrest := ih hnodup.2 fun other hother ↦ hbound other (List.mem_cons_of_mem entry hother)
    have hcharge : chargedTo lifetime (entry :: rest) =
        entry.2.bytesFor lifetime + chargedTo lifetime rest := by
      change (if entry.2.lifetime = lifetime then entry.2.footprint + chargedTo lifetime rest
        else chargedTo lifetime rest) = _
      rw [Region.bytesFor]
      split
      · rfl
      · exact (Nat.zero_add _).symm
    have hlookup : ∀ id, ((entry :: rest).lookup id).elim 0 (·.bytesFor lifetime) =
        (if entry.1 = id then entry.2.bytesFor lifetime else 0) +
          (rest.lookup id).elim 0 (·.bytesFor lifetime) := by
      intro id
      rw [List.lookup_cons]
      by_cases hid : entry.1 = id
      · have hnone : rest.lookup id = none := by
          rw [List.lookup_eq_none_iff]
          rintro ⟨other, region⟩ hmem
          simp only [bne_iff_ne]
          rintro rfl
          exact hnodup.1 (hid ▸ List.mem_map_of_mem hmem)
        rw [if_pos hid, hnone, hid, BEq.rfl]
        rfl
      · rw [if_neg hid, beq_false_of_ne fun h ↦ hid h.symm, Nat.zero_add]
    have hinside : entry.1 ∈ Finset.range bound :=
      Finset.mem_range.mpr (hbound entry List.mem_cons_self)
    rw [hcharge, hrest, Finset.sum_congr rfl fun id _ ↦ hlookup id, Finset.sum_add_distrib,
      Finset.sum_ite_eq, if_pos hinside]

section WellFormed

variable {heap earlier later : Heap}

/-- The bytes counted are those of the numbers given out. -/
theorem WellFormed.used_eq_occupied (hheap : heap.WellFormed) (lifetime : Lifetime) :
    heap.used.get lifetime = heap.occupied lifetime := by
  rw [hheap.used_eq]
  refine chargedTo_eq_sum lifetime hheap.nodup fun entry hentry ↦ ?_
  exact hheap.lt_nextId (hheap.find?_eq_some_iff.mpr hentry)

/-- A number given out earlier counts what it counted, unless its array is dead. -/
theorem Follows.bytesAt_eq (hfollows : later.Follows earlier) (lifetime : Lifetime) {id : Nat}
    (hid : id < earlier.nextId) :
    later.bytesAt lifetime id = if later.isLive id then earlier.bytesAt lifetime id else 0 := by
  unfold bytesAt isLive
  cases hfind : later.find? id with
  | none => rfl
  | some region =>
    obtain ⟨former, hformer, horiginal⟩ := hfollows.former hid hfind
    obtain ⟨-, hlifetime, hkind, hlength⟩ := Region.eq_of_original_eq horiginal
    rw [hformer, Option.isSome_some, if_pos rfl, Option.elim_some, Option.elim_some,
      Region.bytesFor, Region.bytesFor, hlifetime, hkind, hlength]

/-- Between two heaps the bytes change by what has been added and what has been freed. -/
theorem Follows.occupied_add_freed (hfollows : later.Follows earlier) (lifetime : Lifetime) :
    later.occupied lifetime + earlier.freed later lifetime =
      earlier.occupied lifetime + earlier.added later lifetime := by
  have hsplit : later.occupied lifetime =
      (∑ id ∈ Finset.range earlier.nextId,
        if later.isLive id then earlier.bytesAt lifetime id else 0) +
        earlier.added later lifetime := by
    rw [occupied, added, ← Finset.sum_range_add_sum_Ico _ hfollows.nextId_le]
    congr 1
    exact Finset.sum_congr rfl fun id hid ↦ hfollows.bytesAt_eq lifetime (Finset.mem_range.mp hid)
  have hold : earlier.occupied lifetime =
      (∑ id ∈ Finset.range earlier.nextId,
        if later.isLive id then earlier.bytesAt lifetime id else 0) +
        earlier.freed later lifetime := by
    rw [occupied, freed, ← Finset.sum_add_distrib]
    refine Finset.sum_congr rfl fun id _ ↦ ?_
    split
    · exact (Nat.add_zero _).symm
    · exact (Nat.zero_add _).symm
  omega

/-- An array that is dead stays dead. -/
theorem Follows.isLive_eq_false (hfollows : later.Follows earlier) {id : Nat}
    (hid : id < earlier.nextId) (hdead : earlier.isLive id = false) : later.isLive id = false := by
  unfold isLive at hdead ⊢
  cases hfind : later.find? id with
  | none => rfl
  | some region =>
    obtain ⟨former, hformer, -⟩ := hfollows.former hid hfind
    rw [hformer] at hdead
    exact Bool.noConfusion hdead

end WellFormed

/-! ### Staying within the quotas -/

/-- Whether the quotas are the given ones and no count exceeds its quota. -/
structure IsWithin (heap : Heap) (quotas : PerLifetime) : Prop where
  quotas_eq : heap.quotas = quotas
  used_le : ∀ lifetime, heap.used.get lifetime ≤ quotas.get lifetime

section IsWithin

variable {heap : Heap} {quotas : PerLifetime}

theorem isWithin_empty (quotas : PerLifetime) : (empty quotas).IsWithin quotas where
  quotas_eq := rfl
  used_le := fun lifetime ↦ by
    cases lifetime <;> exact Nat.zero_le _

theorem IsWithin.mapRegions (hwithin : heap.IsWithin quotas) (change : Nat → Region → Region) :
    (heap.mapRegions change).IsWithin quotas :=
  ⟨hwithin.quotas_eq, hwithin.used_le⟩

theorem IsWithin.discard (hwithin : heap.IsWithin quotas) (doomed : Nat → Region → Bool) :
    (heap.discard doomed).IsWithin quotas where
  quotas_eq := hwithin.quotas_eq
  used_le := fun lifetime ↦ by
    rw [Heap.discard, PerLifetime.get_ofFn]
    exact Nat.le_trans (Nat.sub_le _ _) (hwithin.used_le lifetime)

/-- An array may be added that fits what is left of its quota. -/
theorem IsWithin.insert (hwithin : heap.IsWithin quotas) {region : Region}
    (hroom : region.footprint ≤ heap.available region.lifetime) :
    (heap.insert region).IsWithin quotas where
  quotas_eq := hwithin.quotas_eq
  used_le := fun lifetime ↦ by
    have hused := hwithin.used_le lifetime
    rw [Heap.insert, PerLifetime.get_ofFn]
    split
    · subst lifetime
      rw [available, hwithin.quotas_eq] at hroom
      omega
    · exact hused

theorem IsWithin.rollBack (hwithin : heap.IsWithin quotas) (journal : Journal) :
    (heap.rollBack journal).IsWithin quotas := by
  rw [rollBack_eq, restored_eq]
  exact (hwithin.mapRegions _).discard _

/-- The charge of an array that can be laid out is exact. -/
theorem charge_eq_footprint {kind : ElementKind} {length : Nat}
    (hlayout : layoutFault? kind length = none) : charge kind length = kind.footprint length := by
  have hsmall := footprint_lt hlayout
  rw [charge]
  unfold blockLimit at hsmall
  unfold wordCount
  omega

/-- A request that is granted fits what is left of its quota. -/
theorem IsWithin.allocate (hwithin : heap.IsWithin quotas) (owner : ContextId)
    (lifetime : Lifetime) (kind : ElementKind) (length : Nat) :
    (heap.allocate owner lifetime kind length).2.IsWithin quotas := by
  rw [Heap.allocate]
  split
  · exact hwithin
  · cases hfault : heap.fault? kind length with
    | some text => exact ⟨hwithin.quotas_eq, hwithin.used_le⟩
    | none =>
      refine hwithin.insert ?_
      have hexact := charge_eq_footprint (fault?_eq_none_iff.mp hfault).2
      change kind.footprint length ≤ heap.available lifetime
      omega

end IsWithin

end Heap

namespace Store

variable {store : Store} {quotas : PerLifetime}

/-- No operation exceeds a quota. -/
theorem WellFormed.isWithin_next (hstore : store.WellFormed) (hwithin : store.heap.IsWithin quotas)
    (operation : Operation) : (store.next operation).heap.IsWithin quotas := by
  cases operation with
  | allocate owner lifetime kind length =>
    have hallocated := hwithin.allocate owner lifetime kind length
    rw [Store.next, Store.allocate]
    generalize store.heap.allocate owner lifetime kind length = outcome at hallocated ⊢
    obtain ⟨(_ | _) | _, heap⟩ := outcome <;> exact hallocated
  | release id =>
    rw [Store.next, Heap.release]
    split
    · exact hwithin.discard fun other _ ↦ other = id
    · exact hwithin
  | releaseOwnedBy owner => exact hwithin.discard fun _ region ↦ region.owner = owner
  | grant id client =>
    rw [Store.next, Heap.grant]
    split
    · exact ⟨hwithin.quotas_eq, hwithin.used_le⟩
    · exact hwithin
  | write caller write =>
    have heffect := perform_effect hstore.heap caller write
    change (store.perform caller write).2.heap.IsWithin quotas
    generalize (store.perform caller write).2 = after at heffect
    cases heffect with
    | nothing _ => exact hwithin
    | transient _ _ _ => exact ⟨hwithin.quotas_eq, hwithin.used_le⟩
    | direct _ _ _ _ => exact ⟨hwithin.quotas_eq, hwithin.used_le⟩
    | recorded _ _ _ _ _ _ _ => exact ⟨hwithin.quotas_eq, hwithin.used_le⟩
  | clearOnDeselect owner => exact ⟨hwithin.quotas_eq, hwithin.used_le⟩
  | clearOnReset => exact ⟨hwithin.quotas_eq, hwithin.used_le⟩
  | begin =>
    rw [Store.next, heap_begin]
    exact hwithin
  | commit =>
    rw [Store.next, heap_commit]
    exact hwithin
  | abort =>
    rw [Store.next]
    cases hactive : store.transaction.isActive with
    | false =>
      rw [abort_of_idle hactive]
      exact hwithin
    | true =>
      rw [abort_of_active hactive]
      exact hwithin.rollBack _
  | arm writes => exact hwithin
  | disarm => exact hwithin

end Store

/-! ### Journals handed out -/

/-- A store, and the journals that aborted transactions have handed out. -/
structure Custody where
  store : Store
  journals : List Journal

namespace Custody

/-- An operation on the store, an abort whose journal is kept for later, or the putting back of one
of the journals kept. -/
inductive Step where
  | operate (operation : Store.Operation)
  | handOut
  | putBack (index : Nat)

/-- The custody after a step. -/
def next (custody : Custody) : Step → Custody
  | .operate operation => { custody with store := custody.store.next operation }
  | .handOut =>
    match custody.store.transaction.abort with
    | .error _ => custody
    | .ok (journal, transaction) =>
      ⟨{ custody.store with transaction }, journal :: custody.journals⟩
  | .putBack index =>
    match custody.journals[index]? with
    | none => custody
    | some journal =>
      { custody with
        store := { custody.store with heap := custody.store.heap.rollBack journal } }

/-- The custody after some steps, beginning with no arrays, no transaction and no journals. -/
def run (quotas : PerLifetime) (commitCapacity : Nat) (steps : List Step) : Custody :=
  steps.foldl next ⟨.empty quotas commitCapacity, []⟩

end Custody

/-- Whether a journal can be put back: it names only numbers given out, and its images fit the
arrays that they go to. -/
structure Heap.Fits (heap : Heap) (journal : Journal) : Prop where
  lt_nextId : ∀ entry ∈ journal.entries, entry.region < heap.nextId
  fits : ∀ entry ∈ journal.entries, ∀ {region}, heap.find? entry.region = some region →
    entry.image.FitsAt entry.start region.cells.shape

/-- A journal that can be put back still can be later. -/
theorem Heap.Fits.follows {earlier later : Heap} {journal : Journal} (hfits : earlier.Fits journal)
    (hearlier : earlier.WellFormed) (hlater : later.WellFormed)
    (hfollows : later.Follows earlier) : later.Fits journal where
  lt_nextId := fun entry hentry ↦
    Nat.lt_of_lt_of_le (hfits.lt_nextId entry hentry) hfollows.nextId_le
  fits := fun entry hentry {region} hfind ↦ by
    obtain ⟨former, hformer, horiginal⟩ := hfollows.former (hfits.lt_nextId entry hentry) hfind
    obtain ⟨-, -, hkind, hlength⟩ := Region.eq_of_original_eq horiginal
    rw [hlater.shape_eq hfind, ← hkind, ← hlength, ← hearlier.shape_eq hformer]
    exact hfits.fits entry hentry hformer

/-- What the journal of a store has recorded can be put back. -/
theorem Store.WellFormed.fits_journal {store : Store} (hstore : store.WellFormed) :
    store.heap.Fits store.transaction.journal :=
  ⟨hstore.lt_nextId, fun entry hentry _ hfind ↦ (hstore.fits entry hentry hfind).2⟩

namespace Custody

variable {custody : Custody} {quotas : PerLifetime}

/-- What every step keeps. -/
structure WellFormed (custody : Custody) (quotas : PerLifetime) : Prop where
  store : custody.store.WellFormed
  within : custody.store.heap.IsWithin quotas
  fits : ∀ journal ∈ custody.journals, custody.store.heap.Fits journal

/-- Putting a journal back that fits leads to a well-formed heap that follows the one before. -/
theorem rollBack_of_fits {heap : Heap} (hheap : heap.WellFormed) {journal : Journal}
    (hfits : heap.Fits journal) :
    (heap.rollBack journal).WellFormed ∧ (heap.rollBack journal).Follows heap := by
  constructor
  · rw [Heap.rollBack_eq]
    exact (hheap.restored hfits.fits).discard _
  · exact (Heap.descends_rollBack hheap.nodup journal).follows
      (heap.nextId_rollBack journal).ge

/-- Every step keeps a custody well formed and its arrays in order of age. -/
theorem WellFormed.next (hcustody : custody.WellFormed quotas) (step : Step) :
    (custody.next step).WellFormed quotas ∧
      (custody.next step).store.heap.Follows custody.store.heap := by
  obtain ⟨hstore, hwithin, hfits⟩ := hcustody
  cases step with
  | operate operation =>
    have hafter := hstore.next operation
    have hfollows := hstore.follows_next operation
    exact ⟨⟨hafter, hstore.isWithin_next hwithin operation, fun journal hjournal ↦
      (hfits journal hjournal).follows hstore.heap hafter.heap hfollows⟩, hfollows⟩
  | handOut =>
    rw [Custody.next, Transaction.abort]
    cases custody.store.transaction.isActive with
    | false => exact ⟨⟨hstore, hwithin, hfits⟩, .refl _⟩
    | true =>
      refine ⟨⟨Store.wellFormed_of_empty hstore.heap rfl, hwithin, ?_⟩, .refl _⟩
      exact List.forall_mem_cons.mpr ⟨hstore.fits_journal, hfits⟩
  | putBack index =>
    rw [Custody.next]
    cases hjournal : custody.journals[index]? with
    | none => exact ⟨⟨hstore, hwithin, hfits⟩, .refl _⟩
    | some journal =>
      have hfit := hfits journal (List.mem_of_getElem? hjournal)
      obtain ⟨hheap, hfollows⟩ := rollBack_of_fits hstore.heap hfit
      exact ⟨⟨hstore.withHeap hheap hfollows, hwithin.rollBack journal, fun other hother ↦
        (hfits other hother).follows hstore.heap hheap hfollows⟩, hfollows⟩

/-- So do any number of them. -/
theorem WellFormed.foldl (hcustody : custody.WellFormed quotas) (steps : List Step) :
    (steps.foldl Custody.next custody).WellFormed quotas ∧
      (steps.foldl Custody.next custody).store.heap.Follows custody.store.heap := by
  induction steps generalizing custody with
  | nil => exact ⟨hcustody, .refl _⟩
  | cons step rest ih =>
    obtain ⟨hnext, hfollows⟩ := hcustody.next step
    obtain ⟨hafter, hlater⟩ := ih hnext
    exact ⟨hafter, hlater.trans hfollows⟩

theorem wellFormed_run (quotas : PerLifetime) (commitCapacity : Nat) (steps : List Step) :
    (run quotas commitCapacity steps).WellFormed quotas := by
  have hstart : WellFormed ⟨.empty quotas commitCapacity, []⟩ quotas :=
    ⟨Store.wellFormed_empty quotas commitCapacity, Heap.isWithin_empty quotas, nofun⟩
  exact (hstart.foldl steps).1

end Custody

/-! ### The account -/

/-- Whether the counts of a heap are those of its live arrays and within the quotas, and every array
has the cells that it needs, so that no access leaves them. -/
structure Heap.IsAccounted (heap : Heap) (quotas : PerLifetime) : Prop where
  used_eq : ∀ lifetime, heap.used.get lifetime = heap.occupied lifetime
  used_le : ∀ lifetime, heap.used.get lifetime ≤ quotas.get lifetime
  available_add_used : ∀ lifetime,
    heap.available lifetime + heap.used.get lifetime = quotas.get lifetime
  shape_eq : ∀ {id region}, heap.find? id = some region →
    region.cells.shape = ⟨region.kind == .object, region.length * region.kind.cellWidth⟩
  access_inside : ∀ {caller array kind index count region},
    heap.access caller array kind index count = .ok region →
      region.kind = kind ∧ (index + count) * kind.cellWidth ≤ region.cells.size

/-- A well-formed heap within its quotas is accounted. -/
theorem Heap.WellFormed.isAccounted {heap : Heap} {quotas : PerLifetime} (hheap : heap.WellFormed)
    (hwithin : heap.IsWithin quotas) : heap.IsAccounted quotas where
  used_eq := hheap.used_eq_occupied
  used_le := hwithin.used_le
  available_add_used := fun lifetime ↦ by
    rw [available, hwithin.quotas_eq]
    exact Nat.sub_add_cancel (hwithin.used_le lifetime)
  shape_eq := hheap.shape_eq
  access_inside := fun {_ _ kind _ _ region} haccess ↦ by
    obtain ⟨hfind, hcheck⟩ := access_eq_ok_iff.mp haccess
    obtain ⟨-, hkind, hrange⟩ := Region.check_eq_ok_iff.mp hcheck
    have hsize : region.cells.size = region.length * kind.cellWidth := by
      rw [← Cells.size_shape, hheap.shape_eq hfind, hkind]
      rfl
    rw [hsize]
    exact ⟨hkind, Nat.mul_le_mul_right _ hrange⟩

/-- After every run the heap is accounted, every write allowed and every image kept stays inside
its array, and a further step changes the counts by exactly what it allocates and frees; no array
freed comes back. -/
theorem Custody.run_accounted (quotas : PerLifetime) (commitCapacity : Nat) (steps : List Step) :
    let custody := run quotas commitCapacity steps
    let heap := custody.store.heap
    heap.IsAccounted quotas ∧
      (∀ caller write region, custody.store.accessFor caller write = .ok region →
        write.patch.FitsAt write.start region.cells.shape) ∧
      (∀ journal ∈ custody.store.transaction.journal :: custody.journals,
        ∀ entry ∈ journal.entries, ∀ region, heap.find? entry.region = some region →
          entry.image.FitsAt entry.start region.cells.shape) ∧
      ∀ step, let after := (custody.next step).store.heap
        (∀ lifetime, after.used.get lifetime + heap.freed after lifetime =
          heap.used.get lifetime + heap.added after lifetime) ∧
        ∀ id < heap.nextId, heap.isLive id = false → after.isLive id = false := by
  intro custody heap
  have hcustody : custody.WellFormed quotas := wellFormed_run quotas commitCapacity steps
  refine ⟨hcustody.store.heap.isAccounted hcustody.within, ?_, ?_, ?_⟩
  · intro caller write region haccess
    exact (Store.fits_of_access hcustody.store.heap haccess).2
  · intro journal hjournal entry hentry region hfind
    rcases List.mem_cons.mp hjournal with rfl | hkept
    · exact hcustody.store.fits_journal.fits entry hentry hfind
    · exact (hcustody.fits journal hkept).fits entry hentry hfind
  · intro step after
    obtain ⟨hafter, hfollows⟩ := hcustody.next step
    constructor
    · intro lifetime
      rw [hafter.store.heap.used_eq_occupied, hcustody.store.heap.used_eq_occupied]
      exact hfollows.occupied_add_freed lifetime
    · intro id hid hdead
      exact hfollows.isLive_eq_false hid hdead

end SmartCard
