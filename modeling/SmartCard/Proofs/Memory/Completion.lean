import Mathlib.Tactic.MkIffOfInductiveProp
import SmartCard.Proofs.Memory.Rollback

/-!
# Which transactions complete

Some writes, each allowed, are made one after another inside a transaction, up to the first that
fails (`Store.performAll`). Two things decide whether all of them succeed: the tear injector has to
let through as many writes as there are that count, namely those to persistent arrays that write
something, and the cells that these write to, each taken once, have to fit into the commit buffer
(`Store.Completes`). `Store.performAll_eq_ok_iff` says that nothing else matters: not how the writes
overlap, not their order, and not what is written to transient arrays in between.

The heap after writes that succeed is the one that the writes leave when they are made directly
(`Store.heap_performAll`).
-/

set_option autoImplicit false
set_option relaxedAutoImplicit false

namespace SmartCard

/-! ### What writes need -/

/-- The cells that a write writes to. -/
def Write.cells (write : Write) : Finset (Nat × Nat) :=
  cellRange write.array.id write.start write.patch.size

namespace Heap

/-- Whether a number names a persistent array. -/
def isPersistent (heap : Heap) (id : Nat) : Bool :=
  (heap.contents? id).isSome

/-- The bytes of commit buffer that a cell of an array needs. -/
def cellCost (heap : Heap) (id : Nat) : Nat :=
  match heap.find? id with
  | some region => (region.kind.cellShape region.length).cellCost
  | none => 0

/-- Whether a write writes something to a persistent array. -/
def counts (heap : Heap) (write : Write) : Bool :=
  heap.isPersistent write.array.id && write.count != 0

/-- The cells of persistent arrays that some writes write to. -/
def touched (heap : Heap) (writes : List Write) : Finset (Nat × Nat) :=
  writes.foldr (fun write cells ↦
    (if heap.isPersistent write.array.id then
      cellRange write.array.id write.start write.patch.size else ∅) ∪ cells) ∅

/-- The heap after a write made directly. -/
def applied (heap : Heap) (write : Write) : Heap :=
  if write.count = 0 then heap else heap.written write

section Outline

variable {heap other : Heap}

theorem isPersistent_eq_of_outline (houtline : heap.outline = other.outline) (id : Nat) :
    heap.isPersistent id = other.isPersistent id := by
  unfold isPersistent
  rw [Bool.eq_iff_iff, isSome_contents?_iff, isSome_contents?_iff, houtline]

theorem cellCost_eq_of_outline (houtline : heap.outline = other.outline) (id : Nat) :
    heap.cellCost id = other.cellCost id := by
  have hlookup := congrArg (List.lookup id) houtline
  rw [lookup_outline, lookup_outline] at hlookup
  unfold cellCost
  cases hfind : heap.find? id with
  | none =>
    rw [hfind, Option.map_none, eq_comm, Option.map_eq_none_iff] at hlookup
    rw [hlookup]
  | some region =>
    rw [hfind, Option.map_some, eq_comm, Option.map_eq_some_iff] at hlookup
    obtain ⟨second, hsecond, horiginal⟩ := hlookup
    obtain ⟨-, -, hkind, hlength⟩ := Region.eq_of_original_eq horiginal
    simp only [hsecond, hkind, hlength]

theorem WellFormed.cellCost_eq (hheap : heap.WellFormed) {id : Nat} {region : Region}
    (hfind : heap.find? id = some region) : heap.cellCost id = region.cells.shape.cellCost := by
  unfold cellCost
  rw [hfind, hheap.shape_eq hfind]

theorem outline_applied (heap : Heap) (write : Write) :
    (heap.applied write).outline = heap.outline := by
  unfold applied
  split
  · rfl
  · exact outline_mapRegions (original_written write)

/-- A write that does not count touches no persistent cell. -/
theorem touched_cons_of_not_counts {write : Write} {writes : List Write}
    (hcounts : heap.counts write = false) :
    heap.touched (write :: writes) = heap.touched writes := by
  change (if heap.isPersistent write.array.id then write.cells else ∅) ∪ heap.touched writes = _
  by_cases hpersistent : heap.isPersistent write.array.id = true
  · have hcount : write.count = 0 := by simpa [counts, hpersistent] using hcounts
    have hempty : write.cells = ∅ := by
      ext ⟨id, position⟩
      simp only [Write.cells, mem_cellRange, write.size_patch, hcount, Finset.notMem_empty,
        iff_false]
      omega
    rw [if_pos hpersistent, hempty, Finset.empty_union]
  · rw [if_neg hpersistent, Finset.empty_union]

/-- A write that counts touches its range. -/
theorem touched_cons_of_counts {write : Write} {writes : List Write}
    (hcounts : heap.counts write = true) :
    heap.touched (write :: writes) = write.cells ∪ heap.touched writes := by
  have hpersistent : heap.isPersistent write.array.id = true := by
    simp [counts] at hcounts
    exact hcounts.1
  change (if heap.isPersistent write.array.id then write.cells else ∅) ∪ heap.touched writes = _
  rw [if_pos hpersistent]

end Outline

end Heap

namespace Store

/-- Makes some writes up to the first that fails. -/
def performAll (caller : ContextId) : List Write → Store → Except MemoryError Unit × Store
  | [], store => (.ok (), store)
  | write :: rest, store =>
    match store.perform caller write with
    | (.error error, after) => (.error error, after)
    | (.ok (), after) => performAll caller rest after

/-- Whether a write passes the checks of its access. -/
def Allows (store : Store) (caller : ContextId) (write : Write) : Prop :=
  ∃ region, store.accessFor caller write = .ok region

instance (store : Store) (caller : ContextId) (write : Write) :
    Decidable (store.Allows caller write) :=
  match haccess : store.accessFor caller write with
  | .ok region => isTrue ⟨region, haccess⟩
  | .error _ => isFalse fun ⟨_, hregion⟩ ↦ nomatch haccess.symm.trans hregion

/-- Whether a transaction made of some writes completes: the injector lets through those that count,
and the cells that they touch fit into the commit buffer. -/
structure Completes (store : Store) (writes : List Write) : Prop where
  tear : ∀ count, store.transaction.tear.remaining = some count →
    writes.countP store.heap.counts ≤ count
  room : footprintOf store.heap.cellCost (store.heap.touched writes) ≤
    store.transaction.journal.capacity

/-! ### One write -/

section Perform

variable {store : Store} {caller : ContextId} {write : Write} {region : Region}

/-- What is allowed stays allowed when a write is made. -/
theorem Allows.applied {other : Write} (hallows : store.Allows caller other) {heap : Heap}
    (hheap : heap = store.heap.applied write) (transaction : Transaction) :
    Allows ⟨heap, transaction⟩ caller other := by
  obtain ⟨region, haccess⟩ := hallows
  obtain ⟨hfind, hcheck⟩ := Heap.access_eq_ok_iff.mp haccess
  subst hheap
  unfold Heap.applied
  split
  · exact ⟨region, haccess⟩
  · have hwritten := Heap.find?_modify store.heap write.array.id other.array.id fun region ↦
      { region with cells := write.patch.overlay write.start region.cells }
    rw [hfind, Option.map_some] at hwritten
    exact ⟨_, Heap.access_eq_ok_iff.mpr ⟨hwritten, by split <;> exact hcheck⟩⟩

/-- A write that does not count is made. -/
theorem perform_of_not_counts (haccess : store.accessFor caller write = .ok region)
    (hcounts : store.heap.counts write = false) :
    store.perform caller write = (.ok (), { store with heap := store.heap.applied write }) := by
  unfold Heap.applied
  by_cases hcount : write.count = 0
  · rw [perform_of_empty haccess hcount, if_pos hcount]
  · rw [if_neg hcount]
    refine perform_of_transient haccess hcount fun hpersistent ↦ ?_
    have hcells : store.heap.contents? write.array.id = some region.cells :=
      Heap.contents?_eq_some_iff.mpr
        ⟨region, (Heap.access_eq_ok_iff.mp haccess).1, hpersistent, rfl⟩
    simp [Heap.counts, Heap.isPersistent, hcells, hcount] at hcounts

/-- A write that counts has to be admitted by the transaction. -/
theorem perform_of_counts (haccess : store.accessFor caller write = .ok region)
    (hcounts : store.heap.counts write = true) :
    store.perform caller write =
      match store.transaction.prepareWrite write.array.id write.start write.patch.size
        region.cells with
      | (.error error, transaction) => (.error (.journal error), { store with transaction })
      | (.ok (), transaction) => (.ok (), ⟨store.heap.applied write, transaction⟩) := by
  have hparts : store.heap.isPersistent write.array.id = true ∧ write.count ≠ 0 := by
    simpa [Heap.counts] using hcounts
  obtain ⟨cells, hcells⟩ := Option.isSome_iff_exists.mp hparts.1
  obtain ⟨found, hfound, hpersistent, -⟩ := Heap.contents?_eq_some_iff.mp hcells
  obtain rfl : region = found :=
    Option.some_inj.mp ((Heap.access_eq_ok_iff.mp haccess).1.symm.trans hfound)
  unfold Heap.applied
  rw [if_neg hparts.2]
  exact perform_of_persistent haccess hparts.2 hpersistent

/-- A write that succeeds leaves the heap that it leaves directly. -/
theorem heap_perform (haccess : store.accessFor caller write = .ok region)
    (hok : (store.perform caller write).1 = .ok ()) :
    (store.perform caller write).2.heap = store.heap.applied write := by
  cases hcounts : store.heap.counts write with
  | false => rw [perform_of_not_counts haccess hcounts]
  | true =>
    rw [perform_of_counts haccess hcounts] at hok ⊢
    generalize store.transaction.prepareWrite _ _ _ _ = prepared at hok ⊢
    obtain ⟨_ | _, transaction⟩ := prepared
    · cases hok
    · rfl

end Perform

end Store

namespace TearInjector

variable {injector : TearInjector}

/-- The injector tears a write when it has none left to let through. -/
theorem pass_of_zero (hzero : injector.remaining = some 0) :
    injector.pass = (.error .torn, ⟨none, injector.fired + 1⟩) := by
  unfold pass
  rw [hzero]

/-- Otherwise it lets the write through and counts it. -/
theorem pass_of_ne_zero (hzero : injector.remaining ≠ some 0) :
    injector.pass =
      (.ok (), { injector with remaining := injector.remaining.map (· - 1) }) := by
  obtain ⟨remaining, fired⟩ := injector
  match remaining, hzero with
  | none, _ => rfl
  | some (writes + 1), _ => rfl
  | some 0, hzero => exact absurd rfl hzero

end TearInjector

namespace Transaction

/-! ### What a transaction affords -/

/-- Whether an open transaction completes after some more writes, to the arrays of a heap: the
injector lets through those that count, and the cells that they touch fit beside those covered
already. -/
@[mk_iff]
structure Affords (transaction : Transaction) (heap : Heap) (writes : List Write) : Prop where
  tear : ∀ count, transaction.tear.remaining = some count → writes.countP heap.counts ≤ count
  room : footprintOf heap.cellCost (transaction.journal.covered ∪ heap.touched writes) ≤
    transaction.journal.capacity

section Affords

variable {transaction : Transaction} {heap : Heap} {write : Write} {rest : List Write}

theorem affords_cons_of_not_counts (hcounts : heap.counts write = false) :
    transaction.Affords heap (write :: rest) ↔ transaction.Affords heap rest := by
  rw [affords_iff, affords_iff, Heap.touched_cons_of_not_counts hcounts,
    List.countP_cons_of_neg (by simp [hcounts])]

/-- A write that is torn is one too many for the injector. -/
theorem not_affords_of_torn (hcounts : heap.counts write = true)
    (hzero : transaction.tear.remaining = some 0) :
    ¬ transaction.Affords heap (write :: rest) := by
  intro haffords
  have htear := haffords.tear 0 hzero
  rw [List.countP_cons_of_pos hcounts] at htear
  omega

/-- A write whose cells do not fit is one too many for the commit buffer. -/
theorem not_affords_of_full (hcounts : heap.counts write = true)
    (hused : transaction.journal.used = footprintOf heap.cellCost transaction.journal.covered)
    (hle : transaction.journal.used ≤ transaction.journal.capacity)
    (hfull : transaction.journal.remaining <
      footprintOf heap.cellCost (write.cells \ transaction.journal.covered)) :
    ¬ transaction.Affords heap (write :: rest) := by
  intro haffords
  have hroom := haffords.room
  rw [Heap.touched_cons_of_counts hcounts] at hroom
  have hsubset : write.cells ∪ transaction.journal.covered ⊆
      transaction.journal.covered ∪ (write.cells ∪ heap.touched rest) := by
    intro cell
    simp only [Finset.mem_union]
    tauto
  have hmore := (footprintOf_mono heap.cellCost hsubset).trans hroom
  rw [footprintOf_union, ← hused] at hmore
  rw [Journal.remaining] at hfull
  omega

/-- Once a write that counts is recorded and made, what is afforded is what was afforded with it. -/
theorem affords_made_iff (hcounts : heap.counts write = true)
    (hzero : transaction.tear.remaining ≠ some 0) {journal : Journal}
    (hcovered : journal.covered = write.cells ∪ transaction.journal.covered)
    (hcapacity : journal.capacity = transaction.journal.capacity) :
    Affords { transaction with
      tear := { transaction.tear with remaining := transaction.tear.remaining.map (· - 1) }
      journal } heap rest ↔ transaction.Affords heap (write :: rest) := by
  rw [affords_iff, affords_iff, Heap.touched_cons_of_counts hcounts,
    List.countP_cons_of_pos hcounts, hcovered, hcapacity, Finset.union_comm write.cells,
    Finset.union_assoc]
  apply and_congr_left
  intro hroom
  constructor
  · intro htear count hcount
    have hpositive : count ≠ 0 := by
      rintro rfl
      exact hzero hcount
    have hless := htear (count - 1) (by rw [hcount]; rfl)
    omega
  · intro htear count hcount
    obtain ⟨previous, hprevious, rfl⟩ := Option.map_eq_some_iff.mp hcount
    have hless := htear previous hprevious
    omega

end Affords

end Transaction

namespace Store

/-! ### Some writes -/

section PerformAll

variable {store : Store} {caller : ContextId}

/-- Writes made one after another leave, if all succeed, the heap that they leave directly. -/
theorem heap_performAll {writes : List Write}
    (hallows : ∀ write ∈ writes, store.Allows caller write)
    (hok : (performAll caller writes store).1 = .ok ()) :
    (performAll caller writes store).2.heap = writes.foldl Heap.applied store.heap := by
  induction writes generalizing store with
  | nil => rfl
  | cons write rest ih =>
    rw [List.forall_mem_cons] at hallows
    obtain ⟨region, haccess⟩ := hallows.1
    have hheap := heap_perform haccess
    unfold performAll at hok ⊢
    generalize store.perform caller write = outcome at hok hheap ⊢
    obtain ⟨_ | _, after⟩ := outcome
    · cases hok
    · have hafter : after.heap = store.heap.applied write := hheap rfl
      rw [List.foldl_cons, ← hafter]
      exact ih (fun other hother ↦ (hallows.2 other hother).applied hafter after.transaction) hok

/-- Writes made with no transaction and no tear to come all succeed. -/
theorem performAll_direct {writes : List Write} (hidle : store.transaction.isActive = false)
    (hdisarmed : store.transaction.tear.remaining = none)
    (hallows : ∀ write ∈ writes, store.Allows caller write) :
    (performAll caller writes store).1 = .ok () := by
  induction writes generalizing store with
  | nil => rfl
  | cons write rest ih =>
    rw [List.forall_mem_cons] at hallows
    obtain ⟨region, haccess⟩ := hallows.1
    have hperform : store.perform caller write =
        (.ok (), { store with heap := store.heap.applied write }) := by
      cases hcounts : store.heap.counts write with
      | false => exact perform_of_not_counts haccess hcounts
      | true =>
        have hpass : store.transaction.tear.pass = (.ok (), store.transaction.tear) := by
          unfold TearInjector.pass
          rw [hdisarmed]
        rw [perform_of_counts haccess hcounts, Transaction.prepareWrite, hpass]
        dsimp only
        rw [if_neg (by rw [hidle]; decide)]
    unfold performAll
    rw [hperform]
    exact ih hidle hdisarmed fun other hother ↦
      (hallows.2 other hother).applied rfl store.transaction

/-- What becomes of a write that counts, inside a transaction: it is torn, or it is refused for want
of room, or its range is recorded and it is made. -/
inductive CountedEffect (store : Store) (write : Write) :
    Except MemoryError Unit × Store → Prop where
  | torn (hzero : store.transaction.tear.remaining = some 0) (error : MemoryError)
      (after : Store) : CountedEffect store write (.error error, after)
  | refused (hfull : store.transaction.journal.remaining <
        footprintOf store.heap.cellCost (write.cells \ store.transaction.journal.covered))
      (error : MemoryError) (after : Store) : CountedEffect store write (.error error, after)
  | made (hzero : store.transaction.tear.remaining ≠ some 0) {journal : Journal}
      (hcovered : journal.covered = write.cells ∪ store.transaction.journal.covered)
      (hused : journal.used = store.transaction.journal.used +
        footprintOf store.heap.cellCost (write.cells \ store.transaction.journal.covered))
      (hcapacity : journal.capacity = store.transaction.journal.capacity) :
    CountedEffect store write (.ok (), ⟨store.heap.applied write, { store.transaction with
      tear := { store.transaction.tear with
        remaining := store.transaction.tear.remaining.map (· - 1) }
      journal }⟩)

theorem perform_counted (hstore : store.WellFormed) (hactive : store.transaction.isActive = true)
    {write : Write} (hallows : store.Allows caller write)
    (hcounts : store.heap.counts write = true) :
    CountedEffect store write (store.perform caller write) := by
  obtain ⟨region, haccess⟩ := hallows
  obtain ⟨hfind, hfits⟩ := fits_of_access hstore.heap haccess
  have hadmits := hstore.admits hfind hfits
  have hneeded : footprintOf store.heap.cellCost
      (write.cells \ store.transaction.journal.covered) =
      store.transaction.journal.needed write.array.id write.start write.patch.size
        region.cells := by
    apply footprintOf_eq_card
    rintro ⟨id, position⟩ hcell
    rw [(mem_cellRange.mp (Finset.mem_sdiff.mp hcell).1).1]
    exact hstore.heap.cellCost_eq hfind
  rw [perform_of_counts haccess hcounts, Transaction.prepareWrite]
  by_cases hzero : store.transaction.tear.remaining = some 0
  · rw [TearInjector.pass_of_zero hzero]
    exact .torn hzero _ _
  · rw [TearInjector.pass_of_ne_zero hzero]
    dsimp only
    rw [if_pos hactive]
    rcases Nat.lt_or_ge store.transaction.journal.remaining
      (store.transaction.journal.needed write.array.id write.start write.patch.size region.cells)
      with hfull | hroom
    · rw [Journal.record_eq_error hstore.journal hadmits hfull]
      exact .refused (hneeded ▸ hfull) _ _
    · obtain ⟨journal, hjournal, hrecorded⟩ :=
        Journal.record_eq_ok hstore.journal hadmits hroom
      rw [hjournal]
      exact .made hzero (hrecorded.covered_eq hadmits.inside) (hneeded ▸ hrecorded.used)
        hrecorded.capacity

/-- Inside a transaction, writes all succeed just when the transaction affords them. -/
theorem performAll_eq_ok_iff {origin : Heap} {writes : List Write} (hstore : store.WellFormed)
    (hactive : store.transaction.isActive = true) (houtline : store.heap.outline = origin.outline)
    (hused : store.transaction.journal.used =
      footprintOf origin.cellCost store.transaction.journal.covered)
    (hallows : ∀ write ∈ writes, store.Allows caller write) :
    (performAll caller writes store).1 = .ok () ↔ store.transaction.Affords origin writes := by
  have hroom := hstore.journal.used_le
  induction writes generalizing store with
  | nil =>
    refine iff_of_true rfl ⟨fun count _ ↦ Nat.zero_le count, ?_⟩
    have htouched : origin.touched [] = ∅ := rfl
    rw [htouched, Finset.union_empty, ← hused]
    exact hroom
  | cons write rest ih =>
    rw [List.forall_mem_cons] at hallows
    have hsame : store.heap.counts write = origin.counts write := by
      unfold Heap.counts
      rw [Heap.isPersistent_eq_of_outline houtline]
    have hcost : store.heap.cellCost = origin.cellCost :=
      funext (Heap.cellCost_eq_of_outline houtline)
    have hafter := hstore.perform caller write
    have hrest : ∀ transaction, ∀ other ∈ rest,
        Allows ⟨store.heap.applied write, transaction⟩ caller other := by
      intro transaction other hother
      exact (hallows.2 other hother).applied rfl transaction
    have happlied := (store.heap.outline_applied write).trans houtline
    unfold performAll
    cases hcounts : origin.counts write with
    | false =>
      obtain ⟨region, haccess⟩ := hallows.1
      rw [perform_of_not_counts haccess (hsame.trans hcounts)] at hafter ⊢
      rw [Transaction.affords_cons_of_not_counts hcounts]
      exact ih hafter hactive happlied hused (hrest store.transaction) hroom
    | true =>
      have heffect := perform_counted hstore hactive hallows.1 (hsame.trans hcounts)
      generalize store.perform caller write = outcome at heffect hafter
      cases heffect with
      | torn hzero error after =>
        exact iff_of_false nofun (Transaction.not_affords_of_torn hcounts hzero)
      | refused hfull error after =>
        rw [hcost] at hfull
        exact iff_of_false nofun (Transaction.not_affords_of_full hcounts hused hroom hfull)
      | @made hzero journal hcovered hjournalUsed hcapacity =>
        rw [← Transaction.affords_made_iff hcounts hzero hcovered hcapacity]
        refine ih hafter hactive happlied ?_ (hrest _) hafter.journal.used_le
        rw [hjournalUsed, hcovered, footprintOf_union, ← hused, hcost, Nat.add_comm]

/-- Writes made in a transaction that has just begun all succeed just when it completes. -/
theorem performAll_begin_eq_ok_iff {writes : List Write} (hstore : store.WellFormed)
    (hidle : store.transaction.isActive = false)
    (hallows : ∀ write ∈ writes, store.Allows caller write) :
    (performAll caller writes store.begin.2).1 = .ok () ↔ store.Completes writes := by
  have hretains := retains_begin hstore hidle
  rw [begin_of_idle hidle] at hretains ⊢
  have hused : 0 = footprintOf store.heap.cellCost ∅ := Finset.sum_empty.symm
  rw [performAll_eq_ok_iff hretains.wellFormed hretains.isActive
    (rfl : store.heap.outline = store.heap.outline) hused hallows]
  have hcovered : store.transaction.journal.clear.covered = ∅ := rfl
  rw [Transaction.affords_iff, hcovered, Finset.empty_union]
  constructor
  · rintro ⟨htear, hroom⟩
    exact ⟨htear, hroom⟩
  · rintro ⟨htear, hroom⟩
    exact ⟨htear, hroom⟩

/-- Writes made inside a transaction keep what it retains, whether they succeed or fail. -/
theorem Retains.performAll {origin : Heap} (hretains : store.Retains origin) (caller : ContextId)
    (writes : List Write) : (performAll caller writes store).2.Retains origin := by
  induction writes generalizing store with
  | nil => exact hretains
  | cons write rest ih =>
    have hafter := hretains.perform caller write
    unfold Store.performAll
    generalize store.perform caller write = outcome at hafter ⊢
    obtain ⟨_ | _, after⟩ := outcome
    · exact hafter
    · exact ih hafter

end PerformAll

end Store

end SmartCard
