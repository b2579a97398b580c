import SmartCard.Proofs.Memory.Accounting
import SmartCard.Proofs.Memory.Element

/-!
# Requests for arrays

The bytes of a request are the product of its length and the size of an element. In exact
arithmetic a request fits if its bytes and those of the live arrays of its lifetime are within the
quota together (`Heap.HasRoom`). An exact memory grants just the requests that fit and refuses the
others without a trace (`Store.AllocatesExactly`).

What is compared with the rest of the quota is the charge of a request, which is the largest word
where the product is none. The charge of an array that can be laid out is the product, and so is
every charge below the largest word, so there the answer is exact while there are numbers left. A
request that cannot be laid out, or for which no number is left, may come through wrongly, namely if
it fits, or if the largest word is left of the quota (`Heap.LetsThrough`). The code that asked for
it crashes then, and nothing changes in memory but the count of the arrays numbered
(`Custody.allocation_exact_iff`).
-/

set_option autoImplicit false
set_option relaxedAutoImplicit false

namespace SmartCard

/-! ### Exact answers -/

namespace Heap

/-- Whether a request fits: its bytes and those of the live arrays of its lifetime are within the
quota together. -/
def HasRoom (heap : Heap) (quotas : PerLifetime) (lifetime : Lifetime) (kind : ElementKind)
    (length : Nat) : Prop :=
  heap.occupied lifetime + length * kind.elementSize ≤ quotas.get lifetime

/-- Whether the quota lets a request through for which no number is left or that cannot be laid out:
it fits, or the largest word is left. -/
def LetsThrough (heap : Heap) (quotas : PerLifetime) (lifetime : Lifetime) (kind : ElementKind)
    (length : Nat) : Prop :=
  (heap.fault? kind length).isSome = true ∧
    (heap.HasRoom quotas lifetime kind length ∨
      heap.occupied lifetime + (wordCount - 1) ≤ quotas.get lifetime)

/-- Whether a heap has gained a blank array for its owner alone, and nothing else. -/
structure Gains (before after : Heap) (array : ArrayRef) (lifetime : Lifetime)
    (kind : ElementKind) (length : Nat) : Prop where
  dead_before : before.find? array.id = none
  /-- The array has as many cells as its elements take, and all of them are blank. -/
  live_after : ∃ cells,
    after.find? array.id = some ⟨array.owner, lifetime, kind, length, cells, []⟩ ∧
      cells.shape = ⟨kind == .object, length * kind.cellWidth⟩ ∧ cells.IsBlank
  beside : ∀ id, id ≠ array.id → after.find? id = before.find? id
  /-- The count of its lifetime rises by its bytes. -/
  used_eq : ∀ other, after.used.get other =
    before.used.get other + if other = lifetime then length * kind.elementSize else 0

end Heap

/-- That memory answers a request as in exact arithmetic. -/
structure Store.AllocatesExactly (store : Store) (quotas : PerLifetime) (owner : ContextId)
    (lifetime : Lifetime) (kind : ElementKind) (length : Nat) : Prop where
  /-- The request is granted just when it fits. -/
  granted_iff : (∃ array, (store.allocate owner lifetime kind length).1 = .value (.ok array)) ↔
    store.heap.HasRoom quotas lifetime kind length
  /-- What is granted is a new array of the owner. -/
  gains : ∀ array, (store.allocate owner lifetime kind length).1 = .value (.ok array) →
    array.owner = owner ∧
      store.heap.Gains (store.allocate owner lifetime kind length).2.heap array lifetime kind length
  /-- What is not granted is refused for want of memory, and the refusal leaves no trace. -/
  refused : (∀ array, (store.allocate owner lifetime kind length).1 ≠ .value (.ok array)) →
    store.allocate owner lifetime kind length =
      (.value (.error (.outOfMemory lifetime (min (length * kind.elementSize) (wordCount - 1))
        (quotas.get lifetime - store.heap.occupied lifetime))), store)

/-! ### The three outcomes -/

namespace Heap

variable {heap : Heap} {quotas : PerLifetime} {lifetime : Lifetime} {kind : ElementKind}
  {length : Nat}

/-- What is left of a quota is what the live arrays leave. -/
theorem IsAccounted.available_eq (haccounted : heap.IsAccounted quotas) (lifetime : Lifetime) :
    heap.available lifetime = quotas.get lifetime - heap.occupied lifetime := by
  have hsum := haccounted.available_add_used lifetime
  rw [haccounted.used_eq] at hsum
  omega

/-- A number of bytes is left if it is within the quota together with the live arrays. -/
theorem IsAccounted.le_available_iff (haccounted : heap.IsAccounted quotas) (lifetime : Lifetime)
    (bytes : Nat) : bytes ≤ heap.available lifetime ↔
      heap.occupied lifetime + bytes ≤ quotas.get lifetime := by
  have hsum := haccounted.available_add_used lifetime
  rw [haccounted.used_eq] at hsum
  omega

/-- The charge of a request is left if the request fits, or if the largest word is left. -/
theorem IsAccounted.charge_le_available_iff (haccounted : heap.IsAccounted quotas)
    (lifetime : Lifetime) (kind : ElementKind) (length : Nat) :
    charge kind length ≤ heap.available lifetime ↔
      heap.HasRoom quotas lifetime kind length ∨
        heap.occupied lifetime + (wordCount - 1) ≤ quotas.get lifetime := by
  rw [charge, min_le_iff, haccounted.le_available_iff, haccounted.le_available_iff]
  rfl

/-- A blank array put under the next number is gained. -/
theorem WellFormed.gains_fresh (hheap : heap.WellFormed) (owner : ContextId) (lifetime : Lifetime)
    (kind : ElementKind) (length : Nat) :
    heap.Gains (heap.insert (.fresh owner lifetime kind length)) ⟨heap.nextId, owner⟩ lifetime kind
      length where
  dead_before := by
    cases hfind : heap.find? heap.nextId with
    | none => rfl
    | some region => exact absurd (hheap.lt_nextId hfind) (Nat.lt_irrefl _)
  live_after := by
    refine ⟨_, ?_, Cells.shape_zeroed kind length, Cells.isBlank_zeroed kind _⟩
    rw [find?_insert, if_pos rfl]
    rfl
  beside := fun id hid ↦ by
    rw [find?_insert, if_neg hid]
  used_eq := fun other ↦ by
    rw [Heap.insert, PerLifetime.get_ofFn]
    change (if other = lifetime then heap.used.get other + kind.footprint length
      else heap.used.get other) = _
    split
    · rfl
    · rfl

end Heap

namespace Store

variable {store : Store} {quotas : PerLifetime} {lifetime : Lifetime} {kind : ElementKind}
  {length : Nat}

/-- A request whose charge exceeds what is left is refused. -/
theorem allocate_of_exhausted (owner : ContextId)
    (hexhausted : store.heap.available lifetime < Heap.charge kind length) :
    store.allocate owner lifetime kind length =
      (.value (.error (.outOfMemory lifetime (Heap.charge kind length)
        (store.heap.available lifetime))), store) := by
  have hheap : store.heap.allocate owner lifetime kind length =
      (.value (.error (.outOfMemory lifetime (Heap.charge kind length)
        (store.heap.available lifetime))), store.heap) := if_pos hexhausted
  rw [Store.allocate, hheap]

/-- A request that comes through and has a fault crashes. -/
theorem allocate_of_fault (owner : ContextId)
    (hleft : Heap.charge kind length ≤ store.heap.available lifetime) {text : String}
    (hfault : store.heap.fault? kind length = some text) :
    store.allocate owner lifetime kind length = (.crash text,
      { store with heap := { store.heap with nextId := store.heap.nextId + 1 } }) := by
  have hheap : store.heap.allocate owner lifetime kind length =
      (.crash text, { store.heap with nextId := store.heap.nextId + 1 }) := by
    rw [Heap.allocate, if_neg (Nat.not_lt.mpr hleft), hfault]
  rw [Store.allocate, hheap]

/-- A request that comes through and has no fault is granted. -/
theorem allocate_of_room (owner : ContextId)
    (hleft : Heap.charge kind length ≤ store.heap.available lifetime)
    (hfaultless : store.heap.fault? kind length = none) :
    store.allocate owner lifetime kind length = (.value (.ok ⟨store.heap.nextId, owner⟩),
      ⟨store.heap.insert (.fresh owner lifetime kind length),
        store.transaction.noteAllocation store.heap.nextId⟩) := by
  have hheap : store.heap.allocate owner lifetime kind length =
      (.value (.ok ⟨store.heap.nextId, owner⟩),
        store.heap.insert (.fresh owner lifetime kind length)) := by
    rw [Heap.allocate, if_neg (Nat.not_lt.mpr hleft), hfaultless]
  rw [Store.allocate, hheap]

/-- A refusal is exact: the bytes of a request are no fewer than its charge. -/
theorem allocatesExactly_of_exhausted (haccounted : store.heap.IsAccounted quotas)
    (owner : ContextId) (hexhausted : store.heap.available lifetime < Heap.charge kind length) :
    store.AllocatesExactly quotas owner lifetime kind length := by
  have hanswer := allocate_of_exhausted owner hexhausted
  have hfull : ¬ store.heap.HasRoom quotas lifetime kind length := by
    intro hroom
    have hleft := (haccounted.charge_le_available_iff lifetime kind length).mpr (.inl hroom)
    omega
  have hdenied : ∀ array,
      (store.allocate owner lifetime kind length).1 ≠ .value (.ok array) := by
    intro array hgranted
    rw [hanswer] at hgranted
    cases hgranted
  exact {
    granted_iff := iff_of_false (fun ⟨array, hgranted⟩ ↦ hdenied array hgranted) hfull
    gains := fun array hgranted ↦ absurd hgranted (hdenied array)
    refused := fun _ ↦ by
      rw [hanswer, haccounted.available_eq]
      rfl }

/-- A grant is exact: an array that can be laid out is charged its bytes. -/
theorem allocatesExactly_of_room (hheap : store.heap.WellFormed)
    (haccounted : store.heap.IsAccounted quotas) (owner : ContextId)
    (hleft : Heap.charge kind length ≤ store.heap.available lifetime)
    (hfaultless : store.heap.fault? kind length = none) :
    store.AllocatesExactly quotas owner lifetime kind length := by
  have hanswer := allocate_of_room owner hleft hfaultless
  have hroom : store.heap.HasRoom quotas lifetime kind length := by
    rw [Heap.charge_eq_footprint (Heap.fault?_eq_none_iff.mp hfaultless).2,
      haccounted.le_available_iff] at hleft
    exact hleft
  have hgranted : (store.allocate owner lifetime kind length).1 =
      .value (.ok ⟨store.heap.nextId, owner⟩) := by
    rw [hanswer]
  exact {
    granted_iff := iff_of_true ⟨_, hgranted⟩ hroom
    gains := fun array hsame ↦ by
      cases hgranted.symm.trans hsame
      rw [hanswer]
      exact ⟨rfl, hheap.gains_fresh owner lifetime kind length⟩
    refused := fun hdenied ↦ absurd hgranted (hdenied _) }

/-- A crash is not exact: nothing is answered. -/
theorem not_allocatesExactly_of_crash {owner : ContextId} {text : Option String}
    (hcrash : (store.allocate owner lifetime kind length).1 = .crash text) :
    ¬ store.AllocatesExactly quotas owner lifetime kind length := by
  intro hexact
  have hrefused := hexact.refused fun array hgranted ↦ by
    cases hcrash.symm.trans hgranted
  rw [hrefused] at hcrash
  cases hcrash

end Store

/-! ### When the answer is exact -/

namespace Custody

/-- In every state of memory, whatever the quotas, a request of any context, lifetime, kind and
length is answered as in exact arithmetic unless it is let through although no number is left for it
or it cannot be laid out; such a request crashes, and is counted but changes nothing else. -/
theorem allocation_exact_iff (quotas : PerLifetime) (commitCapacity : Nat) (steps : List Step)
    (owner : ContextId) (lifetime : Lifetime) (kind : ElementKind) (length : Nat) :
    let store := (run quotas commitCapacity steps).store
    (store.AllocatesExactly quotas owner lifetime kind length ↔
      ¬ store.heap.LetsThrough quotas lifetime kind length) ∧
    (store.heap.LetsThrough quotas lifetime kind length →
      ∃ text, store.heap.fault? kind length = some text ∧
        store.allocate owner lifetime kind length = (.crash text,
          { store with heap := { store.heap with nextId := store.heap.nextId + 1 } })) := by
  intro store
  have hcustody := wellFormed_run quotas commitCapacity steps
  have hheap : store.heap.WellFormed := hcustody.store.heap
  have haccounted : store.heap.IsAccounted quotas := hheap.isAccounted hcustody.within
  have hleft := haccounted.charge_le_available_iff lifetime kind length
  -- A refusal does not ask whether the request has a fault, so the quota is decided first.
  rcases Nat.lt_or_ge (store.heap.available lifetime) (Heap.charge kind length)
    with hexhausted | hroom
  · have hkept : ¬ store.heap.LetsThrough quotas lifetime kind length := fun hthrough ↦
      Nat.not_le.mpr hexhausted (hleft.mpr hthrough.2)
    exact ⟨iff_of_true (Store.allocatesExactly_of_exhausted haccounted owner hexhausted) hkept,
      fun hthrough ↦ absurd hthrough hkept⟩
  cases hfault : store.heap.fault? kind length with
  | none =>
    have hkept : ¬ store.heap.LetsThrough quotas lifetime kind length := by
      intro hthrough
      rw [Heap.LetsThrough, hfault] at hthrough
      exact Bool.noConfusion hthrough.1
    exact ⟨iff_of_true (Store.allocatesExactly_of_room hheap haccounted owner hroom hfault) hkept,
      fun hthrough ↦ absurd hthrough hkept⟩
  | some text =>
    have hcrash := Store.allocate_of_fault owner hroom hfault
    have hthrough : store.heap.LetsThrough quotas lifetime kind length :=
      ⟨by rw [hfault]; rfl, hleft.mp hroom⟩
    have hinexact : ¬ store.AllocatesExactly quotas owner lifetime kind length :=
      Store.not_allocatesExactly_of_crash (congrArg Prod.fst hcrash)
    exact ⟨iff_of_false hinexact (not_not.mpr hthrough), fun _ ↦ ⟨text, rfl, hcrash⟩⟩

/-- While the largest word is left of the quota, a request for 2^63 numbers does not fit and one for
2^63 bytes does. The one is not refused and the other not granted: both crash. -/
theorem boundless_requests_crash :
    let quotas : PerLifetime := ⟨wordCount - 1, 0, 0⟩
    let store := (run quotas 0 []).store
    let card : ContextId := ⟨1⟩
    (¬ store.heap.HasRoom quotas .persistent .short blockLimit ∧
      (store.allocate card .persistent .short blockLimit).1 =
        .crash (some "attempt to multiply with overflow") ∧
      ¬ store.AllocatesExactly quotas card .persistent .short blockLimit) ∧
    store.heap.HasRoom quotas .persistent .byte blockLimit ∧
      (store.allocate card .persistent .byte blockLimit).1 =
        .crash (some "capacity overflow") ∧
      ¬ store.AllocatesExactly quotas card .persistent .byte blockLimit := by
  intro quotas store card
  have hshorts : (store.allocate card .persistent .short blockLimit).1 =
      .crash (some "attempt to multiply with overflow") := by
    decide +kernel
  have hbytes : (store.allocate card .persistent .byte blockLimit).1 =
      .crash (some "capacity overflow") := by
    decide +kernel
  have hoccupied : store.heap.occupied .persistent = 0 := rfl
  refine ⟨⟨?_, hshorts, Store.not_allocatesExactly_of_crash hshorts⟩, ?_, hbytes,
    Store.not_allocatesExactly_of_crash hbytes⟩
  · rw [Heap.HasRoom, hoccupied]
    decide
  · rw [Heap.HasRoom, hoccupied]
    decide

end Custody

end SmartCard
