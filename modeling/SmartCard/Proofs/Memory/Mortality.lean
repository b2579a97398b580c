import SmartCard.Proofs.Memory.Accounting

/-!
# How arrays get their numbers, and how they die

Nothing but an allocation takes a number. It takes the next one if it returns an array, skips it if
it crashes, and takes none if it is refused (`Custody.Numbering`). So along a run the numbers of the
arrays returned increase, and they just count up unless something crashes
(`Custody.WellFormed.numbered`).

A live array dies in one of four ways: it is released, all arrays of its owner are, the transaction
is aborted that noted it, or a journal that notes it is put back (`Custody.frees`,
`Custody.WellFormed.isLive_next`). An open transaction notes just what has been allocated since it
was opened (`Custody.WellFormed.noted`).
-/

set_option autoImplicit false
set_option relaxedAutoImplicit false

namespace SmartCard

namespace Ending

variable {ε α : Type}

/-- What code ends with if it neither fails nor crashes. -/
def success? : Ending (Except ε α) → Option α
  | .value (.ok result) => some result
  | _ => none

/-- The error that code ends with if it fails. -/
def error? : Ending (Except ε α) → Option ε
  | .value (.error error) => some error
  | _ => none

def isCrash : Ending α → Bool
  | .crash _ => true
  | _ => false

end Ending

/-! ### Liveness -/

namespace Heap

variable {heap : Heap} {id : Nat} {region : Region}

theorem isLive_of_find? (hfind : heap.find? id = some region) : heap.isLive id = true := by
  rw [isLive, hfind]
  rfl

/-- A change of what arrays are frees none. -/
theorem isLive_mapRegions (heap : Heap) (change : Nat → Region → Region) (id : Nat) :
    (heap.mapRegions change).isLive id = heap.isLive id := by
  rw [isLive, find?_mapRegions, Option.isSome_map]
  rfl

/-- Freeing frees what it is told to. -/
theorem isLive_discard (hnodup : (heap.regions.map Prod.fst).Nodup)
    (hfind : heap.find? id = some region) (doomed : Nat → Region → Bool) :
    (heap.discard doomed).isLive id = !doomed id region := by
  rw [isLive, find?_discard hnodup, hfind, Option.filter_some]
  cases doomed id region <;> rfl

/-- Undoing a transaction frees the arrays that its journal notes. -/
theorem isLive_rollBack (hnodup : (heap.regions.map Prod.fst).Nodup)
    (hfind : heap.find? id = some region) (journal : Journal) :
    (heap.rollBack journal).isLive id = !journal.allocations.contains id := by
  have hrestored : ((heap.restored journal.entries).regions.map Prod.fst).Nodup := by
    rw [restored_eq, mapRegions, List.map_map]
    exact hnodup
  have hlater : ∃ later, (heap.restored journal.entries).find? id = some later := by
    rw [find?_restored, hfind]
    exact ⟨_, rfl⟩
  obtain ⟨later, hlater⟩ := hlater
  rw [rollBack_eq]
  exact isLive_discard hrestored hlater fun other _ ↦ journal.allocations.contains other

end Heap

/-! ### What an operation frees -/

namespace Store

/-- Whether an operation frees a live array: by its number, by its owner, or because it undoes the
transaction that has allocated the array. -/
def frees (store : Store) (id : Nat) (region : Region) : Operation → Bool
  | .release released => id == released
  | .releaseOwnedBy owner => region.owner == owner
  | .abort =>
    store.transaction.isActive && store.transaction.journal.allocations.contains id
  | _ => false

/-- A live array is dead after an operation that frees it, and after no other. -/
theorem WellFormed.isLive_next {store : Store} (hstore : store.WellFormed) {id : Nat}
    {region : Region} (hfind : store.heap.find? id = some region) (operation : Operation) :
    (store.next operation).heap.isLive id = !store.frees id region operation := by
  have hlive := Heap.isLive_of_find? hfind
  have hnodup := hstore.heap.nodup
  cases operation with
  | allocate owner lifetime kind length =>
    rw [Store.next]
    rcases store.allocate_cases owner lifetime kind length with
      ⟨error, h⟩ | ⟨text, h⟩ | h
    · rw [h]
      exact hlive
    · rw [h]
      exact hlive
    · have hold : id ≠ store.heap.nextId :=
        Nat.ne_of_lt (hstore.heap.lt_nextId hfind)
      rw [h]
      dsimp only
      rw [Heap.isLive, Heap.find?_insert, if_neg hold]
      exact hlive
  | release released =>
    rw [Store.next, Heap.release]
    by_cases hreleased : id = released
    · subst hreleased
      rw [if_pos hlive]
      refine (Heap.isLive_discard hnodup hfind _).trans ?_
      rw [frees, beq_self_eq_true, decide_eq_true rfl]
    · rw [frees, beq_false_of_ne hreleased]
      split
      · refine (Heap.isLive_discard hnodup hfind _).trans ?_
        rw [decide_eq_false hreleased]
      · exact hlive
  | releaseOwnedBy owner => exact Heap.isLive_discard hnodup hfind _
  | grant granted client =>
    rw [Store.next]
    rcases store.heap.grant_cases granted client with ⟨error, h⟩ | ⟨change, h, -⟩
    · rw [h]
      exact hlive
    · rw [h]
      exact (Heap.isLive_mapRegions _ change id).trans hlive
  | write caller write =>
    have heffect := Store.perform_effect hstore.heap caller write
    change (store.perform caller write).2.heap.isLive id = true
    generalize (store.perform caller write).2 = after at heffect
    cases heffect with
    | nothing _ => exact hlive
    | transient _ _ _ => exact (Heap.isLive_mapRegions _ _ id).trans hlive
    | direct _ _ _ _ => exact (Heap.isLive_mapRegions _ _ id).trans hlive
    | recorded _ _ _ _ _ _ _ => exact (Heap.isLive_mapRegions _ _ id).trans hlive
  | clearOnDeselect _ | clearOnReset => exact (Heap.isLive_mapRegions _ _ id).trans hlive
  | begin => exact (congrArg (Heap.isLive · id) store.heap_begin).trans hlive
  | commit => exact (congrArg (Heap.isLive · id) store.heap_commit).trans hlive
  | abort =>
    rw [Store.next, frees]
    cases hactive : store.transaction.isActive with
    | false =>
      rw [Store.abort_of_idle hactive]
      exact hlive
    | true =>
      rw [Store.abort_of_active hactive]
      exact Heap.isLive_rollBack hnodup hfind _
  | arm _ | disarm => exact hlive

end Store

namespace Custody

variable {custody : Custody} {quotas : PerLifetime}

/-! ### Numbers -/

/-- What an allocation ends with, if a step is one. -/
def allocation? (custody : Custody) : Step → Option (Ending (Except MemoryError ArrayRef))
  | .operate (.allocate owner lifetime kind length) =>
    some (custody.store.allocate owner lifetime kind length).1
  | _ => none

/-- What the allocations among some steps end with, in order. -/
def allocations (custody : Custody) : List Step → List (Ending (Except MemoryError ArrayRef))
  | [] => []
  | step :: rest => (custody.allocation? step).toList ++ (custody.next step).allocations rest

/-- The numbers of the arrays that the allocations among some steps return, in order. -/
def numbers (custody : Custody) (steps : List Step) : List Nat :=
  (custody.allocations steps).filterMap fun ending ↦ ending.success?.map (·.id)

/-- How many of the allocations among some steps crash. -/
def crashes (custody : Custody) (steps : List Step) : Nat :=
  (custody.allocations steps).countP Ending.isCrash

/-- The numbers returned by one step and by those after it. -/
theorem numbers_cons (custody : Custody) (step : Step) (rest : List Step) :
    custody.numbers (step :: rest) =
      custody.numbers [step] ++ (custody.next step).numbers rest := by
  rw [numbers, numbers, numbers, ← List.filterMap_append]
  congr 1
  exact congrArg (· ++ _) (List.append_nil _).symm

/-- What a step does to the numbers. -/
inductive Numbering (custody : Custody) (step : Step) : Prop where
  | other (hother : custody.allocation? step = none)
    (hnextId : (custody.next step).store.heap.nextId = custody.store.heap.nextId)
  | refused {error : MemoryError}
    (hrefused : custody.allocation? step = some (.value (.error error)))
    (hsame : custody.next step = custody)
  | crashed {text : Option String} (hcrashed : custody.allocation? step = some (.crash text))
    (hnextId : (custody.next step).store.heap.nextId = custody.store.heap.nextId + 1)
  | returned {array : ArrayRef} (hreturned : custody.allocation? step = some (.value (.ok array)))
    (hid : array.id = custody.store.heap.nextId)
    (hnextId : (custody.next step).store.heap.nextId = custody.store.heap.nextId + 1)

/-- Handing a journal out leaves the heap alone. -/
theorem heap_handOut (custody : Custody) :
    (custody.next .handOut).store.heap = custody.store.heap := by
  rw [next, Transaction.abort]
  cases custody.store.transaction.isActive <;> rfl

theorem nextId_putBack (custody : Custody) (index : Nat) :
    (custody.next (.putBack index)).store.heap.nextId = custody.store.heap.nextId := by
  rw [next]
  cases custody.journals[index]? with
  | none => rfl
  | some journal => exact custody.store.heap.nextId_rollBack journal

/-- Every step does one of these. -/
theorem WellFormed.numbering (hcustody : custody.WellFormed quotas) (step : Step) :
    custody.Numbering step := by
  cases step with
  | operate operation =>
    cases operation with
    | allocate owner lifetime kind length =>
      rcases custody.store.allocate_cases owner lifetime kind length with
        ⟨error, h⟩ | ⟨text, h⟩ | h
      · exact .refused (by rw [allocation?, h]) (by rw [Custody.next, Store.next, h])
      · exact .crashed (by rw [allocation?, h]) (by rw [Custody.next, Store.next, h])
      · refine .returned (by rw [allocation?, h]) rfl ?_
        rw [Custody.next, Store.next, h]
        rfl
    | _ => exact .other rfl (hcustody.store.nextId_next rfl)
  | handOut => exact .other rfl (congrArg Heap.nextId custody.heap_handOut)
  | putBack index => exact .other rfl (custody.nextId_putBack index)

/-- Whether numbers are given out in order, between a first one and one that is next, apart from
those that crashes skip. -/
structure Numbered (first last : Nat) (numbers : List Nat) (crashes : Nat) : Prop where
  increasing : numbers.Pairwise (· < ·)
  bounds : ∀ id ∈ numbers, first ≤ id ∧ id < last
  last_eq : last = first + numbers.length + crashes
  consecutive : crashes = 0 → numbers = List.range' first numbers.length

namespace Numbered

variable {first last crashes : Nat} {numbers : List Nat}

theorem nil (first : Nat) : Numbered first first [] 0 :=
  ⟨.nil, fun _ hid ↦ absurd hid List.not_mem_nil, rfl, fun _ ↦ rfl⟩

theorem skip (hnumbered : Numbered (first + 1) last numbers crashes) :
    Numbered first last numbers (crashes + 1) where
  increasing := hnumbered.increasing
  bounds := fun id hid ↦ by
    have hbounds := hnumbered.bounds id hid
    omega
  last_eq := by
    have hlast := hnumbered.last_eq
    omega
  consecutive := fun hnone ↦ absurd hnone (Nat.succ_ne_zero crashes)

theorem cons (hnumbered : Numbered (first + 1) last numbers crashes) :
    Numbered first last (first :: numbers) crashes where
  increasing := List.pairwise_cons.mpr
    ⟨fun id hid ↦ (hnumbered.bounds id hid).1, hnumbered.increasing⟩
  bounds := by
    have hlast := hnumbered.last_eq
    refine List.forall_mem_cons.mpr ⟨⟨Nat.le_refl first, by omega⟩, fun id hid ↦ ?_⟩
    have hbounds := hnumbered.bounds id hid
    omega
  last_eq := by
    have hlast := hnumbered.last_eq
    rw [List.length_cons]
    omega
  consecutive := fun hnone ↦ by
    rw [List.length_cons, List.range'_succ, ← hnumbered.consecutive hnone]

end Numbered

/-- Along any steps numbers are given out in order. -/
theorem WellFormed.numbered (hcustody : custody.WellFormed quotas) (steps : List Step) :
    Numbered custody.store.heap.nextId (steps.foldl Custody.next custody).store.heap.nextId
      (custody.numbers steps) (custody.crashes steps) := by
  induction steps generalizing custody with
  | nil => exact .nil _
  | cons step rest ih =>
    have hrest := ih (hcustody.next step).1
    rw [List.foldl_cons, numbers, crashes, allocations]
    cases hcustody.numbering step with
    | other hother hnextId =>
      rw [hother, ← hnextId]
      exact hrest
    | refused hrefused hsame =>
      have hnextId := congrArg (·.store.heap.nextId) hsame
      rw [hrefused, ← hnextId]
      exact hrest
    | crashed hcrashed hnextId =>
      rw [hcrashed, Option.toList_some, List.singleton_append, List.countP_cons_of_pos rfl]
      rw [hnextId] at hrest
      exact hrest.skip
    | @returned array hreturned hid hnextId =>
      rw [hreturned, Option.toList_some, List.singleton_append,
        List.countP_cons_of_neg Bool.false_ne_true, ← hid]
      rw [hnextId, ← hid] at hrest
      exact hrest.cons

/-! ### Deaths -/

/-- Whether a step frees a live array: by its number, by its owner, or by what a journal notes. -/
def frees (custody : Custody) (id : Nat) (region : Region) : Step → Bool
  | .operate (.release released) => id == released
  | .operate (.releaseOwnedBy owner) => region.owner == owner
  | .operate .abort =>
    custody.store.transaction.isActive && custody.store.transaction.journal.allocations.contains id
  | .putBack index => (custody.journals[index]?).any (·.allocations.contains id)
  | _ => false

/-- A live array is dead after a step that frees it, and after no other. -/
theorem WellFormed.isLive_next (hcustody : custody.WellFormed quotas) {id : Nat} {region : Region}
    (hfind : custody.store.heap.find? id = some region) (step : Step) :
    (custody.next step).store.heap.isLive id = !custody.frees id region step := by
  have hlive := Heap.isLive_of_find? hfind
  cases step with
  | operate operation =>
    refine (hcustody.store.isLive_next hfind operation).trans ?_
    cases operation <;> rfl
  | handOut => exact (congrArg (Heap.isLive · id) custody.heap_handOut).trans hlive
  | putBack index =>
    rw [Custody.next, frees]
    cases custody.journals[index]? with
    | none => exact hlive
    | some journal => exact Heap.isLive_rollBack hcustody.store.heap.nodup hfind journal

/-- Whether a step closes the open transaction. -/
def Step.closes : Step → Bool
  | .operate .commit | .operate .abort | .handOut => true
  | _ => false

/-- A step that does not close the open transaction notes what it allocates. -/
theorem WellFormed.noted_next (hcustody : custody.WellFormed quotas)
    (hactive : custody.store.transaction.isActive = true) {step : Step}
    (hopen : step.closes = false) :
    (custody.next step).store.transaction.isActive = true ∧
      (custody.next step).store.transaction.journal.allocations =
        custody.store.transaction.journal.allocations ++ custody.numbers [step] := by
  have hnothing : ∀ allocations : List Nat, allocations = allocations ++ [] :=
    fun allocations ↦ (List.append_nil allocations).symm
  cases step with
  | operate operation =>
    cases operation with
    | allocate owner lifetime kind length =>
      rw [Custody.next, Store.next, numbers, allocations, allocation?]
      rcases custody.store.allocate_cases owner lifetime kind length with
        ⟨error, h⟩ | ⟨text, h⟩ | h
      · rw [h]
        exact ⟨hactive, hnothing _⟩
      · rw [h]
        exact ⟨hactive, hnothing _⟩
      · rw [h]
        dsimp only
        rw [Transaction.noteAllocation, if_pos hactive]
        exact ⟨hactive, rfl⟩
    | release released =>
      rw [Custody.next, Store.next]
      cases custody.store.heap.release released <;> exact ⟨hactive, hnothing _⟩
    | grant granted client =>
      rw [Custody.next, Store.next]
      cases custody.store.heap.grant granted client <;> exact ⟨hactive, hnothing _⟩
    | write caller write =>
      have heffect := Store.perform_effect hcustody.store.heap caller write
      rw [Custody.next, Store.next]
      generalize (custody.store.perform caller write).2 = after at heffect
      cases heffect with
      | nothing _ => exact ⟨hactive, hnothing _⟩
      | transient _ _ _ => exact ⟨hactive, hnothing _⟩
      | direct _ _ _ _ => exact ⟨hactive, hnothing _⟩
      | recorded _ _ hfind hfits _ _ hrecord =>
        have hrecorded := Journal.isRecorded_of_ok hcustody.store.journal
          (hcustody.store.admits hfind hfits) hrecord
        exact ⟨hactive, hrecorded.allocations.trans (hnothing _)⟩
    | begin =>
      rw [Custody.next, Store.next, Store.begin_of_active hactive]
      exact ⟨hactive, hnothing _⟩
    | commit | abort => exact Bool.noConfusion hopen
    | releaseOwnedBy _ | clearOnDeselect _ | clearOnReset | arm _ | disarm =>
      exact ⟨hactive, hnothing _⟩
  | handOut => exact Bool.noConfusion hopen
  | putBack index =>
    rw [Custody.next]
    cases custody.journals[index]? <;> exact ⟨hactive, hnothing _⟩

/-- As long as a transaction is not closed, its journal notes just what is allocated. -/
theorem WellFormed.noted (hcustody : custody.WellFormed quotas)
    (hactive : custody.store.transaction.isActive = true) {steps : List Step}
    (hopen : ∀ step ∈ steps, step.closes = false) :
    (steps.foldl Custody.next custody).store.transaction.isActive = true ∧
      (steps.foldl Custody.next custody).store.transaction.journal.allocations =
        custody.store.transaction.journal.allocations ++ custody.numbers steps := by
  induction steps generalizing custody with
  | nil => exact ⟨hactive, (List.append_nil _).symm⟩
  | cons step rest ih =>
    obtain ⟨hfirst, hrest⟩ := List.forall_mem_cons.mp hopen
    obtain ⟨hstill, hnoted⟩ := hcustody.noted_next hactive hfirst
    obtain ⟨hafter, hlater⟩ := ih (hcustody.next step).1 hstill hrest
    refine ⟨hafter, hlater.trans ?_⟩
    rw [hnoted, List.append_assoc, ← numbers_cons]

end Custody

end SmartCard
