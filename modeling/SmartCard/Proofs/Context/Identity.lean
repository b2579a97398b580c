import SmartCard.Proofs.Context.Table

/-!
# Contexts keep their numbers to themselves

Whatever is done to a table of contexts, the contexts created have consecutive numbers from 1 on
(`ContextTable.exists_created_eq`). So no number is given out twice, removed contexts included, and
none is the card's own. When the numbers are used up, no context is created any more. What is found
among the exports of a context that has been removed was offered after that
(`ContextTable.offered_of_mem`). `ContextTable.keepsIdentity` puts this together.
-/

set_option autoImplicit false
set_option relaxedAutoImplicit false

namespace SmartCard.ContextTable

/-- What can be done to a table of contexts. -/
inductive Operation where
  | create
  | bind (context : ContextId) (aid : Aid)
  | remove (context : ContextId)
  | offer (server : ContextId) (parameter : UInt8) (array : ArrayRef) (client : Option Aid)
  | lookupExport (server : ContextId) (parameter : UInt8) (client : Option Aid)

/-- The table after an operation. -/
def next (table : ContextTable) : Operation → ContextTable
  | .create => table.create.elim table Prod.snd
  | .bind context aid => table.bind context aid
  | .remove context => table.remove context
  | .offer server parameter array client => table.offer server parameter array client
  | .lookupExport _ _ _ => table

/-- The context that an operation creates. -/
def creates? (table : ContextTable) : Operation → Option ContextId
  | .create => table.create.map Prod.fst
  | _ => none

/-- The contexts that some operations create, in order. -/
def created (table : ContextTable) : List Operation → List ContextId
  | [] => []
  | operation :: rest => (table.creates? operation).toList ++ (table.next operation).created rest

/-- The contexts from one number up to another. -/
def numbered (first stop : Nat) : List ContextId :=
  (List.range' first (stop - first)).map ContextId.mk

theorem numbered_self (number : Nat) : numbered number number = [] := by
  rw [numbered, Nat.sub_self]
  rfl

theorem numbered_succ (number : Nat) : numbered number (number + 1) = [⟨number⟩] := by
  rw [numbered, Nat.add_sub_cancel_left]
  rfl

theorem numbered_append {first middle stop : Nat} (hfirst : first ≤ middle)
    (hmiddle : middle ≤ stop) : numbered first middle ++ numbered middle stop =
      numbered first stop := by
  have hstart : first + (middle - first) = middle := Nat.add_sub_cancel' hfirst
  have hlength : (middle - first) + (stop - middle) = stop - first := by omega
  have hrange := @List.range'_append_1 first (middle - first) (stop - middle)
  rw [hstart, hlength] at hrange
  unfold numbered
  rw [← List.map_append, hrange]

theorem length_numbered (first stop : Nat) : (numbered first stop).length = stop - first := by
  rw [numbered, List.length_map, List.length_range']

theorem bounds_of_mem_numbered {first stop : Nat} {context : ContextId}
    (hmem : context ∈ numbered first stop) : first ≤ context.number ∧ context.number < stop := by
  obtain ⟨number, hnumber, rfl⟩ := List.mem_map.mp hmem
  obtain ⟨hfirst, hstop⟩ := List.mem_range'_1.mp hnumber
  exact ⟨hfirst, show number < stop by omega⟩

/-- No context stands twice. -/
theorem nodup_numbered (first stop : Nat) : (numbered first stop).Nodup :=
  List.Nodup.map (fun _ _ hsame ↦ congrArg ContextId.number hsame) (List.nodup_range' _)

section Step

variable {table : ContextTable}

theorem create_eq_none_iff : table.create = none ↔ idLimit ≤ table.nextId := by
  unfold create
  split
  · exact iff_of_false (Option.some_ne_none _) (Nat.not_le_of_lt ‹_›)
  · exact iff_of_true rfl (Nat.le_of_not_lt ‹_›)

/-- A creation changes nothing or adds the next context. -/
theorem next_create_cases (table : ContextTable) :
    table.next .create = table ∨ table.next .create = { table with
      contexts := (⟨table.nextId⟩, none) :: table.contexts
      nextId := table.nextId + 1 } := by
  unfold next create
  by_cases hroom : table.nextId < idLimit
  · rw [if_pos hroom]
    exact .inr rfl
  · rw [if_neg hroom]
    exact .inl rfl

/-- An operation other than a creation gives out no number. -/
theorem nextId_next {operation : Operation} (hother : operation ≠ .create) :
    (table.next operation).nextId = table.nextId := by
  cases operation with
  | create => exact absurd rfl hother
  | remove context => exact table.nextId_remove context
  | bind | offer | lookupExport => rfl

/-- An operation gives out the next number or none, and no number from the limit on. -/
theorem creates?_eq (table : ContextTable) (operation : Operation) :
    (table.creates? operation).toList = numbered table.nextId (table.next operation).nextId ∧
      table.nextId ≤ (table.next operation).nextId ∧
      (table.nextId ≤ idLimit → (table.next operation).nextId ≤ idLimit) := by
  by_cases hcreate : operation = .create
  · subst hcreate
    unfold creates? next create
    by_cases hroom : table.nextId < idLimit
    · rw [if_pos hroom]
      exact ⟨(numbered_succ _).symm, Nat.le_succ _, fun _ ↦ hroom⟩
    · rw [if_neg hroom]
      exact ⟨(numbered_self _).symm, Nat.le_refl _, id⟩
  · have hnone : table.creates? operation = none := by
      cases operation with
      | create => exact absurd rfl hcreate
      | _ => rfl
    rw [hnone, nextId_next hcreate, numbered_self]
    exact ⟨rfl, Nat.le_refl _, id⟩

end Step

section Run

variable {table : ContextTable}

/-- The contexts created have consecutive numbers. -/
theorem created_eq (table : ContextTable) (operations : List Operation) :
    table.created operations = numbered table.nextId (operations.foldl next table).nextId ∧
      table.nextId ≤ (operations.foldl next table).nextId ∧
      (table.nextId ≤ idLimit → (operations.foldl next table).nextId ≤ idLimit) := by
  induction operations generalizing table with
  | nil => exact ⟨(numbered_self _).symm, Nat.le_refl _, id⟩
  | cons operation rest ih =>
    obtain ⟨hfirst, hless, hlimit⟩ := table.creates?_eq operation
    obtain ⟨hrest, hmore, hbound⟩ := ih (table.next operation)
    rw [List.foldl_cons, created, hfirst, hrest, numbered_append hless hmore]
    exact ⟨rfl, Nat.le_trans hless hmore, fun h ↦ hbound (hlimit h)⟩

/-- Once the numbers are used up, no context is created any more. -/
theorem create_foldl_eq_none (hnone : table.create = none) (operations : List Operation) :
    (operations.foldl next table).create = none := by
  rw [create_eq_none_iff] at hnone ⊢
  exact Nat.le_trans hnone (table.created_eq operations).2.1

/-- The card's own context cannot be removed. -/
theorem system_mem_foldl (hsystem : ContextId.system ∈ table.contexts.map Prod.fst)
    (operations : List Operation) :
    ContextId.system ∈ (operations.foldl next table).contexts.map Prod.fst := by
  induction operations generalizing table with
  | nil => exact hsystem
  | cons operation rest ih =>
    refine ih ?_
    cases operation with
    | create =>
      rcases table.next_create_cases with hsame | hafter
      · exact hsame.symm ▸ hsystem
      · rw [hafter]
        exact List.mem_cons_of_mem _ hsystem
    | bind context aid => exact table.map_fst_bind context aid ▸ hsystem
    | remove context =>
      change _ ∈ (table.remove context).contexts.map Prod.fst
      by_cases hcard : context = .system
      · subst hcard
        exact hsystem
      · rw [table.remove_of_ne_system hcard]
        obtain ⟨entry, hentry, hsame⟩ := List.mem_map.mp hsystem
        have hkept : entry.1 ≠ context := fun hother ↦ hcard (hother.symm.trans hsame)
        exact List.mem_map.mpr ⟨entry, List.mem_filter.mpr ⟨hentry, decide_eq_true hkept⟩, hsame⟩
    | offer | lookupExport => exact hsystem

/-- What is among the exports was there before or has been offered since. -/
theorem offered_of_mem {server : ContextId} {parameter : UInt8} {array : ArrayRef}
    {client : Option Aid} {operations : List Operation}
    (hmem : ((server, parameter), ⟨array, client⟩) ∈ (operations.foldl next table).exports) :
    ((server, parameter), ⟨array, client⟩) ∈ table.exports ∨
      .offer server parameter array client ∈ operations := by
  induction operations generalizing table with
  | nil => exact .inl hmem
  | cons operation rest ih =>
    rcases ih hmem with hbefore | hlater
    · cases operation with
      | create =>
        rcases table.next_create_cases with hsame | hafter
        · exact .inl (hsame ▸ hbefore)
        · rw [hafter] at hbefore
          exact .inl hbefore
      | bind | lookupExport => exact .inl hbefore
      | remove context =>
        change _ ∈ (table.remove context).exports at hbefore
        by_cases hcard : context = .system
        · subst hcard
          exact .inl hbefore
        · rw [table.remove_of_ne_system hcard] at hbefore
          exact .inl (List.mem_filter.mp hbefore).1
      | offer other named offered meant =>
        rcases List.mem_cons.mp hbefore with hnew | hold
        · cases hnew
          exact .inr List.mem_cons_self
        · exact .inl (List.mem_filter.mp hold).1
    · exact .inr (List.mem_cons_of_mem _ hlater)

end Run

/-! ### Every history of a table -/

/-- What holds of a table after some operations from the beginning. -/
structure KeepsIdentity (operations : List Operation) : Prop where
  /-- The contexts created are numbered from 1 on. -/
  created_eq : initial.created operations =
    numbered 1 (operations.foldl next initial).nextId
  /-- None is created twice. -/
  nodup : (initial.created operations).Nodup
  /-- The card's own is not created. -/
  ne_system : ∀ context ∈ initial.created operations, context ≠ .system
  /-- There are at most 65534. -/
  length_le : (initial.created operations).length ≤ 65534
  /-- None is created if and only if there are so many already. -/
  create_eq_none_iff : (operations.foldl next initial).create = none ↔
    (initial.created operations).length = 65534
  /-- From then on none is, whatever happens, and to try changes nothing. -/
  exhausted : (operations.foldl next initial).create = none →
    ∀ later : List Operation, (later.foldl next (operations.foldl next initial)).create = none ∧
      (later.foldl next (operations.foldl next initial)).next .create =
        later.foldl next (operations.foldl next initial)
  /-- The card's own context is there, and removing it does nothing. -/
  system : (operations.foldl next initial).contains .system = true ∧
    (operations.foldl next initial).remove .system = operations.foldl next initial
  /-- What is found among the exports of a context that has been removed was offered since. -/
  removed : ∀ before context later, operations = before ++ .remove context :: later →
    context ≠ .system → ∀ parameter client array,
      (operations.foldl next initial).lookupExport context parameter client = some array →
        ∃ meant, .offer context parameter array meant ∈ later

theorem keepsIdentity (operations : List Operation) : KeepsIdentity operations := by
  obtain ⟨hcreated, hfirst, hlimit⟩ := initial.created_eq operations
  have hlast := hlimit (by decide)
  have hlength : (initial.created operations).length =
      (operations.foldl next initial).nextId - 1 := by
    rw [hcreated, length_numbered]
    rfl
  have hstart : 1 ≤ (operations.foldl next initial).nextId := hfirst
  have hbound : (operations.foldl next initial).nextId ≤ 65535 := hlast
  refine ⟨hcreated, ?_, ?_, by omega, ?_, ?_, ⟨?_, rfl⟩, ?_⟩
  · rw [hcreated]
    exact nodup_numbered _ _
  · rintro context hcontext rfl
    rw [hcreated] at hcontext
    exact Nat.not_succ_le_zero 0 (bounds_of_mem_numbered hcontext).1
  · rw [ContextTable.create_eq_none_iff, hlength, idLimit]
    omega
  · intro hnone later
    have hstill := create_foldl_eq_none hnone later
    refine ⟨hstill, ?_⟩
    rw [next, hstill]
    rfl
  · obtain ⟨entry, hentry, hsame⟩ :=
      List.mem_map.mp (@system_mem_foldl initial (List.mem_singleton_self _) operations)
    exact List.lookup_isSome_iff.mpr ⟨entry, hentry, beq_iff_eq.mpr hsame.symm⟩
  · rintro before context later rfl hcontext parameter client array hlookup
    obtain ⟨meant, hmem, -⟩ := mem_of_lookupExport hlookup
    rw [List.foldl_append, List.foldl_cons] at hmem
    rcases offered_of_mem hmem with hbefore | hlater
    · rw [next, remove_of_ne_system _ hcontext] at hbefore
      exact absurd rfl (of_decide_eq_true (List.mem_filter.mp hbefore).2)
    · exact ⟨meant, hlater⟩

end SmartCard.ContextTable
