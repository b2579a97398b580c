import Mathlib.Data.List.Nodup
import SmartCard.Context.Table

/-!
# Contexts and the applets bound to them

In a well-formed table every context stands once and below the next number, so a context number is
never used twice. The table stays well formed whatever is done to it. Then the context found for an
identifier is one whose applet has that identifier (`ContextTable.WellFormed.aidOf_of_findByAid`).
-/

set_option autoImplicit false
set_option relaxedAutoImplicit false

namespace SmartCard.ContextTable

/-- Whether every context stands once and below the next number. -/
structure WellFormed (table : ContextTable) : Prop where
  nodup : (table.contexts.map Prod.fst).Nodup
  lt_nextId : ∀ context ∈ table.contexts.map Prod.fst, context.number < table.nextId

theorem wellFormed_initial : initial.WellFormed where
  nodup := List.nodup_singleton _
  lt_nextId := by
    intro context hcontext
    obtain rfl := List.mem_singleton.mp hcontext
    exact Nat.one_pos

/-- Binding an applet to a context leaves the contexts that there are. -/
theorem map_fst_bind (table : ContextTable) (context : ContextId) (aid : Aid) :
    (table.bind context aid).contexts.map Prod.fst = table.contexts.map Prod.fst := by
  unfold bind
  rw [List.map_map]
  refine List.map_congr_left fun entry _ ↦ ?_
  change (if entry.1 = context then (entry.1, some aid) else entry).1 = entry.1
  split <;> rfl

/-- No identifier is found that is bound to no context. -/
theorem findByAid_eq_none_iff {table : ContextTable} {aid : Aid} :
    table.findByAid aid.bytes = none ↔ ∀ entry ∈ table.contexts, entry.2 ≠ some aid := by
  unfold findByAid
  rw [Option.map_eq_none_iff, List.find?_eq_none]
  constructor
  · intro hnone entry hentry hbound
    refine hnone entry (List.mem_reverse.mpr hentry) ?_
    rw [hbound]
    exact beq_self_eq_true aid.bytes
  · intro hunbound entry hentry hfound
    cases hbound : entry.2 with
    | none =>
      rw [hbound] at hfound
      exact Bool.noConfusion hfound
    | some bound =>
      rw [hbound] at hfound
      refine hunbound entry (List.mem_reverse.mp hentry) ?_
      rw [hbound, Aid.ext_bytes (eq_of_beq hfound)]

/-- The context found for an identifier stands in the table with it. -/
theorem mem_of_findByAid {table : ContextTable} {aid : Aid} {context : ContextId}
    (hfound : table.findByAid aid.bytes = some context) : (context, some aid) ∈ table.contexts := by
  obtain ⟨⟨found, bound⟩, hfind, rfl⟩ := Option.map_eq_some_iff.mp hfound
  have hmem := List.mem_reverse.mp (List.mem_of_find?_eq_some hfind)
  have hbytes := List.find?_some hfind
  cases bound with
  | none => exact Bool.noConfusion hbytes
  | some bound => rwa [← Aid.ext_bytes (eq_of_beq hbytes)]

/-- An array looked up has been exported to everybody, or to the client. -/
theorem mem_of_lookupExport {table : ContextTable} {server : ContextId} {parameter : UInt8}
    {client : Option Aid} {array : ArrayRef}
    (hlookup : table.lookupExport server parameter client = some array) :
    ∃ restriction, ((server, parameter), ⟨array, restriction⟩) ∈ table.exports ∧
      ∀ aid, restriction = some aid → client = some aid := by
  unfold lookupExport at hlookup
  cases hfind : table.exports.lookup (server, parameter) with
  | none =>
    rw [hfind] at hlookup
    exact nomatch hlookup
  | some offered =>
    rw [hfind] at hlookup
    obtain ⟨newer, older, hsplit, -⟩ := List.lookup_eq_some_iff.mp hfind
    dsimp only at hlookup
    split at hlookup
    · rename_i hmeant
      obtain rfl := Option.some_inj.mp hlookup
      refine ⟨offered.client, hsplit ▸ List.mem_append_right _ List.mem_cons_self, ?_⟩
      intro aid haid
      rw [haid] at hmeant
      exact (eq_of_beq hmeant).symm
    · exact nomatch hlookup

/-- A context other than the card's own is removed with its exports. -/
theorem remove_of_ne_system (table : ContextTable) {context : ContextId}
    (hcontext : context ≠ .system) :
    table.remove context = { table with
      contexts := table.contexts.filter fun entry ↦ entry.1 ≠ context
      exports := table.exports.filter fun entry ↦ entry.1.1 ≠ context } := by
  rw [remove, ContextId.isSystem, beq_false_of_ne hcontext]
  rfl

/-- Removing a context gives its number to nobody. -/
theorem nextId_remove (table : ContextTable) (context : ContextId) :
    (table.remove context).nextId = table.nextId := by
  unfold remove
  split <;> rfl

/-- A context created is the next one. -/
theorem create_eq_some {table after : ContextTable} {context : ContextId}
    (hcreate : table.create = some (context, after)) :
    context = ⟨table.nextId⟩ ∧ after = { table with
      contexts := (⟨table.nextId⟩, none) :: table.contexts
      nextId := table.nextId + 1 } := by
  unfold create at hcreate
  split at hcreate
  · obtain ⟨rfl, rfl⟩ := Prod.mk.inj (Option.some_inj.mp hcreate)
    exact ⟨rfl, rfl⟩
  · exact nomatch hcreate

namespace WellFormed

variable {table : ContextTable} (htable : table.WellFormed)

include htable

theorem create {context : ContextId} {after : ContextTable}
    (hcreate : table.create = some (context, after)) : after.WellFormed := by
  obtain ⟨rfl, rfl⟩ := create_eq_some hcreate
  constructor
  · refine List.nodup_cons.mpr ⟨fun hmem ↦ ?_, htable.nodup⟩
    exact Nat.lt_irrefl _ (htable.lt_nextId _ hmem)
  · intro context hcontext
    rcases List.mem_cons.mp hcontext with rfl | hold
    · exact Nat.lt_succ_self _
    · exact Nat.lt_succ_of_lt (htable.lt_nextId context hold)

theorem bind (context : ContextId) (aid : Aid) : (table.bind context aid).WellFormed where
  nodup := table.map_fst_bind context aid ▸ htable.nodup
  lt_nextId := table.map_fst_bind context aid ▸ htable.lt_nextId

theorem remove (context : ContextId) : (table.remove context).WellFormed := by
  unfold ContextTable.remove
  split
  · exact htable
  · have hsublist := (List.filter_sublist (p := fun entry : ContextId × Option Aid ↦
      decide (entry.1 ≠ context)) (l := table.contexts)).map Prod.fst
    exact ⟨htable.nodup.sublist hsublist, fun other hother ↦
      htable.lt_nextId other (hsublist.subset hother)⟩

theorem offer (server : ContextId) (parameter : UInt8) (array : ArrayRef) (client : Option Aid) :
    (table.offer server parameter array client).WellFormed :=
  ⟨htable.nodup, htable.lt_nextId⟩

/-- The applet bound to a context is the one that stands in the table with it. -/
theorem aidOf_eq {context : ContextId} {bound : Option Aid}
    (hmem : (context, bound) ∈ table.contexts) : table.aidOf context = bound := by
  obtain ⟨newer, older, hsplit⟩ := List.append_of_mem hmem
  have hnodup := htable.nodup
  rw [hsplit, List.map_append, List.map_cons, List.nodup_middle, List.nodup_cons] at hnodup
  have hlookup : table.contexts.lookup context = some bound := by
    refine List.lookup_eq_some_iff.mpr ⟨newer, older, hsplit, fun entry hentry ↦ ?_⟩
    refine bne_iff_ne.mpr fun hsame ↦ hnodup.1 (List.mem_append_left _ ?_)
    exact List.mem_map.mpr ⟨entry, hentry, hsame.symm⟩
  rw [aidOf, hlookup]
  rfl

/-- The context found for an identifier is one whose applet has that identifier. -/
theorem aidOf_of_findByAid {aid : Aid} {context : ContextId}
    (hfound : table.findByAid aid.bytes = some context) : table.aidOf context = some aid :=
  htable.aidOf_eq (mem_of_findByAid hfound)

end WellFormed

end SmartCard.ContextTable
