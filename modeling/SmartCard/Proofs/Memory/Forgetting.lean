import SmartCard.Proofs.Memory.Operation

/-!
# What a reset forgets of the heap

Clearing the transient arrays leaves of each array what it was allocated as, who may use it and, if
it is persistent, what it holds (`Heap.find?_clearOnReset`). So two heaps that agree on this much
(`Heap.AgreesLastingly`) become the same: array by array, the contexts to which an array is granted
counting as a set (`Heap.AgreesLastingly.state_eq`), and altogether if the lists in which arrays and
grants are kept are in the same order (`Heap.AgreesLastingly.clearOnReset_eq`). The bytes counted
need no agreement of their own, since they are those of the live arrays
(`Heap.AgreesLastingly.used_eq`).
-/

set_option autoImplicit false
set_option relaxedAutoImplicit false

namespace SmartCard

/-- Cells of one shape are cleared to the same cells. -/
theorem Cells.cleared_eq_of_shape {first second : Cells} (hshape : first.shape = second.shape) :
    first.cleared = second.cleared := by
  cases first <;> cases second
  all_goals
    obtain ⟨hsort, hlength⟩ := CellShape.mk.inj hshape
    first
    | exact Bool.noConfusion hsort
    | rw [cleared, cleared, hlength]

/-- A live array as those who use it can tell it: the contexts to which it is granted are a set. -/
structure ArrayState where
  owner : ContextId
  lifetime : Lifetime
  kind : ElementKind
  length : Nat
  cells : Cells
  isGranted : ContextId → Bool

namespace Region

def state (region : Region) : ArrayState :=
  ⟨region.owner, region.lifetime, region.kind, region.length, region.cells,
    fun context ↦ region.grants.contains context⟩

/-- The array after a reset. -/
def forgotten (region : Region) : Region :=
  if region.lifetime.isTransient then { region with cells := region.cells.cleared } else region

theorem original_forgotten (region : Region) : region.forgotten.original = region.original := by
  unfold forgotten
  split <;> rfl

theorem grants_forgotten (region : Region) : region.forgotten.grants = region.grants := by
  unfold forgotten
  split <;> rfl

/-- Arrays allocated alike that hold the same and are granted to the same contexts are the same. -/
theorem eq_of_original_of_cells {first second : Region}
    (horiginal : first.original = second.original) (hcells : first.cells = second.cells)
    (hgrants : first.grants = second.grants) : first = second := by
  obtain ⟨howner, hlifetime, hkind, hlength⟩ := eq_of_original_eq horiginal
  cases first
  cases second
  exact (mk.injEq ..).mpr ⟨howner, hlifetime, hkind, hlength, hcells, hgrants⟩

/-- A transient array is blank after a reset. -/
theorem isBlank_forgotten {region : Region} (htransient : region.lifetime.isTransient = true) :
    region.forgotten.cells.IsBlank := by
  rw [forgotten, if_pos htransient]
  exact region.cells.isBlank_cleared

end Region

namespace Heap

theorem find?_clearOnReset (heap : Heap) (id : Nat) :
    heap.clearOnReset.find? id = (heap.find? id).map Region.forgotten :=
  heap.find?_mapRegions _ id

/-- Whether two heaps agree on everything but what transient arrays hold. -/
structure AgreesLastingly (first second : Heap) : Prop where
  nextId_eq : first.nextId = second.nextId
  original_eq : ∀ id,
    (first.find? id).map Region.original = (second.find? id).map Region.original
  granted_iff : ∀ {id region other}, first.find? id = some region → second.find? id = some other →
    ∀ context, context ∈ region.grants ↔ context ∈ other.grants
  contents_eq : ∀ id, first.contents? id = second.contents? id

/-! ### Lists of arrays -/

/-- Under keys used once, lists of entries in the same order are told apart by lookups. -/
theorem eq_of_lookup_eq {β : Type} {entries others : List (Nat × β)}
    (hkeys : entries.map Prod.fst = others.map Prod.fst)
    (hnodup : (entries.map Prod.fst).Nodup)
    (hlookup : ∀ key, entries.lookup key = others.lookup key) : entries = others := by
  induction entries generalizing others with
  | nil => exact (List.map_eq_nil_iff.mp hkeys.symm).symm
  | cons entry rest ih =>
    cases others with
    | nil => exact absurd hkeys (List.cons_ne_nil _ _)
    | cons other following =>
      obtain ⟨hkey, hrest⟩ := List.cons.inj hkeys
      rw [List.map_cons, List.nodup_cons] at hnodup
      have hvalue : entry.2 = other.2 := by
        have hhead := hlookup entry.1
        rw [List.lookup_cons, List.lookup_cons, ← hkey, BEq.rfl] at hhead
        exact Option.some.inj hhead
      refine congrArg₂ List.cons (Prod.ext hkey hvalue) (ih hrest hnodup.2 fun key ↦ ?_)
      by_cases hsame : key = entry.1
      · -- the key of the first entry is not used again
        have hnone : ∀ list : List (Nat × β), list.map Prod.fst = rest.map Prod.fst →
            list.lookup key = none := by
          intro list hlist
          rw [List.lookup_eq_none_iff]
          intro pair hpair
          rw [bne_iff_ne]
          rintro rfl
          exact hnodup.1 (hsame ▸ hlist ▸ List.mem_map_of_mem hpair)
        rw [hnone rest rfl, hnone following hrest.symm]
      · have htail := hlookup key
        rw [List.lookup_cons, List.lookup_cons, ← hkey, beq_false_of_ne hsame] at htail
        exact htail

/-- What arrays are charged does not depend on their order. -/
theorem chargedTo_eq_of_perm (lifetime : Lifetime) {regions others : List (Nat × Region)}
    (hperm : regions.Perm others) : chargedTo lifetime regions = chargedTo lifetime others := by
  refine hperm.foldr_eq' (fun entry _ other _ total ↦ ?_) 0
  split <;> split <;> omega

section AgreesLastingly

variable {first second : Heap}

theorem AgreesLastingly.perm_outline (hagrees : first.AgreesLastingly second)
    (hfirst : first.WellFormed) (hsecond : second.WellFormed) :
    first.outline.Perm second.outline := by
  have hmem : ∀ {heap : Heap}, heap.WellFormed → ∀ {id : Nat} {region : Region},
      (id, region) ∈ heap.outline ↔ (heap.find? id).map Region.original = some region := by
    intro heap hheap id region
    rw [outline, List.mem_map, Option.map_eq_some_iff]
    constructor
    · rintro ⟨⟨number, former⟩, hentry, hsame⟩
      obtain ⟨rfl, rfl⟩ := Prod.mk.inj hsame
      exact ⟨former, hheap.find?_eq_some_iff.mpr hentry, rfl⟩
    · rintro ⟨former, hfind, rfl⟩
      exact ⟨(id, former), hheap.find?_eq_some_iff.mp hfind, rfl⟩
  have hnodup : ∀ {heap : Heap}, heap.WellFormed → heap.outline.Nodup := by
    intro heap hheap
    refine List.Nodup.of_map Prod.fst ?_
    rw [outline, List.map_map]
    exact hheap.nodup
  rw [List.perm_ext_iff_of_nodup (hnodup hfirst) (hnodup hsecond)]
  rintro ⟨id, region⟩
  rw [hmem hfirst, hmem hsecond, hagrees.original_eq id]

/-- Heaps that agree count the same bytes. -/
theorem AgreesLastingly.used_eq (hagrees : first.AgreesLastingly second)
    (hfirst : first.WellFormed) (hsecond : second.WellFormed) : first.used = second.used := by
  refine PerLifetime.ext_get fun lifetime ↦ ?_
  rw [hfirst.used_eq, hsecond.used_eq, ← chargedTo_outline, ← chargedTo_outline]
  exact chargedTo_eq_of_perm lifetime (hagrees.perm_outline hfirst hsecond)

/-- In heaps that agree a number names no array or arrays that hold the same after a reset. -/
theorem AgreesLastingly.find?_cases (hagrees : first.AgreesLastingly second)
    (hfirst : first.WellFormed) (hsecond : second.WellFormed) (id : Nat) :
    (first.find? id = none ∧ second.find? id = none) ∨
      ∃ region other, first.find? id = some region ∧ second.find? id = some other ∧
        region.forgotten.original = other.forgotten.original ∧
        region.forgotten.cells = other.forgotten.cells := by
  have horiginal := hagrees.original_eq id
  have hcontents := hagrees.contents_eq id
  cases hregion : first.find? id with
  | none =>
    rw [hregion] at horiginal
    exact .inl ⟨rfl, Option.map_eq_none_iff.mp horiginal.symm⟩
  | some region =>
    rw [hregion] at horiginal
    obtain ⟨other, hother, hsame⟩ := Option.map_eq_some_iff.mp horiginal.symm
    obtain ⟨-, hlifetime, hkind, hlength⟩ := Region.eq_of_original_eq hsame
    refine .inr ⟨region, other, rfl, hother, ?_, ?_⟩
    · rw [region.original_forgotten, other.original_forgotten, hsame]
    unfold Region.forgotten
    rw [hlifetime]
    cases hcase : region.lifetime with
    | persistent =>
      unfold contents? at hcontents
      rw [hregion, hother, Option.bind_some, Option.bind_some, hlifetime, if_pos hcase,
        if_pos hcase] at hcontents
      exact Option.some.inj hcontents
    | clearOnReset | clearOnDeselect =>
      refine Cells.cleared_eq_of_shape ?_
      rw [hfirst.shape_eq hregion, hsecond.shape_eq hother, hkind, hlength]

/-- Heaps that agree have the same arrays after a reset. -/
theorem AgreesLastingly.state_eq (hagrees : first.AgreesLastingly second)
    (hfirst : first.WellFormed) (hsecond : second.WellFormed) (id : Nat) :
    (first.clearOnReset.find? id).map Region.state =
      (second.clearOnReset.find? id).map Region.state := by
  rw [find?_clearOnReset, find?_clearOnReset]
  obtain ⟨hregion, hother⟩ | ⟨region, other, hregion, hother, hsame, hcells⟩ :=
    hagrees.find?_cases hfirst hsecond id
  · rw [hregion, hother]
  · obtain ⟨howner, hlifetime, hkind, hlength⟩ := Region.eq_of_original_eq hsame
    have hgrants : (fun context ↦ region.forgotten.grants.contains context) =
        fun context ↦ other.forgotten.grants.contains context := by
      funext context
      rw [region.grants_forgotten, other.grants_forgotten, Bool.eq_iff_iff,
        List.contains_iff_mem, List.contains_iff_mem]
      exact hagrees.granted_iff hregion hother context
    rw [hregion, hother, Option.map_some, Option.map_some, Option.map_some, Option.map_some,
      Region.state, Region.state, howner, hlifetime, hkind, hlength, hcells, hgrants]

/-- Heaps that agree and keep arrays and grants in the same order are the same after a reset. -/
theorem AgreesLastingly.clearOnReset_eq (hagrees : first.AgreesLastingly second)
    (hfirst : first.WellFormed) (hsecond : second.WellFormed)
    (hquotas : first.quotas = second.quotas)
    (hkeys : first.regions.map Prod.fst = second.regions.map Prod.fst)
    (hgrants : ∀ id, (first.find? id).map (·.grants) = (second.find? id).map (·.grants)) :
    first.clearOnReset = second.clearOnReset := by
  have hcleared : ∀ heap : Heap,
      heap.clearOnReset.regions.map Prod.fst = heap.regions.map Prod.fst :=
    fun _ ↦ List.map_map
  have hfind : ∀ id, first.clearOnReset.find? id = second.clearOnReset.find? id := by
    intro id
    have hgranted := hgrants id
    rw [find?_clearOnReset, find?_clearOnReset]
    obtain ⟨hregion, hother⟩ | ⟨region, other, hregion, hother, hsame, hcells⟩ :=
      hagrees.find?_cases hfirst hsecond id
    · rw [hregion, hother]
    · rw [hregion, hother] at hgranted ⊢
      refine congrArg some (Region.eq_of_original_of_cells hsame hcells ?_)
      rw [region.grants_forgotten, other.grants_forgotten]
      exact Option.some.inj hgranted
  have hregions : first.clearOnReset.regions = second.clearOnReset.regions := by
    refine eq_of_lookup_eq ?_ ?_ hfind
    · rw [hcleared, hcleared, hkeys]
    · rw [hcleared]
      exact hfirst.nodup
  change Heap.mk first.clearOnReset.regions first.nextId first.quotas first.used =
    Heap.mk second.clearOnReset.regions second.nextId second.quotas second.used
  rw [hregions, hagrees.nextId_eq, hquotas, hagrees.used_eq hfirst hsecond]

end AgreesLastingly

end Heap

end SmartCard
