import Mathlib.Data.List.Nodup
import SmartCard.Memory.Heap
import SmartCard.Proofs.Memory.Cell

/-!
# The heap array by array

What each change of the heap does to the array that a number names (`Heap.find?_mapRegions`,
`Heap.find?_insert`, `Heap.find?_discard`), and what every change keeps (`Heap.WellFormed`): numbers
are used once, arrays have the shape of their kind and length, and the bytes counted are those of
the live arrays.

The outline of a heap is its arrays as they were allocated. Writing, clearing and granting leave it
alone, and it alone decides which bytes are counted. Two heaps resemble one another if they have the
same outline and the same persistent contents; they may differ in transient contents and in grants.
-/

set_option autoImplicit false
set_option relaxedAutoImplicit false

namespace SmartCard

namespace Region

/-- The array as it was when it was allocated. -/
def original (region : Region) : Region :=
  .fresh region.owner region.lifetime region.kind region.length

/-- Arrays that were allocated alike have the same owner, lifetime, kind and length. -/
theorem eq_of_original_eq {first second : Region} (horiginal : first.original = second.original) :
    first.owner = second.owner ∧ first.lifetime = second.lifetime ∧ first.kind = second.kind ∧
      first.length = second.length := by
  rw [original, original, fresh, fresh, mk.injEq] at horiginal
  exact ⟨horiginal.1, horiginal.2.1, horiginal.2.2.1, horiginal.2.2.2.1⟩

end Region

namespace Heap

/-! ### Finding arrays -/

/-- Values put through a function are found under the same keys. -/
private theorem lookup_map {β γ : Type} (change : Nat → β → γ) (entries : List (Nat × β))
    (key : Nat) :
    (entries.map fun entry ↦ (entry.1, change entry.1 entry.2)).lookup key =
      (entries.lookup key).map (change key) := by
  induction entries with
  | nil => rfl
  | cons entry rest ih =>
    rw [List.map_cons, List.lookup_cons, List.lookup_cons, ih]
    by_cases hkey : key = entry.1
    · rw [hkey, BEq.rfl]
      rfl
    · rw [beq_false_of_ne hkey]

/-- Under keys used once, an entry is what is found under its key. -/
private theorem lookup_eq_some_iff_mem {β : Type} {entries : List (Nat × β)}
    (hnodup : (entries.map Prod.fst).Nodup) {key : Nat} {value : β} :
    entries.lookup key = some value ↔ (key, value) ∈ entries := by
  induction entries with
  | nil => simp
  | cons entry rest ih =>
    rw [List.map_cons, List.nodup_cons] at hnodup
    rw [List.lookup_cons, List.mem_cons]
    by_cases hkey : key = entry.1
    · have hrest : (key, value) ∉ rest := fun hmem ↦
        hnodup.1 (hkey ▸ List.mem_map_of_mem hmem)
      rw [hkey, BEq.rfl, ← hkey, Option.some_inj, or_iff_left hrest, Prod.ext_iff]
      exact ⟨fun hvalue ↦ ⟨hkey, hvalue.symm⟩, fun hentry ↦ hentry.2.symm⟩
    · have hentry : (key, value) ≠ entry := fun hentry ↦ hkey (congrArg Prod.fst hentry)
      rw [beq_false_of_ne hkey, ih hnodup.2, or_iff_right hentry]

/-- Under keys used once, picking entries picks what is found. -/
private theorem lookup_filter {β : Type} {entries : List (Nat × β)}
    (hnodup : (entries.map Prod.fst).Nodup) (keep : Nat → β → Bool) (key : Nat) :
    (entries.filter fun entry ↦ keep entry.1 entry.2).lookup key =
      (entries.lookup key).filter (keep key) := by
  refine Option.ext fun value ↦ ?_
  rw [lookup_eq_some_iff_mem (hnodup.sublist (List.filter_sublist.map Prod.fst)), List.mem_filter,
    ← lookup_eq_some_iff_mem hnodup, Option.filter_eq_some_iff]

theorem find?_mapRegions (heap : Heap) (change : Nat → Region → Region) (id : Nat) :
    (heap.mapRegions change).find? id = (heap.find? id).map (change id) :=
  lookup_map change heap.regions id

theorem find?_modify (heap : Heap) (id other : Nat) (change : Region → Region) :
    (heap.modify id change).find? other =
      (heap.find? other).map fun region ↦ if other = id then change region else region :=
  heap.find?_mapRegions _ other

theorem find?_insert (heap : Heap) (region : Region) (id : Nat) :
    (heap.insert region).find? id =
      if id = heap.nextId then some region else heap.find? id := by
  change List.lookup id ((heap.nextId, region) :: heap.regions) = _
  rw [List.lookup_cons]
  by_cases hid : id = heap.nextId
  · rw [if_pos hid, hid, BEq.rfl]
  · rw [if_neg hid, beq_false_of_ne hid]
    rfl

/-- Whether a lookup succeeds, and with what, is told by `find?`. -/
theorem lookup_eq_ok_iff {heap : Heap} {id : Nat} {region : Region} :
    heap.lookup id = .ok region ↔ heap.find? id = some region := by
  rw [lookup]
  cases heap.find? id with
  | none => exact iff_of_false nofun nofun
  | some found => rw [Except.ok.injEq, Option.some_inj]

/-! ### Charges -/

/-- What some arrays are charged is split by any way of picking among them. -/
theorem chargedTo_filter (lifetime : Lifetime) (pick : Nat × Region → Bool)
    (regions : List (Nat × Region)) :
    chargedTo lifetime (regions.filter pick) + chargedTo lifetime (regions.filter (!pick ·)) =
      chargedTo lifetime regions := by
  induction regions with
  | nil => rfl
  | cons entry rest ih =>
    have hcons : ∀ regions, chargedTo lifetime (entry :: regions) =
        if entry.2.lifetime = lifetime then entry.2.footprint + chargedTo lifetime regions
        else chargedTo lifetime regions := fun _ ↦ rfl
    rw [List.filter_cons, List.filter_cons]
    cases pick entry with
    | false =>
      rw [Bool.not_false, if_neg Bool.false_ne_true, if_pos rfl, hcons, hcons]
      split <;> omega
    | true =>
      rw [Bool.not_true, if_pos rfl, if_neg Bool.false_ne_true, hcons, hcons]
      split <;> omega

/-- The live arrays as they were when they were allocated. -/
def outline (heap : Heap) : List (Nat × Region) :=
  heap.regions.map fun entry ↦ (entry.1, entry.2.original)

theorem lookup_outline (heap : Heap) (id : Nat) :
    heap.outline.lookup id = (heap.find? id).map Region.original :=
  lookup_map (fun _ ↦ Region.original) heap.regions id

/-- What arrays are charged does not depend on their contents. -/
theorem chargedTo_outline (lifetime : Lifetime) (heap : Heap) :
    chargedTo lifetime heap.outline = chargedTo lifetime heap.regions :=
  List.foldr_map

/-- A change of contents and grants keeps the outline. -/
theorem outline_mapRegions {heap : Heap} {change : Nat → Region → Region}
    (hchange : ∀ id region, (change id region).original = region.original) :
    (heap.mapRegions change).outline = heap.outline := by
  rw [outline, mapRegions, List.map_map]
  exact List.map_congr_left fun entry _ ↦ congrArg (Prod.mk entry.1) (hchange entry.1 entry.2)

/-- Arrays picked by what does not change drop out of the outline. -/
theorem outline_discard {heap : Heap} {doomed : Nat → Region → Bool}
    (hdoomed : ∀ id region, doomed id region.original = doomed id region) :
    (heap.discard doomed).outline =
      heap.outline.filter fun entry ↦ !doomed entry.1 entry.2 := by
  rw [outline, outline, discard, List.filter_map]
  congr 1
  exact List.filter_congr fun entry _ ↦ congrArg (!·) (hdoomed entry.1 entry.2).symm

/-- Heaps of one outline have the same arrays live. -/
theorem isLive_eq_of_outline {first second : Heap} (houtline : first.outline = second.outline)
    (id : Nat) : first.isLive id = second.isLive id := by
  have hlookup := congrArg (List.lookup id) houtline
  rw [lookup_outline, lookup_outline] at hlookup
  rw [isLive, isLive, ← Option.isSome_map, hlookup, Option.isSome_map]

/-! ### What every change keeps -/

/-- Numbers are used once and none is ahead of the next, arrays have the shape of their kind and
length, and the bytes counted are those of the live arrays. -/
structure WellFormed (heap : Heap) : Prop where
  nodup : (heap.regions.map Prod.fst).Nodup
  lt_nextId : ∀ {id region}, heap.find? id = some region → id < heap.nextId
  shape_eq : ∀ {id region}, heap.find? id = some region →
    region.cells.shape = region.kind.cellShape region.length
  used_eq : ∀ lifetime, heap.used.get lifetime = chargedTo lifetime heap.regions

theorem WellFormed.find?_eq_some_iff {heap : Heap} (hheap : heap.WellFormed) {id : Nat}
    {region : Region} : heap.find? id = some region ↔ (id, region) ∈ heap.regions :=
  lookup_eq_some_iff_mem hheap.nodup

theorem find?_discard {heap : Heap} (hnodup : (heap.regions.map Prod.fst).Nodup)
    (doomed : Nat → Region → Bool) (id : Nat) :
    (heap.discard doomed).find? id = (heap.find? id).filter (!doomed id ·) :=
  lookup_filter hnodup (fun id region ↦ !doomed id region) id

/-- What is found after a context's arrays have been freed was found before and is not its own. -/
theorem find?_releaseOwnedBy_eq_some_iff {heap : Heap} (hnodup : (heap.regions.map Prod.fst).Nodup)
    {owner : ContextId} {id : Nat} {region : Region} :
    (heap.releaseOwnedBy owner).find? id = some region ↔
      heap.find? id = some region ∧ region.owner ≠ owner := by
  rw [releaseOwnedBy, find?_discard hnodup, Option.filter_eq_some_iff, Bool.not_eq_true',
    decide_eq_false_iff_not]

theorem wellFormed_empty (quotas : PerLifetime) : (empty quotas).WellFormed where
  nodup := List.nodup_nil
  lt_nextId := nofun
  shape_eq := nofun
  used_eq := fun lifetime ↦ by cases lifetime <;> rfl

section WellFormed

variable {heap : Heap}

/-- Numbers may be skipped. -/
theorem WellFormed.skip (hheap : heap.WellFormed) :
    { heap with nextId := heap.nextId + 1 : Heap }.WellFormed where
  nodup := hheap.nodup
  lt_nextId := fun hfind ↦ Nat.lt_succ_of_lt (hheap.lt_nextId hfind)
  shape_eq := hheap.shape_eq
  used_eq := hheap.used_eq

theorem WellFormed.mapRegions (hheap : heap.WellFormed) {change : Nat → Region → Region}
    (horiginal : ∀ id region, (change id region).original = region.original)
    (hshape : ∀ id region, heap.find? id = some region →
      (change id region).cells.shape = region.cells.shape) :
    (heap.mapRegions change).WellFormed where
  nodup := by
    rw [Heap.mapRegions, List.map_map]
    exact hheap.nodup
  lt_nextId := fun hfind ↦ by
    rw [find?_mapRegions] at hfind
    obtain ⟨region, hregion, -⟩ := Option.map_eq_some_iff.mp hfind
    exact hheap.lt_nextId hregion
  shape_eq := fun {id _} hfind ↦ by
    rw [find?_mapRegions] at hfind
    obtain ⟨region, hregion, rfl⟩ := Option.map_eq_some_iff.mp hfind
    obtain ⟨-, -, hkind, hlength⟩ := Region.eq_of_original_eq (horiginal id region)
    rw [hshape id region hregion, hheap.shape_eq hregion, hkind, hlength]
  used_eq := fun lifetime ↦ by
    rw [← chargedTo_outline, outline_mapRegions horiginal, chargedTo_outline]
    exact hheap.used_eq lifetime

theorem WellFormed.insert (hheap : heap.WellFormed) {region : Region}
    (hshape : region.cells.shape = region.kind.cellShape region.length) :
    (heap.insert region).WellFormed where
  nodup := by
    refine List.nodup_cons.mpr ⟨fun hmem ↦ ?_, hheap.nodup⟩
    obtain ⟨⟨id, other⟩, hentry, rfl⟩ := List.mem_map.mp hmem
    exact Nat.lt_irrefl _ (hheap.lt_nextId (hheap.find?_eq_some_iff.mpr hentry))
  lt_nextId := fun {id _} hfind ↦ by
    rw [find?_insert] at hfind
    change id < heap.nextId + 1
    split at hfind
    · omega
    · exact Nat.lt_succ_of_lt (hheap.lt_nextId hfind)
  shape_eq := fun hfind ↦ by
    rw [find?_insert] at hfind
    split at hfind
    · rwa [← Option.some_inj.mp hfind]
    · exact hheap.shape_eq hfind
  used_eq := fun lifetime ↦ by
    rw [Heap.insert, PerLifetime.get_ofFn, hheap.used_eq]
    change _ = if region.lifetime = lifetime then region.footprint + chargedTo lifetime heap.regions
      else chargedTo lifetime heap.regions
    by_cases hlifetime : lifetime = region.lifetime
    · rw [if_pos hlifetime, if_pos hlifetime.symm, Nat.add_comm]
    · rw [if_neg hlifetime, if_neg fun h ↦ hlifetime h.symm]

theorem WellFormed.discard (hheap : heap.WellFormed) (doomed : Nat → Region → Bool) :
    (heap.discard doomed).WellFormed where
  nodup := hheap.nodup.sublist (List.filter_sublist.map Prod.fst)
  lt_nextId := fun hfind ↦ by
    rw [find?_discard hheap.nodup, Option.filter_eq_some_iff] at hfind
    exact hheap.lt_nextId hfind.1
  shape_eq := fun hfind ↦ by
    rw [find?_discard hheap.nodup, Option.filter_eq_some_iff] at hfind
    exact hheap.shape_eq hfind.1
  used_eq := fun lifetime ↦ by
    have hsplit := chargedTo_filter lifetime (fun entry ↦ doomed entry.1 entry.2) heap.regions
    rw [Heap.discard, PerLifetime.get_ofFn, hheap.used_eq]
    dsimp only
    omega

/-- Heaps of one outline count the same bytes. -/
theorem WellFormed.used_eq_of_outline (hheap : heap.WellFormed) {other : Heap}
    (hother : other.WellFormed) (houtline : heap.outline = other.outline) :
    heap.used = other.used := by
  refine PerLifetime.ext_get fun lifetime ↦ ?_
  rw [hheap.used_eq, hother.used_eq, ← chargedTo_outline, houtline, chargedTo_outline]

end WellFormed

/-! ### Age -/

/-- Whether a heap may come after an earlier one: numbers count up, and what a number of the earlier
heap names now is what it named then, but for contents and grants. -/
structure Follows (later earlier : Heap) : Prop where
  nextId_le : earlier.nextId ≤ later.nextId
  former : ∀ {id region}, id < earlier.nextId → later.find? id = some region →
    ∃ former, earlier.find? id = some former ∧ former.original = region.original

section Follows

variable {heap : Heap}

theorem follows_skip (heap : Heap) : { heap with nextId := heap.nextId + 1 : Heap }.Follows heap :=
  ⟨Nat.le_succ _, fun _ hfind ↦ ⟨_, hfind, rfl⟩⟩

theorem follows_mapRegions {change : Nat → Region → Region}
    (horiginal : ∀ id region, (change id region).original = region.original) :
    (heap.mapRegions change).Follows heap where
  nextId_le := Nat.le_refl _
  former := fun {id _} _ hfind ↦ by
    rw [find?_mapRegions] at hfind
    obtain ⟨region, hregion, rfl⟩ := Option.map_eq_some_iff.mp hfind
    exact ⟨region, hregion, (horiginal id region).symm⟩

theorem follows_insert (heap : Heap) (region : Region) : (heap.insert region).Follows heap where
  nextId_le := Nat.le_succ _
  former := fun hid hfind ↦ by
    rw [find?_insert, if_neg (Nat.ne_of_lt hid)] at hfind
    exact ⟨_, hfind, rfl⟩

theorem follows_discard (hheap : heap.WellFormed) (doomed : Nat → Region → Bool) :
    (heap.discard doomed).Follows heap where
  nextId_le := Nat.le_refl _
  former := fun _ hfind ↦ by
    rw [find?_discard hheap.nodup, Option.filter_eq_some_iff] at hfind
    exact ⟨_, hfind.1, rfl⟩

end Follows

/-! ### Resemblance -/

/-- What a persistent array holds. -/
def contents? (heap : Heap) (id : Nat) : Option Cells :=
  (heap.find? id).bind fun region ↦
    if region.lifetime = .persistent then some region.cells else none

theorem contents?_eq_some_iff {heap : Heap} {id : Nat} {cells : Cells} :
    heap.contents? id = some cells ↔
      ∃ region, heap.find? id = some region ∧ region.lifetime = .persistent ∧
        region.cells = cells := by
  rw [contents?, Option.bind_eq_some_iff]
  simp only [Option.ite_none_right_eq_some, Option.some_inj]

/-- Which arrays are persistent is told by the outline. -/
theorem isSome_contents?_iff (heap : Heap) (id : Nat) :
    (heap.contents? id).isSome ↔
      ∃ region, heap.outline.lookup id = some region ∧ region.lifetime = .persistent := by
  rw [lookup_outline, Option.isSome_iff_exists]
  simp only [contents?_eq_some_iff, Option.map_eq_some_iff]
  constructor
  · rintro ⟨cells, region, hfind, hlifetime, -⟩
    exact ⟨region.original, ⟨region, hfind, rfl⟩, hlifetime⟩
  · rintro ⟨original, ⟨region, hfind, rfl⟩, hlifetime⟩
    exact ⟨region.cells, region, hfind, hlifetime, rfl⟩

/-- In heaps of one outline a persistent array has one shape. -/
theorem WellFormed.shape_contents?_eq {heap other : Heap} (hheap : heap.WellFormed)
    (hother : other.WellFormed) (houtline : heap.outline = other.outline) {id : Nat}
    {cells others : Cells} (hcells : heap.contents? id = some cells)
    (hothers : other.contents? id = some others) : cells.shape = others.shape := by
  obtain ⟨region, hregion, -, rfl⟩ := contents?_eq_some_iff.mp hcells
  obtain ⟨second, hsecond, -, rfl⟩ := contents?_eq_some_iff.mp hothers
  have horiginal := congrArg (List.lookup id) houtline
  rw [lookup_outline, lookup_outline, hregion, hsecond] at horiginal
  obtain ⟨-, -, hkind, hlength⟩ := Region.eq_of_original_eq (Option.some_inj.mp horiginal)
  rw [hheap.shape_eq hregion, hother.shape_eq hsecond, hkind, hlength]

/-- Whether a heap has the arrays and the persistent contents of an earlier one. -/
structure Resembles (later earlier : Heap) : Prop where
  outline_eq : later.outline = earlier.outline
  contents_eq : ∀ id, later.contents? id = earlier.contents? id

section Resembles

variable {heap later earlier : Heap}

/-- Heaps of one outline whose persistent arrays agree cell by cell resemble one another. -/
theorem resembles_of_cells (hlater : later.WellFormed) (hearlier : earlier.WellFormed)
    (houtline : later.outline = earlier.outline)
    (hcells : ∀ id cells others, earlier.contents? id = some cells →
      later.contents? id = some others →
        ∀ position, others.cell? position = cells.cell? position) :
    later.Resembles earlier where
  outline_eq := houtline
  contents_eq := fun id ↦ by
    have hboth : (later.contents? id).isSome ↔ (earlier.contents? id).isSome := by
      rw [isSome_contents?_iff, isSome_contents?_iff, houtline]
    cases hold : earlier.contents? id with
    | none => simpa [hold] using hboth
    | some cells =>
      obtain ⟨others, hnew⟩ := Option.isSome_iff_exists.mp (hboth.mpr (by simp [hold]))
      have hshape := hlater.shape_contents?_eq hearlier houtline hnew hold
      rw [hnew]
      refine congrArg some (Cells.ext_cell? ?_ (hcells id cells others hold hnew))
      rw [hshape]

theorem Resembles.refl (heap : Heap) : heap.Resembles heap :=
  ⟨rfl, fun _ ↦ rfl⟩

theorem Resembles.trans (hlater : later.Resembles heap) (hearlier : heap.Resembles earlier) :
    later.Resembles earlier :=
  ⟨hlater.outline_eq.trans hearlier.outline_eq,
    fun id ↦ (hlater.contents_eq id).trans (hearlier.contents_eq id)⟩

/-- A change that keeps persistent contents keeps the resemblance. -/
theorem resembles_mapRegions {change : Nat → Region → Region}
    (horiginal : ∀ id region, (change id region).original = region.original)
    (hcells : ∀ id region, heap.find? id = some region → region.lifetime = .persistent →
      (change id region).cells = region.cells) :
    (heap.mapRegions change).Resembles heap where
  outline_eq := outline_mapRegions horiginal
  contents_eq := fun id ↦ by
    rw [contents?, contents?, find?_mapRegions, Option.bind_map]
    refine Option.bind_congr fun region hregion ↦ ?_
    rw [Function.comp_apply, (Region.eq_of_original_eq (horiginal id region)).2.1]
    by_cases hpersistent : region.lifetime = .persistent
    · rw [hcells id region hregion hpersistent]
    · rw [if_neg hpersistent, if_neg hpersistent]

/-- Clearing arrays that are not persistent keeps the resemblance. -/
theorem resembles_clearWhere {forgotten : Region → Bool}
    (htransient : ∀ region, forgotten region = true → region.lifetime ≠ .persistent) :
    (heap.clearWhere forgotten).Resembles heap := by
  refine resembles_mapRegions (fun id region ↦ ?_) fun id region _ hpersistent ↦ ?_
  · split <;> rfl
  · rw [if_neg fun hforgotten ↦ htransient region hforgotten hpersistent]

theorem resembles_clearOnDeselect (heap : Heap) (owner : ContextId) :
    (heap.clearOnDeselect owner).Resembles heap := by
  refine resembles_clearWhere fun region hforgotten hpersistent ↦ ?_
  simp [isClearedOnDeselect, hpersistent] at hforgotten

theorem resembles_clearOnReset (heap : Heap) : heap.clearOnReset.Resembles heap := by
  refine resembles_clearWhere fun region hforgotten hpersistent ↦ ?_
  rw [hpersistent] at hforgotten
  exact Bool.noConfusion hforgotten

/-- Freeing what a context owns keeps the resemblance of two heaps. -/
theorem Resembles.releaseOwnedBy (hlater : later.WellFormed) (hresembles : later.Resembles earlier)
    (owner : ContextId) :
    (later.releaseOwnedBy owner).Resembles (earlier.releaseOwnedBy owner) := by
  have hkeys : ∀ heap : Heap, heap.outline.map Prod.fst = heap.regions.map Prod.fst :=
    fun heap ↦ List.map_map
  have hearlier : (earlier.regions.map Prod.fst).Nodup := by
    rw [← hkeys, ← hresembles.outline_eq, hkeys]
    exact hlater.nodup
  have houtline : ∀ heap : Heap, (heap.releaseOwnedBy owner).outline =
      heap.outline.filter fun entry ↦ !decide (entry.2.owner = owner) :=
    fun heap ↦ outline_discard fun _ _ ↦ rfl
  refine ⟨by rw [houtline, houtline, hresembles.outline_eq], fun id ↦ ?_⟩
  have hlookup := congrArg (List.lookup id) hresembles.outline_eq
  have hcontents := hresembles.contents_eq id
  rw [lookup_outline, lookup_outline] at hlookup
  unfold contents? at hcontents ⊢
  unfold Heap.releaseOwnedBy
  rw [find?_discard hlater.nodup, find?_discard hearlier]
  generalize later.find? id = found at hlookup hcontents ⊢
  generalize earlier.find? id = former at hlookup hcontents ⊢
  cases found with
  | none =>
    cases former with
    | none => rfl
    | some region => cases hlookup
  | some region =>
    cases former with
    | none => cases hlookup
    | some other =>
      have howner := (Region.eq_of_original_eq (Option.some_inj.mp hlookup)).1
      by_cases howned : other.owner = owner
      · simp [Option.filter, howner, howned]
      · simpa [Option.filter, howner, howned] using hcontents

end Resembles

end Heap

end SmartCard
