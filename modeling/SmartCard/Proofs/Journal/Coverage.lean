import Mathlib.Algebra.BigOperators.Group.Finset.Basic
import Mathlib.Data.List.Pairwise
import Mathlib.Order.Interval.Finset.Nat
import SmartCard.Proofs.Memory.Cell
import SmartCard.Transaction.Journal

/-!
# What a journal covers

A journal covers cells, each named by its array and its position, and holds an image for each of
them. `cellsOf` is the set of cells that some entries cover and `imageIn` finds the image of one.
When no two entries of an array overlap or touch, a cell is in one entry at most. Then the order of
the entries does not matter for the image found (`imageIn_eq_some_iff`), and the bytes of the images
are the cost of the cells covered (`footprintOf_cellsOf`).
-/

set_option autoImplicit false
set_option relaxedAutoImplicit false

namespace SmartCard

/-- The cells of an array from `start` on, each with its array. -/
def cellRange (region start length : Nat) : Finset (Nat × Nat) :=
  {region} ×ˢ Finset.Ico start (start + length)

/-- The bytes of commit buffer for some cells, where `cost` is what one cell of an array needs. -/
def footprintOf (cost : Nat → Nat) (cells : Finset (Nat × Nat)) : Nat :=
  ∑ cell ∈ cells, cost cell.1

@[simp]
theorem mem_cellRange {region start length other position : Nat} :
    (other, position) ∈ cellRange region start length ↔
      other = region ∧ start ≤ position ∧ position < start + length := by
  rw [cellRange, Finset.mem_product, Finset.mem_singleton, Finset.mem_Ico]

/-- Cells of one cost need as many times that cost as there are cells. -/
theorem footprintOf_eq_card {cost : Nat → Nat} {cells : Finset (Nat × Nat)} {each : Nat}
    (heach : ∀ cell ∈ cells, cost cell.1 = each) : footprintOf cost cells = cells.card * each :=
  Finset.sum_const_nat heach

/-- A range needs its length times the cost of a cell. -/
theorem footprintOf_cellRange (cost : Nat → Nat) (region start length : Nat) :
    footprintOf cost (cellRange region start length) = length * cost region := by
  have hcard : (cellRange region start length).card = length := by
    rw [cellRange, Finset.card_product, Finset.card_singleton, Nat.card_Ico]
    omega
  rw [footprintOf_eq_card fun _ hcell ↦ congrArg cost (mem_cellRange.mp hcell).1, hcard]

/-- Cells added to others need what is needed for those that are new. -/
theorem footprintOf_union (cost : Nat → Nat) (cells others : Finset (Nat × Nat)) :
    footprintOf cost (cells ∪ others) =
      footprintOf cost (cells \ others) + footprintOf cost others := by
  rw [← Finset.sdiff_union_self_eq_union, footprintOf,
    Finset.sum_union Finset.sdiff_disjoint]
  rfl

/-- More cells never need less. -/
theorem footprintOf_mono (cost : Nat → Nat) {cells others : Finset (Nat × Nat)}
    (hsubset : cells ⊆ others) : footprintOf cost cells ≤ footprintOf cost others := by
  rw [← Finset.union_eq_right.mpr hsubset, Finset.union_comm, footprintOf_union]
  exact Nat.le_add_left _ _

namespace JournalEntry

/-- The cells that an entry covers. -/
def cells (entry : JournalEntry) : Finset (Nat × Nat) :=
  cellRange entry.region entry.start entry.image.size

/-- The image of a cell, if the entry covers it. -/
def cell? (entry : JournalEntry) (region position : Nat) : Option Cell :=
  if entry.region = region ∧ entry.start ≤ position then entry.image.cell? (position - entry.start)
  else none

/-- Whether two entries, if they are of one array, neither overlap nor touch. -/
def Apart (first second : JournalEntry) : Prop :=
  first.region = second.region → first.stop < second.start ∨ second.stop < first.start

instance : Std.Symm Apart where
  symm _ _ hapart hregion := (hapart hregion.symm).symm

@[simp]
theorem mem_cells {entry : JournalEntry} {region position : Nat} :
    (region, position) ∈ entry.cells ↔
      region = entry.region ∧ entry.start ≤ position ∧ position < entry.stop :=
  mem_cellRange

/-- An entry has images for the cells it covers. -/
theorem isSome_cell?_iff (entry : JournalEntry) (region position : Nat) :
    (entry.cell? region position).isSome ↔ (region, position) ∈ entry.cells := by
  rw [mem_cells, cell?, stop]
  by_cases hinside : entry.region = region ∧ entry.start ≤ position
  · rw [if_pos hinside, Cells.isSome_cell?_iff]
    omega
  · rw [if_neg hinside]
    refine iff_of_false (by simp) ?_
    rintro ⟨hregion, hstart, -⟩
    exact hinside ⟨hregion.symm, hstart⟩

/-- An entry has no image for a cell that it does not cover. -/
theorem cell?_eq_none {entry : JournalEntry} {region position : Nat}
    (hcell : (region, position) ∉ entry.cells) : entry.cell? region position = none := by
  rw [← Option.not_isSome_iff_eq_none, isSome_cell?_iff]
  exact hcell

/-- An entry that has an image for a cell covers it. -/
theorem mem_cells_of_cell? {entry : JournalEntry} {region position : Nat} {cell : Cell}
    (hcell : entry.cell? region position = some cell) : (region, position) ∈ entry.cells :=
  (entry.isSome_cell?_iff region position).mp (Option.isSome_of_eq_some hcell)

/-- Laying an image over the part of its array that starts at `low` changes the cells that the entry
covers. -/
theorem cell?_overlay {entry : JournalEntry} {cells : Cells} {low position : Nat}
    (hlow : low ≤ entry.start) (hfits : entry.image.FitsAt (entry.start - low) cells.shape)
    (hposition : low ≤ position) :
    (entry.image.overlay (entry.start - low) cells).cell? (position - low) =
      (entry.cell? entry.region position).or (cells.cell? (position - low)) := by
  rw [Cells.cell?_overlay hfits]
  by_cases hcell : (entry.region, position) ∈ entry.cells
  · have hsome := (entry.isSome_cell?_iff entry.region position).mpr hcell
    rw [mem_cells, stop] at hcell
    have hoffset : position - low - (entry.start - low) = position - entry.start := by omega
    have himage : entry.cell? entry.region position = entry.image.cell? (position - entry.start) :=
      if_pos ⟨rfl, hcell.2.1⟩
    rw [if_pos (by omega), hoffset, ← himage, Option.or_of_isSome hsome]
  · rw [cell?_eq_none hcell, Option.none_or]
    rw [mem_cells, stop] at hcell
    refine if_neg fun hinside ↦ hcell ⟨rfl, ?_⟩
    omega

/-- Of entries that are apart only one covers a cell. -/
theorem eq_of_mem_cells {entries : List JournalEntry} (hapart : entries.Pairwise Apart)
    {first second : JournalEntry} (hfirst : first ∈ entries) (hsecond : second ∈ entries)
    {cell : Nat × Nat} (hcellFirst : cell ∈ first.cells) (hcellSecond : cell ∈ second.cells) :
    first = second := by
  obtain ⟨region, position⟩ := cell
  by_contra hne
  rw [mem_cells] at hcellFirst hcellSecond
  have := hapart.forall hfirst hsecond hne (hcellFirst.1.symm.trans hcellSecond.1)
  omega

end JournalEntry

namespace Journal

/-- The cells that some entries cover. -/
def cellsOf (entries : List JournalEntry) : Finset (Nat × Nat) :=
  entries.foldr (fun entry cells ↦ entry.cells ∪ cells) ∅

/-- The image of a cell in the first of some entries that covers it. -/
def imageIn (entries : List JournalEntry) (region position : Nat) : Option Cell :=
  entries.findSome? (·.cell? region position)

/-- The cells that a journal covers. -/
def covered (journal : Journal) : Finset (Nat × Nat) :=
  cellsOf journal.entries

/-- The image of a cell that a journal covers. -/
def image? (journal : Journal) (region position : Nat) : Option Cell :=
  imageIn journal.entries region position

@[simp]
theorem mem_cellsOf {entries : List JournalEntry} {cell : Nat × Nat} :
    cell ∈ cellsOf entries ↔ ∃ entry ∈ entries, cell ∈ entry.cells := by
  induction entries with
  | nil => simp [cellsOf]
  | cons entry rest ih =>
    change cell ∈ entry.cells ∪ cellsOf rest ↔ _
    rw [Finset.mem_union, ih, List.exists_mem_cons_iff]

@[simp]
theorem imageIn_nil (region position : Nat) : imageIn [] region position = none :=
  rfl

@[simp]
theorem imageIn_cons (entry : JournalEntry) (rest : List JournalEntry) (region position : Nat) :
    imageIn (entry :: rest) region position =
      (entry.cell? region position).or (imageIn rest region position) := by
  rw [imageIn, List.findSome?_cons]
  cases entry.cell? region position <;> rfl

@[simp]
theorem imageIn_append (entries others : List JournalEntry) (region position : Nat) :
    imageIn (entries ++ others) region position =
      (imageIn entries region position).or (imageIn others region position) :=
  List.findSome?_append

/-- There is an image for each cell covered. -/
theorem isSome_imageIn_iff (entries : List JournalEntry) (region position : Nat) :
    (imageIn entries region position).isSome ↔ (region, position) ∈ cellsOf entries := by
  simp only [imageIn, List.findSome?_isSome_iff, JournalEntry.isSome_cell?_iff, mem_cellsOf]

theorem exists_imageIn {entries : List JournalEntry} {region position : Nat}
    (hcell : (region, position) ∈ cellsOf entries) :
    ∃ cell, imageIn entries region position = some cell :=
  Option.isSome_iff_exists.mp ((isSome_imageIn_iff entries region position).mpr hcell)

/-- There is no image for a cell that no entry covers. -/
theorem imageIn_eq_none_iff (entries : List JournalEntry) (region position : Nat) :
    imageIn entries region position = none ↔ (region, position) ∉ cellsOf entries := by
  rw [← isSome_imageIn_iff, Option.not_isSome_iff_eq_none]

/-- In entries that are apart, the image of a cell is the one that any entry has for it. -/
theorem imageIn_eq_some_iff {entries : List JournalEntry}
    (hapart : entries.Pairwise JournalEntry.Apart) {region position : Nat} {cell : Cell} :
    imageIn entries region position = some cell ↔
      ∃ entry ∈ entries, entry.cell? region position = some cell := by
  constructor
  · exact List.exists_of_findSome?_eq_some
  · rintro ⟨entry, hentry, hcell⟩
    have hmem := JournalEntry.mem_cells_of_cell? hcell
    obtain ⟨found, hfound⟩ := exists_imageIn (mem_cellsOf.mpr ⟨entry, hentry, hmem⟩)
    obtain ⟨other, hother, hotherCell⟩ := List.exists_of_findSome?_eq_some hfound
    have hsame : other = entry := JournalEntry.eq_of_mem_cells hapart hother hentry
      (JournalEntry.mem_cells_of_cell? hotherCell) hmem
    rw [hfound, ← hotherCell, hsame, hcell]

/-- The image of a cell depends on which entries there are and not on their order. -/
theorem imageIn_perm {entries others : List JournalEntry}
    (hapart : entries.Pairwise JournalEntry.Apart) (hperm : entries.Perm others)
    (region position : Nat) : imageIn entries region position = imageIn others region position := by
  have hothers : others.Pairwise JournalEntry.Apart :=
    hperm.pairwise hapart fun h ↦ Std.Symm.symm _ _ h
  ext cell
  rw [imageIn_eq_some_iff hapart, imageIn_eq_some_iff hothers]
  simp only [hperm.mem_iff]

/-- The bytes of the images of entries that are apart are the cost of the cells covered. -/
theorem footprintOf_cellsOf {cost : Nat → Nat} {entries : List JournalEntry}
    (hapart : entries.Pairwise JournalEntry.Apart)
    (hcost : ∀ entry ∈ entries, entry.image.shape.cellCost = cost entry.region) :
    footprintOf cost (cellsOf entries) = bytesOf entries := by
  induction entries with
  | nil => rfl
  | cons entry rest ih =>
    rw [List.pairwise_cons] at hapart
    have hdisjoint : Disjoint entry.cells (cellsOf rest) := by
      rw [Finset.disjoint_left]
      rintro ⟨region, position⟩ hentry hrest
      obtain ⟨other, hother, hcell⟩ := mem_cellsOf.mp hrest
      rw [JournalEntry.mem_cells] at hentry hcell
      have := hapart.1 other hother (hentry.1.symm.trans hcell.1)
      omega
    have hbytes : footprintOf cost entry.cells = entry.image.footprint := by
      rw [JournalEntry.cells, footprintOf_cellRange, Cells.footprint_eq,
        hcost entry List.mem_cons_self]
    change footprintOf cost (entry.cells ∪ cellsOf rest) = entry.image.footprint + bytesOf rest
    rw [← ih hapart.2 fun other hother ↦ hcost other (List.mem_cons_of_mem entry hother), ← hbytes]
    exact Finset.sum_union hdisjoint

end Journal

end SmartCard
