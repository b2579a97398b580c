import SmartCard.Proofs.Journal.Coverage
import SmartCard.Proofs.Memory.Heap

/-!
# Putting images back

Undoing a transaction lays the images of its journal over the arrays that they were taken from.
Array by array that is `Journal.replay`: where the images fit, every cell covered holds its image
afterwards and every other cell what it held before (`Journal.replay_spec`), and no array changes in
anything else.
-/

set_option autoImplicit false
set_option relaxedAutoImplicit false

namespace SmartCard

namespace Journal

/-- The cells of an array with its images put back, the last one first. -/
def replay (entries : List JournalEntry) (id : Nat) (cells : Cells) : Cells :=
  entries.foldr (fun entry cells ↦
    if entry.region = id then entry.image.overlay entry.start cells else cells) cells

/-- Images that fit are put back without changing the shape, and then every cell holds its image
if it has one. -/
theorem replay_spec {entries : List JournalEntry} {id : Nat} {cells : Cells}
    (hfits : ∀ entry ∈ entries, entry.region = id → entry.image.FitsAt entry.start cells.shape) :
    (replay entries id cells).shape = cells.shape ∧
      ∀ position, (replay entries id cells).cell? position =
        (imageIn entries id position).or (cells.cell? position) := by
  induction entries with
  | nil => exact ⟨rfl, fun _ ↦ rfl⟩
  | cons entry rest ih =>
    obtain ⟨ihshape, ihcell⟩ := ih fun other hother ↦
      hfits other (List.mem_cons_of_mem entry hother)
    have hreplay : replay (entry :: rest) id cells =
        if entry.region = id then entry.image.overlay entry.start (replay rest id cells)
        else replay rest id cells := rfl
    rw [hreplay]
    by_cases hregion : entry.region = id
    · have hfit : entry.image.FitsAt entry.start (replay rest id cells).shape :=
        ihshape ▸ hfits entry List.mem_cons_self hregion
      rw [if_pos hregion]
      constructor
      · exact (Cells.shape_overlay hfit).trans ihshape
      · intro position
        have hoverlay := JournalEntry.cell?_overlay (Nat.zero_le entry.start) hfit
          (Nat.zero_le position)
        rw [Nat.sub_zero, Nat.sub_zero] at hoverlay
        rw [hoverlay, hregion, ihcell, imageIn_cons, Option.or_assoc]
    · rw [if_neg hregion]
      constructor
      · exact ihshape
      · intro position
        have hnone : entry.cell? id position = none := if_neg fun h ↦ hregion h.1
        rw [ihcell, imageIn_cons, hnone, Option.none_or]

/-- An array without images stays as it is. -/
theorem replay_eq_self {entries : List JournalEntry} {id : Nat} {cells : Cells}
    (hnone : ∀ entry ∈ entries, entry.region ≠ id) : replay entries id cells = cells := by
  induction entries with
  | nil => rfl
  | cons entry rest ih =>
    change (if entry.region = id then _ else replay rest id cells) = cells
    rw [if_neg (hnone entry List.mem_cons_self)]
    exact ih fun other hother ↦ hnone other (List.mem_cons_of_mem entry hother)

end Journal

namespace Heap

variable {heap : Heap}

/-- The heap with some images put back, the last one first. -/
def restored (heap : Heap) (entries : List JournalEntry) : Heap :=
  entries.foldr (fun entry heap ↦ heap.restore entry) heap

/-- Rolling back puts the images back and then frees the arrays allocated. -/
theorem rollBack_eq (heap : Heap) (journal : Journal) :
    heap.rollBack journal = (heap.restored journal.entries).discard fun id _ ↦
      journal.allocations.contains id :=
  rfl

/-- Putting images back changes each array by its own images. -/
theorem restored_eq (heap : Heap) (entries : List JournalEntry) :
    heap.restored entries = heap.mapRegions fun id region ↦
      { region with cells := Journal.replay entries id region.cells } := by
  induction entries with
  | nil =>
    have hsame : heap.mapRegions (fun _ region ↦ region) = heap :=
      congrArg (fun regions ↦ { heap with regions }) (List.map_id heap.regions)
    exact hsame.symm
  | cons entry rest ih =>
    change (heap.restored rest).restore entry = _
    rw [ih, restore, modify, mapRegions, mapRegions, mapRegions, List.map_map]
    refine congrArg (fun regions ↦ { heap with regions }) (List.map_congr_left ?_)
    rintro ⟨id, region⟩ -
    have hreplay : Journal.replay (entry :: rest) id region.cells =
        if entry.region = id then
          entry.image.overlay entry.start (Journal.replay rest id region.cells)
        else Journal.replay rest id region.cells := rfl
    rw [hreplay]
    by_cases hid : id = entry.region
    · rw [if_pos hid.symm]
      exact congrArg (Prod.mk id) (if_pos hid)
    · rw [if_neg fun h ↦ hid h.symm]
      exact congrArg (Prod.mk id) (if_neg hid)

theorem find?_restored (heap : Heap) (entries : List JournalEntry) (id : Nat) :
    (heap.restored entries).find? id = (heap.find? id).map fun region ↦
      { region with cells := Journal.replay entries id region.cells } := by
  rw [restored_eq, find?_mapRegions]

theorem outline_restored (heap : Heap) (entries : List JournalEntry) :
    (heap.restored entries).outline = heap.outline := by
  rw [restored_eq]
  exact outline_mapRegions fun _ _ ↦ rfl

/-- Images that fit are put back without changing the shape of any array. -/
theorem WellFormed.restored (hheap : heap.WellFormed) {entries : List JournalEntry}
    (hfits : ∀ entry ∈ entries, ∀ {region}, heap.find? entry.region = some region →
      entry.image.FitsAt entry.start region.cells.shape) :
    (heap.restored entries).WellFormed := by
  rw [restored_eq]
  refine hheap.mapRegions (fun _ _ ↦ rfl) fun id region hfind ↦ ?_
  refine (Journal.replay_spec fun entry hentry hregion ↦ ?_).1
  exact hfits entry hentry (hregion ▸ hfind)

end Heap

end SmartCard
