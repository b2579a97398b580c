import SmartCard.Proofs.Journal.Exactness
import SmartCard.Proofs.Memory.Replay

/-!
# Images in any order

A recording that merges takes entries out of the journal and puts the entry for their union at its
end, so the order of the entries is not that in which they were captured. It does not matter:
whatever the order in which the images of a journal are put back, the heap is the same afterwards
(`Heap.restored_in_any_order`).

Two things carry this. The entries are apart, so a cell has one image at most, whichever entry comes
first (`Journal.imageIn_perm`). And each image fits the array that it goes to, at any time, since
putting images back changes no shape (`Journal.replay_spec`).
-/

set_option autoImplicit false
set_option relaxedAutoImplicit false

namespace SmartCard

/-! ### The journals there are -/

namespace Journal

/-- The journals that arise when recordings succeed one after another, with arrays noted in between.
Every array presents the shape that it has, and a range that is not empty lies inside it. -/
inductive Arises (shape : Nat → CellShape) : Journal → Prop where
  | empty (capacity : Nat) : Arises shape (.empty capacity)
  | record {journal after : Journal} {region start length : Nat} {current : Cells}
    (harises : Arises shape journal) (hshape : current.shape = shape region)
    (hinside : length ≠ 0 → start + length ≤ current.size)
    (hrecord : journal.record region start length current = .ok after) : Arises shape after
  | recordAllocation {journal : Journal} (harises : Arises shape journal) (region : Nat) :
    Arises shape (journal.recordAllocation region)

variable {shape : Nat → CellShape} {journal : Journal}

/-- Such a journal is what a run of calls leads to: an empty range records nothing, wherever it
starts. -/
theorem Arises.exists_run (harises : Arises shape journal) :
    ∃ (capacity : Nat) (calls : List (JournalCall shape)),
      (JournalRun.after capacity calls).journal = journal := by
  have happend : ∀ (capacity : Nat) (calls : List (JournalCall shape)) (call : JournalCall shape),
      JournalRun.after capacity (calls ++ [call]) = (JournalRun.after capacity calls).next call :=
    fun capacity calls call ↦ List.foldl_append
  induction harises with
  | empty capacity => exact ⟨capacity, [], rfl⟩
  | @record journal after region start length current _ hshape hinside hrecord ih =>
    obtain ⟨capacity, calls, rfl⟩ := ih
    by_cases hempty : length = 0
    · have hsame : (JournalRun.after capacity calls).journal.record region start length current =
          .ok (JournalRun.after capacity calls).journal := if_pos (.inl hempty)
      cases hsame.symm.trans hrecord
      exact ⟨capacity, calls, rfl⟩
    · let recording : Recording shape :=
        ⟨region, start, length, current, hshape, hinside hempty⟩
      have hrecorded : (JournalRun.after capacity calls).journal.recordRange recording =
        .ok after := hrecord
      refine ⟨capacity, calls ++ [.record recording], ?_⟩
      rw [happend, JournalRun.next, hrecorded]
  | recordAllocation _ region ih =>
    obtain ⟨capacity, calls, rfl⟩ := ih
    exact ⟨capacity, calls ++ [.recordAllocation region], by rw [happend]; rfl⟩

/-- Its entries are apart, and the image of each fits the array that it names. -/
theorem Arises.apart_and_fits (harises : Arises shape journal) :
    journal.entries.Pairwise JournalEntry.Apart ∧
      ∀ entry ∈ journal.entries, entry.image.FitsAt entry.start (shape entry.region) := by
  obtain ⟨capacity, calls, rfl⟩ := harises.exists_run
  have hkeeps : (JournalRun.after capacity calls).Keeps capacity :=
    (JournalRun.keeps_start capacity).foldl calls
  exact ⟨hkeeps.sound.apart, hkeeps.fits⟩

/-- The order in which images are put back over an array does not matter. -/
theorem replay_perm {entries others : List JournalEntry} {id : Nat} {cells : Cells}
    (hapart : entries.Pairwise JournalEntry.Apart)
    (hfits : ∀ entry ∈ entries, entry.region = id → entry.image.FitsAt entry.start cells.shape)
    (hperm : entries.Perm others) : replay entries id cells = replay others id cells := by
  obtain ⟨hshape, hcell⟩ := replay_spec hfits
  obtain ⟨hothersShape, hothersCell⟩ := replay_spec fun entry hentry ↦
    hfits entry (hperm.mem_iff.mpr hentry)
  apply Cells.ext_cell?
  · rw [hshape, hothersShape]
  · intro position
    rw [hcell, hothersCell, imageIn_perm hapart hperm]

end Journal

/-! ### Putting images back in another order -/

namespace Heap

/-- Whether all arrays have the shapes that their numbers stand for. -/
def HasShapes (heap : Heap) (shape : Nat → CellShape) : Prop :=
  ∀ array ∈ heap.regions, array.2.cells.shape = shape array.1

/-- That putting back the entries of a journal in some order, the last one first, does what it
should. -/
structure PutsBack (heap : Heap) (journal : Journal) (order : List JournalEntry) : Prop where
  /-- It leads to the same heap as the order of the journal. -/
  restored_eq : heap.restored order = heap.restored journal.entries
  /-- So does undoing a transaction. -/
  rollBack_eq : heap.rollBack { journal with entries := order } = heap.rollBack journal
  dead : ∀ id, heap.find? id = none → (heap.restored order).find? id = none
  /-- A live array changes in nothing but its cells. Those that an entry covers hold the image that
  it has for them, and those that no entry covers what they held before. -/
  live : ∀ id former, heap.find? id = some former → ∃ cells,
    (heap.restored order).find? id = some { former with cells } ∧
      cells.shape = former.cells.shape ∧
      (∀ entry ∈ journal.entries, ∀ position, (id, position) ∈ entry.cells →
        cells.cell? position = entry.cell? id position) ∧
      ∀ position, (id, position) ∉ journal.covered →
        cells.cell? position = former.cells.cell? position
  /-- When its turn comes, each image is of the sort of its array and lies inside it. -/
  fits : ∀ later entry earlier, order = later ++ entry :: earlier →
    ∀ region, (heap.restored earlier).find? entry.region = some region →
      entry.image.FitsAt entry.start region.cells.shape

section HasShapes

variable {shape : Nat → CellShape} {heap : Heap} {entries others : List JournalEntry}

/-- Images that fit the shapes fit the cells of an array that has its shape. -/
private theorem fits_of_shape_eq {id : Nat} {cells : Cells} (hshape : cells.shape = shape id)
    (hfits : ∀ entry ∈ entries, entry.image.FitsAt entry.start (shape entry.region)) :
    ∀ entry ∈ entries, entry.region = id → entry.image.FitsAt entry.start cells.shape := by
  rintro entry hentry rfl
  rw [hshape]
  exact hfits entry hentry

theorem HasShapes.shape_eq (hshapes : heap.HasShapes shape) {id : Nat} {region : Region}
    (hfind : heap.find? id = some region) : region.cells.shape = shape id := by
  obtain ⟨front, rest, hregions, -⟩ := List.lookup_eq_some_iff.mp hfind
  exact hshapes (id, region) (hregions ▸ List.mem_append_right front List.mem_cons_self)

/-- Images that fit the shapes are put back without changing them. -/
theorem HasShapes.restored (hshapes : heap.HasShapes shape)
    (hfits : ∀ entry ∈ entries, entry.image.FitsAt entry.start (shape entry.region)) :
    (heap.restored entries).HasShapes shape := by
  rw [Heap.restored_eq]
  intro array harray
  obtain ⟨former, hformer, rfl⟩ := List.mem_map.mp harray
  have hshape := hshapes former hformer
  exact (Journal.replay_spec (fits_of_shape_eq hshape hfits)).1.trans hshape

/-- The order in which images are put back does not matter. -/
theorem HasShapes.restored_perm (hshapes : heap.HasShapes shape)
    (hapart : entries.Pairwise JournalEntry.Apart)
    (hfits : ∀ entry ∈ entries, entry.image.FitsAt entry.start (shape entry.region))
    (hperm : entries.Perm others) : heap.restored entries = heap.restored others := by
  rw [Heap.restored_eq, Heap.restored_eq]
  refine congrArg (fun regions ↦ { heap with regions }) (List.map_congr_left fun array harray ↦ ?_)
  have hreplay := Journal.replay_perm hapart (fits_of_shape_eq (hshapes array harray) hfits) hperm
  exact congrArg (fun cells ↦ (array.1, { array.2 with cells })) hreplay

end HasShapes

/-- Whatever was recorded, and in any heap whose arrays have the shapes that they had then, though
some may have been freed since, the entries of a journal may be put back in any order. -/
theorem restored_in_any_order {shape : Nat → CellShape} {journal : Journal}
    (harises : Journal.Arises shape journal) {heap : Heap} (hshapes : heap.HasShapes shape)
    {order : List JournalEntry} (horder : journal.entries.Perm order) :
    heap.PutsBack journal order := by
  obtain ⟨hapart, hfits⟩ := harises.apart_and_fits
  have horderFits : ∀ entry ∈ order, entry.image.FitsAt entry.start (shape entry.region) :=
    fun entry hentry ↦ hfits entry (horder.mem_iff.mpr hentry)
  have hsame := hshapes.restored_perm hapart hfits horder
  constructor
  case restored_eq => exact hsame.symm
  case rollBack_eq =>
    rw [Heap.rollBack_eq, Heap.rollBack_eq, hsame]
  case dead =>
    intro id hdead
    rw [find?_restored, hdead]
    rfl
  case live =>
    intro id former hformer
    have hformerFits := fits_of_shape_eq (hshapes.shape_eq hformer) hfits
    obtain ⟨hshape, hcell⟩ := Journal.replay_spec hformerFits
    refine ⟨_, ?_, hshape, ?_, ?_⟩
    · rw [← hsame, find?_restored, hformer]
      rfl
    · intro entry hentry position hcovered
      obtain ⟨cell, himage⟩ := Option.isSome_iff_exists.mp
        ((entry.isSome_cell?_iff id position).mpr hcovered)
      rw [hcell, himage, (Journal.imageIn_eq_some_iff hapart).mpr ⟨entry, hentry, himage⟩,
        Option.some_or]
    · intro position huncovered
      rw [hcell, (Journal.imageIn_eq_none_iff _ _ _).mpr huncovered, Option.none_or]
  case fits =>
    rintro later entry earlier rfl region hfind
    have hearlier := hshapes.restored fun other hother ↦
      horderFits other (List.mem_append_right later (List.mem_cons_of_mem entry hother))
    rw [hearlier.shape_eq hfind]
    exact horderFits entry (List.mem_append_right later List.mem_cons_self)

/-- Bytes, references and bytes of an array freed since are recorded, and then two entries of the
first array are merged behind those of the others. Put back the other way round, all images land. -/
theorem restored_in_any_order_merged :
    let card : ContextId := ⟨1⟩
    let shape : Nat → CellShape := fun id ↦ if id = 2 then ⟨true, 3⟩ else ⟨false, 8⟩
    let links : JournalEntry := ⟨2, 1, .references (.replicate 1 none)⟩
    let freed : JournalEntry := ⟨3, 4, .bytes (.replicate 2 0)⟩
    let merged : JournalEntry := ⟨1, 0, .bytes (.replicate 7 0)⟩
    let journal : Journal := ⟨[links, freed, merged], [], 11, 16⟩
    let heap : Heap := ⟨
      [(2, ⟨card, .persistent, .object, 3, .references (.ofList [none, some ⟨1, card⟩, none]), []⟩),
        (1, ⟨card, .persistent, .byte, 8, .bytes (.ofList [7, 7, 5, 5, 5, 9, 9, 3]), []⟩)],
      4, ⟨64, 64, 64⟩, ⟨14, 0, 0⟩⟩
    let order := [merged, freed, links]
    Journal.Arises shape journal ∧ heap.HasShapes shape ∧ journal.entries.Perm order ∧
      heap.PutsBack journal order ∧
      ((heap.restored order).find? 1).map (·.cells) =
        some (.bytes (.ofList [0, 0, 0, 0, 0, 0, 0, 3])) ∧
      ((heap.restored order).find? 2).map (·.cells) = some (.references (.replicate 3 none)) := by
  intro card shape links freed merged journal heap order
  let blank : Cells := .bytes (.replicate 8 0)
  have hstart : Journal.Arises shape (.empty 16) := .empty 16
  have hfirst : Journal.Arises shape ⟨[⟨1, 0, .bytes (.replicate 2 0)⟩], [], 2, 16⟩ :=
    @Journal.Arises.record shape _ _ 1 0 2 blank hstart rfl (by decide) (by decide +kernel)
  have hlinks : Journal.Arises shape
      ⟨[⟨1, 0, .bytes (.replicate 2 0)⟩, links], [], 4, 16⟩ :=
    @Journal.Arises.record shape _ _ 2 1 1 (.references (.replicate 3 none)) hfirst rfl (by decide)
      (by decide +kernel)
  have hfreed : Journal.Arises shape
      ⟨[⟨1, 0, .bytes (.replicate 2 0)⟩, links, freed], [], 6, 16⟩ :=
    @Journal.Arises.record shape _ _ 3 4 2 blank hlinks rfl (by decide) (by decide +kernel)
  have hsecond : Journal.Arises shape
      ⟨[⟨1, 0, .bytes (.replicate 2 0)⟩, links, freed, ⟨1, 5, .bytes (.replicate 2 0)⟩], [], 8,
        16⟩ :=
    @Journal.Arises.record shape _ _ 1 5 2 blank hfreed rfl (by decide) (by decide +kernel)
  have hmerged : Journal.Arises shape journal :=
    @Journal.Arises.record shape _ _ 1 2 3 (.bytes (.ofList [7, 7, 0, 0, 0, 9, 9, 0])) hsecond rfl
      (by decide) (by decide +kernel)
  have hshapes : heap.HasShapes shape := by
    unfold HasShapes
    decide +kernel
  have horder : journal.entries.Perm order := (List.reverse_perm journal.entries).symm
  exact ⟨hmerged, hshapes, horder, restored_in_any_order hmerged hshapes horder,
    by decide +kernel, by decide +kernel⟩

end Heap

end SmartCard
