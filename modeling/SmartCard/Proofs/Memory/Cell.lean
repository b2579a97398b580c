import SmartCard.Memory.Cells

/-!
# Cells one by one

Statements about the contents of arrays are made cell by cell. `Cells.cell?` is what one position
holds, and the shape of some cells is their sort and their number. Cells of one sort that agree at
every position are the same (`Cells.ext_cell?`). Reading a range and writing over one are described
at every position (`Cells.cell?_slice`, `Cells.cell?_overlay`), and neither clearing nor writing
inside the range changes the shape.
-/

set_option autoImplicit false
set_option relaxedAutoImplicit false

namespace SmartCard

/-- What one cell holds. -/
inductive Cell where
  | byte (value : UInt8)
  | reference (value : Option ArrayRef)
  deriving DecidableEq, Repr

/-- The sort of some cells, and how many there are. -/
structure CellShape where
  holdsReferences : Bool
  size : Nat
  deriving DecidableEq, Repr

/-- The bytes of commit buffer that one cell of a shape needs. -/
def CellShape.cellCost (shape : CellShape) : Nat :=
  if shape.holdsReferences then ElementKind.object.elementSize else 1

/-- The shape of `length` elements of a kind. -/
def ElementKind.cellShape (kind : ElementKind) (length : Nat) : CellShape :=
  ⟨kind == .object, length * kind.cellWidth⟩

/-- A number is read where its bytes stand. -/
theorem ElementKind.decode_short_of_toBytes {cells : Cells} {value : Int16}
    (hbytes : cells.toBytes = (ElementKind.short.encode value).toBytes) :
    ElementKind.short.decode cells = value := by
  rw [← ElementKind.decode_encode .short value, ElementKind.decode, ElementKind.decode, hbytes]

namespace Cells

/-- The sort and the number of cells. -/
def shape : Cells → CellShape
  | .bytes contents => ⟨false, contents.length⟩
  | .references contents => ⟨true, contents.length⟩

/-- What a position holds, if there is one. -/
def cell? (cells : Cells) (position : Nat) : Option Cell :=
  match cells with
  | .bytes contents => contents.toList[position]?.map Cell.byte
  | .references contents => contents.toList[position]?.map Cell.reference

/-- Whether cells from `start` on lie inside an array of some shape and are of its sort. -/
def FitsAt (patch : Cells) (start : Nat) (shape : CellShape) : Prop :=
  patch.shape.holdsReferences = shape.holdsReferences ∧ start + patch.size ≤ shape.size

/-- Cells that fit cost as much each as those they go over. -/
theorem FitsAt.cellCost_eq {patch : Cells} {start : Nat} {shape : CellShape}
    (hfits : patch.FitsAt start shape) : patch.shape.cellCost = shape.cellCost := by
  rw [CellShape.cellCost, CellShape.cellCost, hfits.1]

@[simp]
theorem size_shape (cells : Cells) : cells.shape.size = cells.size := by
  cases cells <;> rfl

/-- Every cell costs what its sort costs. -/
theorem footprint_eq (cells : Cells) : cells.footprint = cells.size * cells.shape.cellCost := by
  cases cells with
  | bytes contents => exact (Nat.mul_one _).symm
  | references contents => rfl

/-- The positions that hold something are those below the size. -/
theorem isSome_cell?_iff (cells : Cells) (position : Nat) :
    (cells.cell? position).isSome ↔ position < cells.size := by
  cases cells <;> simp [cell?, size, Runs.length_toList]

/-- A position holds nothing just when it lies behind the end. -/
theorem cell?_eq_none_iff (cells : Cells) (position : Nat) :
    cells.cell? position = none ↔ cells.size ≤ position := by
  rw [← Option.not_isSome_iff_eq_none, isSome_cell?_iff, Nat.not_lt]

/-- Cells of one sort that agree at every position are the same. -/
theorem ext_cell? {first second : Cells}
    (hsort : first.shape.holdsReferences = second.shape.holdsReferences)
    (hcell : ∀ position, first.cell? position = second.cell? position) : first = second := by
  cases first with
  | bytes contents =>
    cases second with
    | bytes others =>
      refine congrArg Cells.bytes (Runs.toList_injective (List.ext_getElem? fun position ↦ ?_))
      exact Option.map_injective (fun _ _ h ↦ Cell.byte.inj h) (hcell position)
    | references others => exact Bool.noConfusion hsort
  | references contents =>
    cases second with
    | bytes others => exact Bool.noConfusion hsort
    | references others =>
      refine congrArg Cells.references
        (Runs.toList_injective (List.ext_getElem? fun position ↦ ?_))
      exact Option.map_injective (fun _ _ h ↦ Cell.reference.inj h) (hcell position)

/-! ### Reading a range -/

/-- A range inside is of the same sort and has the size asked for. -/
theorem shape_slice {cells : Cells} {start length : Nat} (hrange : start + length ≤ cells.size) :
    (cells.slice start length).shape = ⟨cells.shape.holdsReferences, length⟩ := by
  cases cells with
  | bytes contents =>
    change CellShape.mk false (contents.segment start length).length = ⟨false, length⟩
    rw [← Runs.length_toList, Runs.toList_segment, length_segment]
    rwa [Runs.length_toList]
  | references contents =>
    change CellShape.mk true (contents.segment start length).length = ⟨true, length⟩
    rw [← Runs.length_toList, Runs.toList_segment, length_segment]
    rwa [Runs.length_toList]

/-- A range read holds what its positions held. -/
theorem cell?_slice (cells : Cells) (start length position : Nat) :
    (cells.slice start length).cell? position =
      if position < length then cells.cell? (start + position) else none := by
  cases cells <;> simp only [slice, cell?, Runs.toList_segment, segment, List.getElem?_take,
    List.getElem?_drop] <;> split <;> rfl

/-! ### Writing over a range -/

/-- Writing over a run, position by position. -/
private theorem getElem?_runs_overwrite {α : Type} [DecidableEq α] {contents patch : Runs α}
    {start : Nat} (hrange : start + patch.length ≤ contents.length) (position : Nat) :
    (contents.overwrite start patch).toList[position]? =
      if start ≤ position ∧ position < start + patch.length then patch.toList[position - start]?
      else contents.toList[position]? := by
  rw [Runs.toList_overwrite, getElem?_overwrite, Runs.length_toList]
  rwa [Runs.length_toList, Runs.length_toList]

/-- Writing over a range inside keeps sort and number. -/
theorem shape_overlay {patch cells : Cells} {start : Nat} (hfits : patch.FitsAt start cells.shape) :
    (patch.overlay start cells).shape = cells.shape := by
  cases patch with
  | bytes new =>
    cases cells with
    | bytes contents => exact congrArg (CellShape.mk false) (Runs.length_overwrite hfits.2)
    | references contents => rfl
  | references new =>
    cases cells with
    | bytes contents => rfl
    | references contents => exact congrArg (CellShape.mk true) (Runs.length_overwrite hfits.2)

/-- After writing over a range, its positions hold the new cells and all others what they held
before. -/
theorem cell?_overlay {patch cells : Cells} {start : Nat} (hfits : patch.FitsAt start cells.shape)
    (position : Nat) :
    (patch.overlay start cells).cell? position =
      if start ≤ position ∧ position < start + patch.size then patch.cell? (position - start)
      else cells.cell? position := by
  obtain ⟨hsort, hrange⟩ := hfits
  cases patch with
  | bytes new =>
    cases cells with
    | bytes contents =>
      simp only [overlay, cell?, size, getElem?_runs_overwrite hrange]
      exact apply_ite (Option.map Cell.byte) _ _ _
    | references contents => exact Bool.noConfusion hsort
  | references new =>
    cases cells with
    | bytes contents => exact Bool.noConfusion hsort
    | references contents =>
      simp only [overlay, cell?, size, getElem?_runs_overwrite hrange]
      exact apply_ite (Option.map Cell.reference) _ _ _

/-! ### The shapes that operations make -/

/-- Clearing keeps sort and number. -/
theorem shape_cleared (cells : Cells) : cells.cleared.shape = cells.shape := by
  cases cells <;>
    simp only [cleared, shape, ← Runs.length_toList, Runs.toList_replicate, List.length_replicate]

/-- A fresh array has the shape of its elements. -/
theorem shape_zeroed (kind : ElementKind) (length : Nat) :
    (zeroed kind (length * kind.cellWidth)).shape = kind.cellShape length := by
  cases kind <;>
    simp only [zeroed, shape, ElementKind.cellShape, ← Runs.length_toList, Runs.toList_replicate,
      List.length_replicate] <;> rfl

/-- The cells of an element have the shape of one element. -/
theorem shape_encode (kind : ElementKind) (value : kind.Value) :
    (kind.encode value).shape = kind.cellShape 1 := by
  have hsize := ElementKind.size_encode kind value
  cases kind <;> exact congrArg (CellShape.mk _) (hsize.trans (Nat.one_mul _).symm)

/-! ### Blank cells -/

/-- Whether all cells are zero or empty. -/
def IsBlank (cells : Cells) : Prop :=
  ∀ position cell, cells.cell? position = some cell → cell = .byte 0 ∨ cell = .reference none

theorem isBlank_cleared (cells : Cells) : cells.cleared.IsBlank := by
  intro position cell hcell
  cases cells with
  | bytes contents =>
    rw [cleared, cell?, Runs.toList_replicate, Option.map_eq_some_iff] at hcell
    obtain ⟨value, hvalue, rfl⟩ := hcell
    exact .inl (congrArg Cell.byte (List.eq_of_mem_replicate (List.mem_of_getElem? hvalue)))
  | references contents =>
    rw [cleared, cell?, Runs.toList_replicate, Option.map_eq_some_iff] at hcell
    obtain ⟨value, hvalue, rfl⟩ := hcell
    exact .inr (congrArg Cell.reference (List.eq_of_mem_replicate (List.mem_of_getElem? hvalue)))

end Cells

end SmartCard
