import Mathlib.Data.List.GetD
import SmartCard.Proofs.Memory.Write

/-!
# Elements

Whoever uses an array sees elements of its kind (`Region.typed`), not the cells that keep them. An
element of blank cells is blank (`Cells.IsBlank.element_eq`). A write puts its elements at their
indices and leaves every other element alone (`Cells.element_overlay`), also where an element takes
two cells, and reading a range of bytes reads its elements one after another
(`Cells.elements_slice`).
-/

set_option autoImplicit false
set_option relaxedAutoImplicit false

namespace SmartCard

/-- What an element holds, whatever its kind. -/
inductive Element where
  | byte (value : UInt8)
  | short (value : Int16)
  | boolean (value : Bool)
  | reference (value : Option ArrayRef)
  deriving DecidableEq, Repr

namespace Element

/-- The element that holds a value of a kind. -/
def of : (kind : ElementKind) → kind.Value → Element
  | .byte, (value : UInt8) => .byte value
  | .short, (value : Int16) => .short value
  | .boolean, (value : Bool) => .boolean value
  | .object, (value : Option ArrayRef) => .reference value

/-- Zero, false, or no reference. -/
def blank : ElementKind → Element
  | .byte => .byte 0
  | .short => .short 0
  | .boolean => .boolean false
  | .object => .reference none

/-- Elements of one kind tell their values apart. -/
theorem of_injective (kind : ElementKind) : Function.Injective (of kind) := by
  intro first second hsame
  cases kind with
  | byte => exact Element.byte.inj hsame
  | short => exact Element.short.inj hsame
  | boolean => exact Element.boolean.inj hsame
  | object => exact Element.reference.inj hsame

end Element

namespace Cells

/-- The element at an index of cells that hold elements of a kind. -/
def element (cells : Cells) (kind : ElementKind) (index : Nat) : Element :=
  .of kind (kind.decode (cells.slice (index * kind.cellWidth) kind.cellWidth))

/-! ### Blank elements -/

theorem isBlank_zeroed (kind : ElementKind) (count : Nat) : (zeroed kind count).IsBlank := by
  have hcleared : zeroed kind count = (zeroed kind count).cleared := by
    cases kind <;> simp only [zeroed, cleared, ← Runs.length_toList, Runs.toList_replicate,
      List.length_replicate]
  rw [hcleared]
  exact isBlank_cleared _

theorem IsBlank.slice {cells : Cells} (hblank : cells.IsBlank) (start length : Nat) :
    (cells.slice start length).IsBlank := by
  intro position cell hcell
  rw [cell?_slice] at hcell
  split at hcell
  · exact hblank _ _ hcell
  · cases hcell

theorem IsBlank.getD_toBytes {cells : Cells} (hblank : cells.IsBlank) (position : Nat) :
    cells.toBytes.getD position 0 = 0 := by
  cases cells with
  | references contents => rfl
  | bytes contents =>
    cases hvalue : contents.toList[position]? with
    | none => rw [toBytes, List.getD_eq_getElem?_getD, hvalue, Option.getD_none]
    | some value =>
      have hcell := hblank position (.byte value) (congrArg (Option.map Cell.byte) hvalue)
      rw [toBytes, List.getD_eq_getElem?_getD, hvalue, Option.getD_some]
      exact hcell.elim Cell.byte.inj Cell.noConfusion

theorem IsBlank.getD_toReferences {cells : Cells} (hblank : cells.IsBlank) (position : Nat) :
    cells.toReferences.getD position none = none := by
  cases cells with
  | bytes contents => rfl
  | references contents =>
    cases hvalue : contents.toList[position]? with
    | none => rw [toReferences, List.getD_eq_getElem?_getD, hvalue, Option.getD_none]
    | some value =>
      have hcell := hblank position (.reference value) (congrArg (Option.map Cell.reference) hvalue)
      rw [toReferences, List.getD_eq_getElem?_getD, hvalue, Option.getD_some]
      exact hcell.elim Cell.noConfusion Cell.reference.inj

/-- Blank cells hold blank elements. -/
theorem IsBlank.element_eq {cells : Cells} (hblank : cells.IsBlank) (kind : ElementKind)
    (index : Nat) : cells.element kind index = .blank kind := by
  have hslice := hblank.slice (index * kind.cellWidth) kind.cellWidth
  unfold element
  cases kind with
  | byte => exact congrArg Element.byte (hslice.getD_toBytes 0)
  | short =>
    refine congrArg Element.short ?_
    rw [ElementKind.decode, hslice.getD_toBytes 0, hslice.getD_toBytes 1]
    rfl
  | boolean =>
    refine congrArg Element.boolean ?_
    rw [ElementKind.decode, hslice.getD_toBytes 0]
    rfl
  | object => exact congrArg Element.reference (hslice.getD_toReferences 0)

/-! ### Elements written -/

/-- Reading a range does not change the sort of the cells. -/
theorem holdsReferences_slice (cells : Cells) (start length : Nat) :
    (cells.slice start length).shape.holdsReferences = cells.shape.holdsReferences := by
  cases cells <;> rfl

section Overlay

variable {patch cells : Cells} {start : Nat}

/-- A range beside the one written is read as before. -/
theorem slice_overlay_of_apart (hfits : patch.FitsAt start cells.shape) {first length : Nat}
    (hapart : first + length ≤ start ∨ start + patch.size ≤ first) :
    (patch.overlay start cells).slice first length = cells.slice first length := by
  refine ext_cell? ?_ fun position ↦ ?_
  · rw [holdsReferences_slice, holdsReferences_slice, shape_overlay hfits]
  · rw [cell?_slice, cell?_slice, cell?_overlay hfits]
    by_cases hposition : position < length
    · have hbeside : ¬(start ≤ first + position ∧ first + position < start + patch.size) := by
        omega
      rw [if_pos hposition, if_pos hposition, if_neg hbeside]
    · rw [if_neg hposition, if_neg hposition]

/-- A range inside the one written is read as it was written. -/
theorem slice_overlay_of_inside (hfits : patch.FitsAt start cells.shape) {first length : Nat}
    (hinside : first + length ≤ patch.size) :
    (patch.overlay start cells).slice (start + first) length = patch.slice first length := by
  refine ext_cell? ?_ fun position ↦ ?_
  · rw [holdsReferences_slice, holdsReferences_slice, shape_overlay hfits, hfits.1]
  · rw [cell?_slice, cell?_slice, cell?_overlay hfits]
    by_cases hposition : position < length
    · have hwritten : start ≤ start + first + position ∧
          start + first + position < start + patch.size := by omega
      rw [if_pos hposition, if_pos hposition, if_pos hwritten]
      congr 1
      omega
    · rw [if_neg hposition, if_neg hposition]

end Overlay

/-- All cells are read by reading as many as there are. -/
theorem slice_zero_size (cells : Cells) : cells.slice 0 cells.size = cells := by
  refine ext_cell? (holdsReferences_slice cells 0 cells.size) fun position ↦ ?_
  rw [cell?_slice, Nat.zero_add]
  by_cases hposition : position < cells.size
  · exact if_pos hposition
  · rw [if_neg hposition]
    exact ((cell?_eq_none_iff cells position).mpr (Nat.not_lt.mp hposition)).symm

theorem element_encode (kind : ElementKind) (value : kind.Value) :
    (kind.encode value).element kind 0 = .of kind value := by
  have hslice : (kind.encode value).slice 0 kind.cellWidth = kind.encode value := by
    have hall := slice_zero_size (kind.encode value)
    rwa [ElementKind.size_encode] at hall
  rw [element, Nat.zero_mul, hslice, ElementKind.decode_encode]

/-- Bytes are elements one by one. -/
theorem element_bytes (contents : Runs UInt8) (index : Nat) :
    (Cells.bytes contents).element .byte index = .byte (contents.toList.getD index 0) := by
  refine congrArg Element.byte ?_
  change ((contents.segment (index * 1) 1).toList.getD 0 0) = contents.toList.getD index 0
  rw [Runs.toList_segment, Nat.mul_one, List.getD_eq_getElem?_getD, List.getD_eq_getElem?_getD,
    segment, List.getElem?_take, if_pos Nat.one_pos, List.getElem?_drop, Nat.add_zero]

/-- A range of bytes is read element by element. -/
theorem elements_slice {cells : Cells} (hbytes : cells.shape.holdsReferences = false)
    {offset length : Nat} (hrange : offset + length ≤ cells.size) :
    (cells.slice offset length).toBytes.map Element.byte =
      (List.range length).map fun index ↦ cells.element .byte (offset + index) := by
  cases cells with
  | references contents => cases hbytes
  | bytes contents =>
    have hlength : (contents.segment offset length).toList.length = length := by
      rw [Runs.toList_segment, length_segment]
      rwa [Runs.length_toList]
    change (contents.segment offset length).toList.map Element.byte = _
    refine List.ext_getElem ?_ fun index hindex _ ↦ ?_
    · rw [List.length_map, List.length_map, List.length_range, hlength]
    · rw [List.length_map, hlength] at hindex
      have hinside : offset + index < contents.toList.length := by
        have hsize : offset + length ≤ contents.length := hrange
        rw [Runs.length_toList]
        omega
      rw [List.getElem_map, List.getElem_map, List.getElem_range, element_bytes,
        List.getD_eq_getElem _ _ hinside]
      refine congrArg Element.byte ?_
      simp only [Runs.toList_segment, segment, List.getElem_take, List.getElem_drop]

end Cells

namespace Write

/-- The element that a write puts at an index, if it puts one there. -/
def element? : Write → Nat → Option Element
  | .element _ kind place value, index => if index = place then some (.of kind value) else none
  | .bytes _ offset values, index =>
    if offset ≤ index then values[index - offset]?.map Element.byte else none
  | .fill _ offset length value, index =>
    if offset ≤ index ∧ index < offset + length then some (.byte value) else none

section Elements

variable {write : Write} {index : Nat}

/-- A write puts its elements at the indices that it names. -/
theorem element?_of_inside (hlow : write.index ≤ index)
    (hhigh : index < write.index + write.count) :
    write.element? index = some (write.patch.element write.kind (index - write.index)) := by
  cases write with
  | element array kind place value =>
    obtain rfl : index = place := Nat.le_antisymm (Nat.le_of_lt_succ hhigh) hlow
    change (if index = index then some (Element.of kind value) else none) =
      some ((kind.encode value).element kind (index - index))
    rw [if_pos rfl, Nat.sub_self, Cells.element_encode]
  | bytes array offset values =>
    change offset ≤ index at hlow
    change index < offset + values.length at hhigh
    have hinside : index - offset < values.length := by omega
    change (if offset ≤ index then values[index - offset]?.map Element.byte else none) =
      some ((Cells.bytes (.ofList values)).element .byte (index - offset))
    rw [if_pos hlow, Cells.element_bytes, Runs.toList_ofList, List.getD_eq_getElem _ _ hinside,
      List.getElem?_eq_getElem hinside, Option.map_some]
  | fill array offset length value =>
    change offset ≤ index at hlow
    change index < offset + length at hhigh
    change (if offset ≤ index ∧ index < offset + length then some (Element.byte value) else none) =
      some ((Cells.bytes (.replicate length value)).element .byte (index - offset))
    have hinside : index - offset < (List.replicate length value).length := by
      rw [List.length_replicate]
      omega
    rw [if_pos ⟨hlow, hhigh⟩, Cells.element_bytes, Runs.toList_replicate,
      List.getD_eq_getElem _ _ hinside, List.getElem_replicate]

/-- It puts none anywhere else. -/
theorem element?_of_outside (hbeside : index < write.index ∨ write.index + write.count ≤ index) :
    write.element? index = none := by
  cases write with
  | element array kind place value =>
    change index < place ∨ place + 1 ≤ index at hbeside
    exact if_neg (by omega)
  | bytes array offset values =>
    change index < offset ∨ offset + values.length ≤ index at hbeside
    change (if offset ≤ index then values[index - offset]?.map Element.byte else none) = none
    by_cases hlow : offset ≤ index
    · rw [if_pos hlow, List.getElem?_eq_none (by omega), Option.map_none]
    · exact if_neg hlow
  | fill array offset length value =>
    change index < offset ∨ offset + length ≤ index at hbeside
    exact if_neg (by omega)

/-- A write of nothing puts nothing anywhere. -/
theorem element?_of_empty (hempty : write.count = 0) (index : Nat) : write.element? index = none :=
  element?_of_outside (by omega)

end Elements

end Write

/-- A write puts its elements where they belong and leaves every other element alone. -/
theorem Cells.element_overlay {write : Write} {cells : Cells}
    (hfits : write.patch.FitsAt write.start cells.shape) (index : Nat) :
    (write.patch.overlay write.start cells).element write.kind index =
      (write.element? index).getD (cells.element write.kind index) := by
  have hsize := write.size_patch
  by_cases hinside : write.index ≤ index ∧ index < write.index + write.count
  · obtain ⟨first, rfl⟩ := Nat.exists_eq_add_of_le hinside.1
    have hroom : first * write.kind.cellWidth + write.kind.cellWidth ≤ write.patch.size := by
      rw [hsize, ← Nat.succ_mul]
      exact Nat.mul_le_mul_right _ (by omega)
    rw [Write.element?_of_inside hinside.1 hinside.2, Option.getD_some, Nat.add_sub_cancel_left,
      element, element, Nat.add_mul]
    exact congrArg _ (congrArg _ (slice_overlay_of_inside hfits hroom))
  · have hbeside : index < write.index ∨ write.index + write.count ≤ index := by omega
    have hapart : index * write.kind.cellWidth + write.kind.cellWidth ≤ write.start ∨
        write.start + write.patch.size ≤ index * write.kind.cellWidth := by
      rw [hsize, Write.start, ← Nat.succ_mul, ← Nat.add_mul]
      exact hbeside.imp (fun hlow ↦ Nat.mul_le_mul_right _ hlow)
        fun hhigh ↦ Nat.mul_le_mul_right _ hhigh
    rw [Write.element?_of_outside hbeside, Option.getD_none, element, element,
      slice_overlay_of_apart hfits hapart]

/-! ### Arrays of elements -/

/-- An array as whoever uses it sees it. -/
structure TypedArray where
  owner : ContextId
  lifetime : Lifetime
  kind : ElementKind
  length : Nat
  element : Nat → Element

namespace TypedArray

/-- A fresh array, with every element blank. -/
def fresh (owner : ContextId) (lifetime : Lifetime) (kind : ElementKind) (length : Nat) :
    TypedArray :=
  ⟨owner, lifetime, kind, length, fun _ ↦ .blank kind⟩

/-- The array with every element blank. -/
def cleared (array : TypedArray) : TypedArray :=
  { array with element := fun _ ↦ .blank array.kind }

/-- The array with the elements of a write put where they belong. -/
def written (array : TypedArray) (write : Write) : TypedArray :=
  { array with element := fun index ↦ (write.element? index).getD (array.element index) }

end TypedArray

namespace Region

/-- What whoever uses an array sees of it. -/
def typed (region : Region) : TypedArray :=
  ⟨region.owner, region.lifetime, region.kind, region.length, region.cells.element region.kind⟩

/-- Who may use an array does not show in it. -/
theorem typed_congr {first second : Region} (horiginal : first.original = second.original)
    (hcells : first.cells = second.cells) : first.typed = second.typed := by
  obtain ⟨howner, hlifetime, hkind, hlength⟩ := eq_of_original_eq horiginal
  rw [typed, typed, howner, hlifetime, hkind, hlength, hcells]

theorem typed_fresh (owner : ContextId) (lifetime : Lifetime) (kind : ElementKind) (length : Nat) :
    (fresh owner lifetime kind length).typed = .fresh owner lifetime kind length :=
  congrArg (TypedArray.mk owner lifetime kind length)
    (funext fun index ↦ (Cells.isBlank_zeroed kind _).element_eq kind index)

theorem typed_cleared (region : Region) :
    { region with cells := region.cells.cleared }.typed = region.typed.cleared :=
  congrArg (TypedArray.mk region.owner region.lifetime region.kind region.length)
    (funext fun index ↦ (Cells.isBlank_cleared region.cells).element_eq region.kind index)

theorem typed_written {region : Region} {write : Write} (hkind : region.kind = write.kind)
    (hfits : write.patch.FitsAt write.start region.cells.shape) :
    { region with cells := write.patch.overlay write.start region.cells }.typed =
      region.typed.written write := by
  refine congrArg (TypedArray.mk region.owner region.lifetime region.kind region.length)
    (funext fun index ↦ ?_)
  change (write.patch.overlay write.start region.cells).element region.kind index =
    (write.element? index).getD (region.cells.element region.kind index)
  rw [hkind]
  exact Cells.element_overlay hfits index

end Region

end SmartCard
