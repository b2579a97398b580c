import SmartCard.Memory.Kind
import SmartCard.Runs

/-!
# Cells

The contents of an array are kept in cells, which are bytes or, for arrays of objects, references.
Most cells of a long array are alike, so they are kept as runs. A short takes two byte cells, the
high one first. `decode_encode` says that an element is read
back from its cells.
-/

set_option autoImplicit false
set_option relaxedAutoImplicit false

namespace SmartCard

inductive Cells where
  | bytes (contents : Runs UInt8)
  | references (contents : Runs (Option ArrayRef))
  deriving DecidableEq, Repr

namespace Cells

/-- How many cells there are. -/
def size : Cells → Nat
  | .bytes contents => contents.length
  | .references contents => contents.length

/-- How many bytes of commit buffer the cells need: one for a byte, two for a reference. -/
def footprint : Cells → Nat
  | .bytes contents => contents.length
  | .references contents => contents.length * ElementKind.object.elementSize

/-- The `length` cells from `start` on. -/
def slice (start length : Nat) : Cells → Cells
  | .bytes contents => .bytes (contents.segment start length)
  | .references contents => .references (contents.segment start length)

/-- The cells with those from `start` on replaced. Cells of the other sort replace nothing. -/
def overlay (start : Nat) (patch cells : Cells) : Cells :=
  match patch, cells with
  | .bytes new, .bytes contents => .bytes (contents.overwrite start new)
  | .references new, .references contents => .references (contents.overwrite start new)
  | _, cells => cells

/-- The same number of cells, all zero or empty. -/
def cleared : Cells → Cells
  | .bytes contents => .bytes (.replicate contents.length 0)
  | .references contents => .references (.replicate contents.length none)

/-- The given number of zero or empty cells, of the sort that a kind of elements needs. -/
def zeroed (kind : ElementKind) (count : Nat) : Cells :=
  match kind with
  | .object => .references (.replicate count none)
  | _ => .bytes (.replicate count 0)

/-- The cells behind the first `count`. -/
def drop (count : Nat) : Cells → Cells
  | .bytes contents => .bytes (contents.drop count)
  | .references contents => .references (contents.drop count)

/-- The byte cells; references have none. -/
def toBytes : Cells → List UInt8
  | .bytes contents => contents.toList
  | .references _ => []

/-- The reference cells; bytes have none. -/
def toReferences : Cells → List (Option ArrayRef)
  | .bytes _ => []
  | .references contents => contents.toList

end Cells

namespace ElementKind

/-- The cells of an element. -/
def encode : (kind : ElementKind) → kind.Value → Cells
  | .byte, (value : UInt8) => .bytes (.ofList [value])
  | .short, (value : Int16) =>
    .bytes (.ofList [(value.toUInt16 / 256).toUInt8, value.toUInt16.toUInt8])
  | .boolean, (value : Bool) => .bytes (.ofList [if value then 1 else 0])
  | .object, (value : Option ArrayRef) => .references (.ofList [value])

/-- The element that starts with the first of some cells. -/
def decode : (kind : ElementKind) → Cells → kind.Value
  | .byte, cells => (cells.toBytes.getD 0 0 : UInt8)
  | .short, cells =>
    ((cells.toBytes.getD 0 0).toUInt16 * 256 + (cells.toBytes.getD 1 0).toUInt16).toInt16
  | .boolean, cells => (cells.toBytes.getD 0 0 != 0 : Bool)
  | .object, cells => (cells.toReferences.getD 0 none : Option ArrayRef)

/-- The first `count` elements in some cells. -/
def decodeAll (kind : ElementKind) : (count : Nat) → Cells → List kind.Value
  | 0, _ => []
  | count + 1, cells =>
    kind.decode (cells.slice 0 kind.cellWidth) ::
      kind.decodeAll count (cells.drop kind.cellWidth)

/-- An element takes as many cells as its kind says. -/
theorem size_encode (kind : ElementKind) (value : kind.Value) :
    (kind.encode value).size = kind.cellWidth := by
  cases kind <;> exact Runs.length_ofList _

/-- A word is made of its high byte and its low byte. -/
theorem joined_bytes (word : UInt16) :
    (word / 256).toUInt8.toUInt16 * 256 + word.toUInt8.toUInt16 = word := by
  have hword := word.toNat_lt
  apply UInt16.toNat_inj.mp
  simp only [UInt16.toNat_add, UInt16.toNat_mul, UInt8.toNat_toUInt16, UInt16.toNat_toUInt8,
    UInt16.toNat_div, UInt16.reduceToNat]
  omega

/-- An element is read back from its cells. -/
theorem decode_encode (kind : ElementKind) (value : kind.Value) :
    kind.decode (kind.encode value) = value := by
  cases kind with
  | byte =>
    have hcells : (encode .byte value).toBytes = [(value : UInt8)] := Runs.toList_ofList _
    rw [decode, hcells]
    rfl
  | short =>
    have hcells : (encode .short value).toBytes =
        [(value.toUInt16 / 256).toUInt8, value.toUInt16.toUInt8] := Runs.toList_ofList _
    rw [decode, hcells]
    change ((value.toUInt16 / 256).toUInt8.toUInt16 * 256 +
      value.toUInt16.toUInt8.toUInt16).toInt16 = value
    rw [joined_bytes]
    rfl
  | boolean =>
    cases value with
    | false =>
      have hcells : (encode .boolean false).toBytes = [0] := Runs.toList_ofList _
      rw [decode, hcells]
      rfl
    | true =>
      have hcells : (encode .boolean true).toBytes = [1] := Runs.toList_ofList _
      rw [decode, hcells]
      rfl
  | object =>
    have hcells : (encode .object value).toReferences = [(value : Option ArrayRef)] :=
      Runs.toList_ofList _
    rw [decode, hcells]
    rfl

end ElementKind

end SmartCard
