import SmartCard.Memory.Cells

/-!
# Layout

How much room an array takes. Its cells are counted in words of 64 bits and lie in one block of
memory, and no block takes half of the address space. An array that breaks either limit cannot be
laid out (`layoutFault?`), and the code that asked for it crashes. An array that respects both has
a footprint far below the largest word (`footprint_lt`), so no count of its bytes overflows.
-/

set_option autoImplicit false
set_option relaxedAutoImplicit false

namespace SmartCard

/-- The number of words of 64 bits. -/
def wordCount : Nat := 0x10000000000000000

/-- The number of bytes that a block of memory stays below. -/
def blockLimit : Nat := 0x8000000000000000

namespace ElementKind

/-- How many bytes of memory a cell takes: a reference needs a number, an owner, and whether it is
there, each aligned. -/
def cellBytes : ElementKind → Nat
  | .object => 12
  | _ => 1

/-- The bytes that an array of some length is charged. -/
def footprint (kind : ElementKind) (length : Nat) : Nat :=
  length * kind.elementSize

end ElementKind

/-- Why an array cannot be laid out. -/
inductive LayoutFault where
  | tooManyCells
  | tooLargeBlock
  deriving DecidableEq, Repr

namespace LayoutFault

/-- The text of the crash. -/
def message : LayoutFault → String
  | .tooManyCells => "attempt to multiply with overflow"
  | .tooLargeBlock => "capacity overflow"

end LayoutFault

/-- What keeps an array from being laid out, if anything does. -/
def layoutFault? (kind : ElementKind) (length : Nat) : Option LayoutFault :=
  let count := length * kind.cellWidth
  if wordCount ≤ count then some .tooManyCells
  else if blockLimit ≤ count * kind.cellBytes then some .tooLargeBlock
  else none

/-- An array that can be laid out is charged fewer bytes than a block may have. -/
theorem footprint_lt {kind : ElementKind} {length : Nat}
    (hlayout : layoutFault? kind length = none) : kind.footprint length < blockLimit := by
  have hblock : length * kind.cellWidth * kind.cellBytes < blockLimit := by
    rw [layoutFault?] at hlayout
    by_cases hcount : wordCount ≤ length * kind.cellWidth
    · rw [if_pos hcount] at hlayout
      contradiction
    · by_cases hlarge : blockLimit ≤ length * kind.cellWidth * kind.cellBytes
      · rw [if_neg hcount, if_pos hlarge] at hlayout
        contradiction
      · exact Nat.lt_of_not_le hlarge
  have hsize : kind.elementSize ≤ kind.cellWidth * kind.cellBytes := by
    cases kind <;> decide
  calc kind.footprint length
      ≤ length * (kind.cellWidth * kind.cellBytes) := Nat.mul_le_mul_left length hsize
    _ = length * kind.cellWidth * kind.cellBytes := (Nat.mul_assoc _ _ _).symm
    _ < blockLimit := hblock

end SmartCard
