import SmartCard.Memory.Cells
import SmartCard.Transaction.Error

/-!
# The journal

The journal keeps what persistent cells held before a transaction first wrote to them, and which
arrays the transaction allocated. Entries of one region never overlap or touch: recording a range
that meets earlier entries replaces them by one entry for the union, which keeps the images already
taken and adds only cells that had none. The bytes of all images together never exceed the
capacity; a recording that would exceed it changes nothing.
-/

set_option autoImplicit false
set_option relaxedAutoImplicit false

namespace SmartCard

/-- What the cells of a region from `start` on held before they were written to. -/
structure JournalEntry where
  region : Nat
  start : Nat
  image : Cells
  deriving DecidableEq, Repr

namespace JournalEntry

/-- One past the last cell of an entry. -/
def stop (entry : JournalEntry) : Nat :=
  entry.start + entry.image.size

/-- Whether an entry overlaps or touches the cells of a region from `start` up to `stop`. -/
def meets (entry : JournalEntry) (region start stop : Nat) : Bool :=
  entry.region == region && entry.start ≤ stop && start ≤ entry.stop

end JournalEntry

structure Journal where
  /-- The entries, the one recorded last at the end. -/
  entries : List JournalEntry
  /-- The arrays allocated, the latest at the end. -/
  allocations : List Nat
  /-- The bytes of all images. -/
  used : Nat
  capacity : Nat
  deriving DecidableEq, Repr

namespace Journal

/-- The journal with nothing recorded. -/
def empty (capacity : Nat) : Journal :=
  ⟨[], [], 0, capacity⟩

/-- The bytes that further images may take. -/
def remaining (journal : Journal) : Nat :=
  journal.capacity - journal.used

/-- Whether nothing is recorded. -/
def isEmpty (journal : Journal) : Bool :=
  journal.entries.isEmpty && journal.allocations.isEmpty

/-- The entry for the union of a range and of the entries that meet it. `current` holds the
region's cells as they are; the images already taken win over them. -/
def merged (region start stop : Nat) (current : Cells) (met : List JournalEntry) : JournalEntry :=
  let low := met.foldl (fun low entry ↦ min low entry.start) start
  let high := met.foldl (fun high entry ↦ max high entry.stop) stop
  let image := met.foldl (fun image entry ↦ entry.image.overlay (entry.start - low) image)
    (current.slice low (high - low))
  ⟨region, low, image⟩

/-- Whether one of the entries met has all cells of a range by itself. -/
def isCovered (start stop : Nat) : List JournalEntry → Bool
  | [only] => only.start ≤ start && stop ≤ only.stop
  | _ => false

/-- The bytes of the images of some entries. -/
def bytesOf (entries : List JournalEntry) : Nat :=
  entries.foldr (fun entry total ↦ entry.image.footprint + total) 0

/-- Records `length` cells of a region from `start` on, where `current` holds all cells of the
region as they are. -/
def record (journal : Journal) (region start length : Nat) (current : Cells) :
    Except TransactionError Journal :=
  let stop := start + length
  let met := journal.entries.filter (·.meets region start stop)
  if length = 0 ∨ isCovered start stop met then .ok journal
  else
    let entry := merged region start stop current met
    let needed := entry.image.footprint - bytesOf met
    if journal.remaining < needed then .error (.bufferFull needed journal.remaining)
    else .ok { journal with
      entries := journal.entries.filter (!·.meets region start stop) ++ [entry]
      used := journal.used + needed }

/-- Notes an array allocated. -/
def recordAllocation (journal : Journal) (region : Nat) : Journal :=
  { journal with allocations := journal.allocations ++ [region] }

/-- Forgets everything recorded. -/
def clear (journal : Journal) : Journal :=
  empty journal.capacity

end Journal

end SmartCard
