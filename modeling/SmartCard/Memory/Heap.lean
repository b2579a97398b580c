import SmartCard.Ending
import SmartCard.Memory.Error
import SmartCard.Memory.Layout
import SmartCard.Transaction.Journal

/-!
# The heap

The heap holds the live arrays with their owners, and counts for each lifetime the bytes in use
against a quota. Array numbers count up and are never used twice, so a handle to a dead array
stays dead. Every way of freeing arrays goes through `discard`, which returns their quota.

Byte counts are words of 64 bits. The charge of a request is the product of length and element
size, or the largest word if the product is none. Array numbers are words of 32 bits. A request
within the quota crashes if no number is left for its array or the array cannot be laid out
(`Heap.fault?`): it is counted among the arrays numbered, and nothing else changes.
-/

set_option autoImplicit false
set_option relaxedAutoImplicit false

namespace SmartCard

/-- A live array. -/
structure Region where
  owner : ContextId
  lifetime : Lifetime
  kind : ElementKind
  /-- The number of elements. -/
  length : Nat
  cells : Cells
  /-- The contexts besides the owner that may use the array. -/
  grants : List ContextId
  deriving DecidableEq, Repr

namespace Region

/-- A fresh array, all zero or empty, for its owner alone. -/
def fresh (owner : ContextId) (lifetime : Lifetime) (kind : ElementKind) (length : Nat) :
    Region where
  owner := owner
  lifetime := lifetime
  kind := kind
  length := length
  cells := .zeroed kind (length * kind.cellWidth)
  grants := []

/-- The bytes that an array is charged. -/
def footprint (region : Region) : Nat :=
  region.kind.footprint region.length

/-- Whether a context may use an array: the card itself, the owner, and whom it was granted. -/
def admits (region : Region) (caller : ContextId) : Bool :=
  caller.isSystem || caller == region.owner || region.grants.contains caller

/-- Refuses an access to `count` elements from `index` on that is not allowed: a caller outside,
the wrong kind, or a range that leaves the array, in this order. -/
def check (region : Region) (caller : ContextId) (expected : ElementKind) (index count : Nat) :
    Except MemoryError Unit :=
  if !region.admits caller then .error (.securityViolation caller region.owner)
  else if region.kind ≠ expected then .error (.kindMismatch region.kind expected)
  else if region.length < index + count then .error (.outOfBounds index count region.length)
  else .ok ()

end Region

structure Heap where
  /-- The live arrays under their numbers, the newest first. -/
  regions : List (Nat × Region)
  /-- The number of the next array, if there is one left for it. -/
  nextId : Nat
  quotas : PerLifetime
  used : PerLifetime
  deriving DecidableEq, Repr

namespace Heap

/-- No arrays. -/
def empty (quotas : PerLifetime) : Heap :=
  ⟨[], 1, quotas, ⟨0, 0, 0⟩⟩

/-- The live array with a number. -/
def find? (heap : Heap) (id : Nat) : Option Region :=
  heap.regions.lookup id

/-- Whether an array is live. -/
def isLive (heap : Heap) (id : Nat) : Bool :=
  (heap.find? id).isSome

/-- The live array with a number, or the error of a dead handle. -/
def lookup (heap : Heap) (id : Nat) : Except MemoryError Region :=
  match heap.find? id with
  | some region => .ok region
  | none => .error (.invalidHandle id)

/-- The bytes left of a quota. -/
def available (heap : Heap) (lifetime : Lifetime) : Nat :=
  heap.quotas.get lifetime - heap.used.get lifetime

/-- The arrays, each put through a function. -/
def mapRegions (heap : Heap) (change : Nat → Region → Region) : Heap :=
  { heap with regions := heap.regions.map fun entry ↦ (entry.1, change entry.1 entry.2) }

/-- One array put through a function; a dead one stays dead. -/
def modify (heap : Heap) (id : Nat) (change : Region → Region) : Heap :=
  heap.mapRegions fun other region ↦ if other = id then change region else region

/-! ### Allocation and release -/

/-- The charge of a request. -/
def charge (kind : ElementKind) (length : Nat) : Nat :=
  min (kind.footprint length) (wordCount - 1)

/-- The heap with one more array, which takes the next number. -/
def insert (heap : Heap) (region : Region) : Heap :=
  { heap with
    regions := (heap.nextId, region) :: heap.regions
    nextId := heap.nextId + 1
    used := .ofFn fun lifetime ↦
      if lifetime = region.lifetime then heap.used.get lifetime + region.footprint
      else heap.used.get lifetime }

/-- The number that no array takes, since the one behind it has more than 32 bits. A counter of 32
bits stops here; whether it does or counts the requests behind it makes no difference to them, since
each of them crashes. -/
def numberLimit : Nat := 0xFFFFFFFF

/-- What a request within the quota crashes with, if it does: no number is left for the array, or it
cannot be laid out. -/
def fault? (heap : Heap) (kind : ElementKind) (length : Nat) : Option String :=
  if numberLimit ≤ heap.nextId then some "attempt to add with overflow"
  else (layoutFault? kind length).map LayoutFault.message

theorem fault?_eq_none_iff {heap : Heap} {kind : ElementKind} {length : Nat} :
    heap.fault? kind length = none ↔
      heap.nextId < numberLimit ∧ layoutFault? kind length = none := by
  rw [fault?, ← Nat.not_le]
  split
  · exact iff_of_false (Option.some_ne_none _) fun hfits ↦ hfits.1 ‹_›
  · rw [Option.map_eq_none_iff, and_iff_right ‹_›]

/-- Allocates an array and gives its handle. The request has to fit the quota, and then the array
has to get a number and to fit memory. -/
def allocate (heap : Heap) (owner : ContextId) (lifetime : Lifetime) (kind : ElementKind)
    (length : Nat) : Ending (Except MemoryError ArrayRef) × Heap :=
  let requested := charge kind length
  let available := heap.available lifetime
  if available < requested then
    (.value (.error (.outOfMemory lifetime requested available)), heap)
  else match heap.fault? kind length with
    | some text => (.crash text, { heap with nextId := heap.nextId + 1 })
    | none =>
      (.value (.ok ⟨heap.nextId, owner⟩), heap.insert (.fresh owner lifetime kind length))

/-- The bytes charged to the arrays of a lifetime among some arrays. -/
def chargedTo (lifetime : Lifetime) (regions : List (Nat × Region)) : Nat :=
  regions.foldr (fun entry total ↦
    if entry.2.lifetime = lifetime then entry.2.footprint + total else total) 0

/-- Frees the arrays picked by a predicate and returns their quota. -/
def discard (heap : Heap) (doomed : Nat → Region → Bool) : Heap :=
  { heap with
    regions := heap.regions.filter fun entry ↦ !doomed entry.1 entry.2
    used := .ofFn fun lifetime ↦ heap.used.get lifetime -
      chargedTo lifetime (heap.regions.filter fun entry ↦ doomed entry.1 entry.2) }

/-- Frees one array. -/
def release (heap : Heap) (id : Nat) : Except MemoryError Heap :=
  if heap.isLive id then .ok (heap.discard fun other _ ↦ other = id)
  else .error (.invalidHandle id)

/-- How many arrays a context owns. -/
def countOwnedBy (heap : Heap) (owner : ContextId) : Nat :=
  heap.regions.countP fun entry ↦ entry.2.owner = owner

/-- Frees every array that a context owns. -/
def releaseOwnedBy (heap : Heap) (owner : ContextId) : Heap :=
  heap.discard fun _ region ↦ region.owner = owner

/-- Lets a further context use an array. -/
def grant (heap : Heap) (id : Nat) (client : ContextId) : Except MemoryError Heap :=
  if heap.isLive id then
    .ok (heap.modify id fun region ↦
      { region with
        grants := if region.grants.contains client then region.grants
          else client :: region.grants })
  else .error (.invalidHandle id)

/-! ### Forgetting contents -/

/-- Whether deselecting a context's applet forgets the contents of an array. -/
def isClearedOnDeselect (owner : ContextId) (region : Region) : Bool :=
  region.owner == owner && region.lifetime == .clearOnDeselect

/-- The arrays of the given sort, cleared. -/
def clearWhere (heap : Heap) (forgotten : Region → Bool) : Heap :=
  heap.mapRegions fun _ region ↦
    if forgotten region then { region with cells := region.cells.cleared } else region

/-- How many arrays are of the given sort. -/
def countWhere (heap : Heap) (forgotten : Region → Bool) : Nat :=
  heap.regions.countP fun entry ↦ forgotten entry.2

/-- Clears what a context's applet loses when it is deselected. -/
def clearOnDeselect (heap : Heap) (owner : ContextId) : Heap :=
  heap.clearWhere (isClearedOnDeselect owner)

/-- Clears what is lost at a reset. -/
def clearOnReset (heap : Heap) : Heap :=
  heap.clearWhere (·.lifetime.isTransient)

/-! ### Undoing a transaction -/

/-- Puts an image back. An array that has been freed since stays freed. -/
def restore (heap : Heap) (entry : JournalEntry) : Heap :=
  heap.modify entry.region fun region ↦
    { region with cells := entry.image.overlay entry.start region.cells }

/-- Puts all images back, the newest first, and then frees the arrays that the transaction
allocated. -/
def rollBack (heap : Heap) (journal : Journal) : Heap :=
  (journal.entries.foldr (fun entry heap ↦ heap.restore entry) heap).discard fun id _ ↦
    journal.allocations.contains id

/-! ### Reading -/

/-- The array that a handle names, if the access to `count` elements from `index` on is allowed. -/
def access (heap : Heap) (caller : ContextId) (array : ArrayRef) (expected : ElementKind)
    (index count : Nat) : Except MemoryError Region := do
  let region ← heap.lookup array.id
  region.check caller expected index count
  return region

/-- Reads an element. -/
def get (heap : Heap) (kind : ElementKind) (caller : ContextId) (array : ArrayRef)
    (index : Nat) : Except MemoryError kind.Value := do
  let region ← heap.access caller array kind index 1
  return kind.decode (region.cells.slice (index * kind.cellWidth) kind.cellWidth)

/-- Reads `length` bytes from `offset` on. -/
def read (heap : Heap) (caller : ContextId) (array : ArrayRef) (offset length : Nat) :
    Except MemoryError (List UInt8) := do
  let region ← heap.access caller array .byte offset length
  return (region.cells.slice offset length).toBytes

end Heap

end SmartCard
