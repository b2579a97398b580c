import SmartCard.Memory.Heap
import SmartCard.Transaction.State

/-!
# The store

The heap together with the transaction that protects its persistent arrays. Every write takes one
path, `put`: the access is checked, an empty write ends there, a persistent one has to be admitted
by the transaction, and only then are the cells written. An operation answers with its result and
the store after it, failed operations included.
-/

set_option autoImplicit false
set_option relaxedAutoImplicit false

namespace SmartCard

structure Store where
  heap : Heap
  transaction : Transaction
  deriving DecidableEq, Repr

namespace Store

/-- No arrays, no transaction. -/
def empty (quotas : PerLifetime) (commitCapacity : Nat) : Store :=
  ⟨.empty quotas, .idle commitCapacity⟩

/-- Allocates an array. Inside a transaction it is noted in the journal; a crash notes nothing. -/
def allocate (store : Store) (owner : ContextId) (lifetime : Lifetime) (kind : ElementKind)
    (length : Nat) : Ending (Except MemoryError ArrayRef) × Store :=
  match store.heap.allocate owner lifetime kind length with
  | (.value (.ok array), heap) =>
    (.value (.ok array), { heap, transaction := store.transaction.noteAllocation array.id })
  | (ending, heap) => (ending, { store with heap })

/-! ### Writing -/

/-- Writes cells to an array already checked: a persistent write has to be admitted first. -/
def writeCells (store : Store) (id : Nat) (region : Region) (start : Nat) (patch : Cells) :
    Except MemoryError Unit × Store :=
  let written := store.heap.modify id fun region ↦
    { region with cells := patch.overlay start region.cells }
  match region.lifetime with
  | .persistent =>
    match store.transaction.prepareWrite id start patch.size region.cells with
    | (.error error, transaction) => (.error (.journal error), { store with transaction })
    | (.ok (), transaction) => (.ok (), { heap := written, transaction })
  | _ => (.ok (), { store with heap := written })

/-- Writes `count` elements from `index` on, given by their cells. -/
def put (store : Store) (caller : ContextId) (array : ArrayRef) (kind : ElementKind)
    (index count : Nat) (patch : Unit → Cells) : Except MemoryError Unit × Store :=
  match store.heap.access caller array kind index count with
  | .error error => (.error error, store)
  | .ok region =>
    if count = 0 then (.ok (), store)
    else store.writeCells array.id region (index * kind.cellWidth) (patch ())

/-- Writes an element. -/
def set (store : Store) (kind : ElementKind) (caller : ContextId) (array : ArrayRef)
    (index : Nat) (value : kind.Value) : Except MemoryError Unit × Store :=
  store.put caller array kind index 1 fun _ ↦ kind.encode value

/-- Writes bytes from `offset` on. -/
def write (store : Store) (caller : ContextId) (array : ArrayRef) (offset : Nat)
    (bytes : List UInt8) : Except MemoryError Unit × Store :=
  store.put caller array .byte offset bytes.length fun _ ↦ .bytes (.ofList bytes)

/-- Writes the same byte `length` times from `offset` on. -/
def fill (store : Store) (caller : ContextId) (array : ArrayRef) (offset length : Nat)
    (value : UInt8) : Except MemoryError Unit × Store :=
  store.put caller array .byte offset length fun _ ↦ .bytes (.replicate length value)

/-! ### Transactions -/

/-- Opens a transaction. -/
def begin (store : Store) : Except TransactionError Unit × Store :=
  match store.transaction.begin with
  | .error error => (.error error, store)
  | .ok transaction => (.ok (), { store with transaction })

/-- Makes the open transaction permanent and says how many journal entries are dropped. -/
def commit (store : Store) : Except TransactionError Nat × Store :=
  match store.transaction.commit with
  | .error error => (.error error, store)
  | .ok (dropped, transaction) => (.ok dropped, { store with transaction })

/-- Undoes the open transaction and says how many journal entries are put back. -/
def abort (store : Store) : Except TransactionError Nat × Store :=
  match store.transaction.abort with
  | .error error => (.error error, store)
  | .ok (journal, transaction) =>
    (.ok journal.entries.length, { heap := store.heap.rollBack journal, transaction })

/-- Undoes whatever transaction is open. -/
def settle (store : Store) : Store :=
  store.abort.2

end Store

end SmartCard
