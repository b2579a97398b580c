import SmartCard.Memory.Store
import SmartCard.Proofs.Memory.Heap

/-!
# What a write does

An element, some bytes, or one byte many times: all three are the same write of cells to a range of
an array (`Store.perform_eq_put`). `Store.WriteEffect` says all that it can do to a store, with what
was checked on the way. A write that is let through puts its cells into the array that its handle
names; one that is not leaves at most the tear injector changed.
-/

set_option autoImplicit false
set_option relaxedAutoImplicit false

namespace SmartCard

/-- A write of an element, of some bytes, or of one byte many times. -/
inductive Write where
  | element (array : ArrayRef) (kind : ElementKind) (index : Nat) (value : kind.Value)
  | bytes (array : ArrayRef) (offset : Nat) (values : List UInt8)
  | fill (array : ArrayRef) (offset length : Nat) (value : UInt8)

namespace Write

/-- The array written to. -/
def array : Write → ArrayRef
  | .element array _ _ _ => array
  | .bytes array _ _ => array
  | .fill array _ _ _ => array

/-- The kind of the elements written. -/
def kind : Write → ElementKind
  | .element _ kind _ _ => kind
  | .bytes _ _ _ => .byte
  | .fill _ _ _ _ => .byte

/-- The first element written. -/
def index : Write → Nat
  | .element _ _ index _ => index
  | .bytes _ offset _ => offset
  | .fill _ offset _ _ => offset

/-- How many elements are written. -/
def count : Write → Nat
  | .element _ _ _ _ => 1
  | .bytes _ _ values => values.length
  | .fill _ _ length _ => length

/-- The cells written. -/
def patch : Write → Cells
  | .element _ kind _ value => kind.encode value
  | .bytes _ _ values => .bytes (.ofList values)
  | .fill _ _ length value => .bytes (.replicate length value)

/-- The first cell written. -/
def start (write : Write) : Nat :=
  write.index * write.kind.cellWidth

/-- The cells written have the shape of the elements written. -/
theorem shape_patch (write : Write) : write.patch.shape = write.kind.cellShape write.count := by
  cases write with
  | element array kind index value => exact Cells.shape_encode kind value
  | bytes array offset values =>
    exact congrArg (CellShape.mk false) ((Runs.length_ofList values).trans (Nat.mul_one _).symm)
  | fill array offset length value =>
    refine congrArg (CellShape.mk false) (Eq.trans ?_ (Nat.mul_one _).symm)
    rw [← Runs.length_toList, Runs.toList_replicate, List.length_replicate]
    rfl

/-- As many cells are written as the elements have. -/
theorem size_patch (write : Write) :
    write.patch.size = write.count * write.kind.cellWidth := by
  rw [← Cells.size_shape, shape_patch]
  rfl

end Write

/-- What passes the checks of an access. -/
theorem Region.check_eq_ok_iff {region : Region} {caller : ContextId} {expected : ElementKind}
    {index count : Nat} :
    region.check caller expected index count = .ok () ↔
      region.admits caller = true ∧ region.kind = expected ∧ index + count ≤ region.length := by
  rw [check]
  by_cases hadmitted : region.admits caller = true
  · by_cases hkind : region.kind = expected
    · by_cases hrange : region.length < index + count
      · simp [hadmitted, hkind, hrange]
      · simp [hadmitted, hkind, hrange, Nat.le_of_not_lt hrange]
    · simp [hadmitted, hkind]
  · simp [hadmitted]

/-- An access is allowed if its handle names a live array and passes the checks there. -/
theorem Heap.access_eq_ok_iff {heap : Heap} {caller : ContextId} {array : ArrayRef}
    {expected : ElementKind} {index count : Nat} {region : Region} :
    heap.access caller array expected index count = .ok region ↔
      heap.find? array.id = some region ∧ region.check caller expected index count = .ok () := by
  rw [access, ← lookup_eq_ok_iff]
  cases heap.lookup array.id with
  | error error => exact iff_of_false nofun nofun
  | ok found =>
    change (found.check caller expected index count >>= fun _ ↦ Except.ok found) = .ok region ↔ _
    rw [Except.ok.injEq]
    cases hcheck : found.check caller expected index count with
    | error error =>
      refine iff_of_false nofun ?_
      rintro ⟨rfl, hpassed⟩
      exact nomatch hcheck.symm.trans hpassed
    | ok _ =>
      refine ⟨fun hfound ↦ ?_, fun h ↦ congrArg Except.ok h.1⟩
      obtain rfl : found = region := Except.ok.inj hfound
      exact ⟨rfl, hcheck⟩

/-- The heap with the cells of a write put into the array that it names. -/
def Heap.written (heap : Heap) (write : Write) : Heap :=
  heap.modify write.array.id fun region ↦
    { region with cells := write.patch.overlay write.start region.cells }

/-- A write of bytes puts them over those in the array. -/
theorem Heap.find?_written_of_bytes {heap : Heap} {write : Write} (region : Region)
    {values bytes : List UInt8}
    (hfind : heap.find? write.array.id = some { region with cells := .bytes (.ofList bytes) })
    (hpatch : write.patch = .bytes (.ofList values)) :
    (heap.written write).find? write.array.id =
      some { region with cells := .bytes (.ofList (overwrite write.start values bytes)) } := by
  have hoverlay : (Cells.bytes (.ofList values)).overlay write.start (.bytes (.ofList bytes)) =
      .bytes (.ofList (overwrite write.start values bytes)) := by
    refine congrArg Cells.bytes (Runs.toList_injective ?_)
    rw [Runs.toList_overwrite, Runs.toList_ofList, Runs.toList_ofList, Runs.toList_ofList]
  rw [Heap.written, Heap.find?_modify, hfind, Option.map_some, if_pos rfl, hpatch, hoverlay]

namespace Store

/-- Makes a write. -/
def perform (store : Store) (caller : ContextId) : Write → Except MemoryError Unit × Store
  | .element array kind index value => store.set kind caller array index value
  | .bytes array offset values => store.write caller array offset values
  | .fill array offset length value => store.fill caller array offset length value

/-- The array that a write names, if the access is allowed. -/
def accessFor (store : Store) (caller : ContextId) (write : Write) : Except MemoryError Region :=
  store.heap.access caller write.array write.kind write.index write.count

/-- Every write goes through the one path. -/
theorem perform_eq_put (store : Store) (caller : ContextId) (write : Write) :
    store.perform caller write =
      store.put caller write.array write.kind write.index write.count fun _ ↦ write.patch := by
  cases write <;> rfl

/-- What an access allowed tells of the array and the cells written. -/
theorem fits_of_access {store : Store} (hheap : store.heap.WellFormed) {caller : ContextId}
    {write : Write} {region : Region} (haccess : store.accessFor caller write = .ok region) :
    store.heap.find? write.array.id = some region ∧
      write.patch.FitsAt write.start region.cells.shape := by
  obtain ⟨hfind, hcheck⟩ := Heap.access_eq_ok_iff.mp haccess
  obtain ⟨-, hkind, hrange⟩ := Region.check_eq_ok_iff.mp hcheck
  refine ⟨hfind, ?_⟩
  rw [hheap.shape_eq hfind, hkind]
  refine ⟨by rw [write.shape_patch]; rfl, ?_⟩
  change write.index * write.kind.cellWidth + write.patch.size ≤
    region.length * write.kind.cellWidth
  rw [write.size_patch, ← Nat.add_mul]
  exact Nat.mul_le_mul_right _ hrange

/-! ### The path of a write -/

section Path

variable {store : Store} {caller : ContextId} {write : Write} {region : Region}

theorem perform_of_refused {error : MemoryError}
    (haccess : store.accessFor caller write = .error error) :
    store.perform caller write = (.error error, store) := by
  rw [perform_eq_put, put, ← accessFor, haccess]

/-- A write that succeeds is one that was allowed. -/
theorem access_of_ok (hok : (store.perform caller write).1 = .ok ()) :
    ∃ region, store.accessFor caller write = .ok region := by
  cases haccess : store.accessFor caller write with
  | ok region => exact ⟨region, rfl⟩
  | error error =>
    rw [perform_of_refused haccess] at hok
    cases hok

theorem perform_of_empty (haccess : store.accessFor caller write = .ok region)
    (hempty : write.count = 0) : store.perform caller write = (.ok (), store) := by
  rw [perform_eq_put, put, ← accessFor, haccess]
  exact if_pos hempty

theorem perform_of_transient (haccess : store.accessFor caller write = .ok region)
    (hcount : write.count ≠ 0) (hlifetime : region.lifetime ≠ .persistent) :
    store.perform caller write = (.ok (), { store with heap := store.heap.written write }) := by
  rw [perform_eq_put, put, ← accessFor, haccess]
  dsimp only
  rw [if_neg hcount, writeCells]
  cases hlife : region.lifetime with
  | persistent => exact absurd hlife hlifetime
  | clearOnReset => rfl
  | clearOnDeselect => rfl

theorem perform_of_persistent (haccess : store.accessFor caller write = .ok region)
    (hcount : write.count ≠ 0) (hlifetime : region.lifetime = .persistent) :
    store.perform caller write =
      match store.transaction.prepareWrite write.array.id write.start write.patch.size
        region.cells with
      | (.error error, transaction) => (.error (.journal error), { store with transaction })
      | (.ok (), transaction) => (.ok (), ⟨store.heap.written write, transaction⟩) := by
  rw [perform_eq_put, put, ← accessFor, haccess]
  dsimp only
  rw [if_neg hcount, writeCells, hlifetime]
  rfl

end Path

/-- All that a write can do to a store. -/
inductive WriteEffect (store : Store) (write : Write) : Store → Prop where
  | nothing (tear : TearInjector) :
    WriteEffect store write { store with transaction := { store.transaction with tear } }
  | transient {region : Region} (hfind : store.heap.find? write.array.id = some region)
    (hfits : write.patch.FitsAt write.start region.cells.shape)
    (hlifetime : region.lifetime ≠ .persistent) :
    WriteEffect store write { store with heap := store.heap.written write }
  | direct {region : Region} (tear : TearInjector)
    (hfind : store.heap.find? write.array.id = some region)
    (hfits : write.patch.FitsAt write.start region.cells.shape)
    (hidle : store.transaction.isActive = false) :
    WriteEffect store write
      ⟨store.heap.written write, { store.transaction with tear }⟩
  | recorded {region : Region} (tear : TearInjector) (journal : Journal)
    (hfind : store.heap.find? write.array.id = some region)
    (hfits : write.patch.FitsAt write.start region.cells.shape)
    (hlifetime : region.lifetime = .persistent) (hactive : store.transaction.isActive = true)
    (hrecord : store.transaction.journal.record write.array.id write.start write.patch.size
      region.cells = .ok journal) :
    WriteEffect store write
      ⟨store.heap.written write, { store.transaction with tear, journal }⟩

/-- No write does anything else. -/
theorem perform_effect {store : Store} (hheap : store.heap.WellFormed) (caller : ContextId)
    (write : Write) : WriteEffect store write (store.perform caller write).2 := by
  cases haccess : store.accessFor caller write with
  | error error =>
    rw [perform_of_refused haccess]
    exact .nothing store.transaction.tear
  | ok region =>
    obtain ⟨hfind, hfits⟩ := fits_of_access hheap haccess
    by_cases hcount : write.count = 0
    · rw [perform_of_empty haccess hcount]
      exact .nothing store.transaction.tear
    by_cases hlifetime : region.lifetime = .persistent
    · rw [perform_of_persistent haccess hcount hlifetime, Transaction.prepareWrite]
      rcases store.transaction.tear.pass with ⟨error | passed, tear⟩
      · exact .nothing tear
      · dsimp only
        by_cases hactive : store.transaction.isActive = true
        · rw [if_pos hactive]
          cases hrecord : store.transaction.journal.record write.array.id write.start
            write.patch.size region.cells with
          | error error => exact .nothing tear
          | ok journal => exact .recorded tear journal hfind hfits hlifetime hactive hrecord
        · rw [if_neg hactive]
          exact .direct tear hfind hfits (Bool.eq_false_iff.mpr hactive)
    · rw [perform_of_transient haccess hcount hlifetime]
      exact .transient hfind hfits hlifetime

end Store

end SmartCard
