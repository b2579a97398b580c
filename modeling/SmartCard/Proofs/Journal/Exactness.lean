import SmartCard.Proofs.Journal.Recording

/-!
# What a journal holds after any calls

A journal is called in any order to record a range, to note an array allocated, or to be cleared.
Beside it `JournalRun` keeps the recordings that succeeded since it was last cleared. These alone
say what the journal holds (`exact_after`): it covers the cells of their ranges, with what each cell
held in the first of them that covers it, and it counts the cost of these cells. The next recording
fails just when the cells that it would add do not fit.

The invariant that every call keeps is `JournalRun.Keeps`.
-/

set_option autoImplicit false
set_option relaxedAutoImplicit false

namespace SmartCard

variable {shape : Nat → CellShape}

/-- A range to be recorded and all cells of its array as they are. Every array keeps the shape that
it has, and the range lies inside it. -/
structure Recording (shape : Nat → CellShape) where
  region : Nat
  start : Nat
  length : Nat
  current : Cells
  shape_current : current.shape = shape region
  inside : start + length ≤ current.size

namespace Recording

/-- The cells of the range. -/
def cells (recording : Recording shape) : Finset (Nat × Nat) :=
  cellRange recording.region recording.start recording.length

/-- What a cell of the range held. -/
def cell? (recording : Recording shape) (region position : Nat) : Option Cell :=
  if (region, position) ∈ recording.cells then recording.current.cell? position else none

/-- What a cell held in the first of some recordings that covers it. -/
def firstCell? (recordings : List (Recording shape)) (region position : Nat) : Option Cell :=
  recordings.findSome? (·.cell? region position)

/-- The range lies inside the array, so each of its cells held something. -/
theorem isSome_cell?_iff (recording : Recording shape) (region position : Nat) :
    (recording.cell? region position).isSome ↔ (region, position) ∈ recording.cells := by
  rw [cell?]
  by_cases hcell : (region, position) ∈ recording.cells
  · rw [if_pos hcell, Cells.isSome_cell?_iff]
    refine iff_of_true ?_ hcell
    have hrange := mem_cellRange.mp hcell
    have hinside := recording.inside
    omega
  · simp [hcell]

/-- A cell of one of the recordings held something in the first that covers it. -/
theorem isSome_firstCell?_iff (recordings : List (Recording shape)) (region position : Nat) :
    (firstCell? recordings region position).isSome ↔
      ∃ recording ∈ recordings, (region, position) ∈ recording.cells := by
  simp only [firstCell?, List.findSome?_isSome_iff, isSome_cell?_iff]

end Recording

/-- A call on a journal. -/
inductive JournalCall (shape : Nat → CellShape) where
  | record (recording : Recording shape)
  | recordAllocation (region : Nat)
  | clear

/-- Records a range and all cells of its array as they are. -/
def Journal.recordRange (journal : Journal) (recording : Recording shape) :
    Except TransactionError Journal :=
  journal.record recording.region recording.start recording.length recording.current

/-- A journal with the recordings that have succeeded since it was last cleared, the first at the
front. -/
structure JournalRun (shape : Nat → CellShape) where
  journal : Journal
  recorded : List (Recording shape)

namespace JournalRun

/-- A journal with nothing recorded yet. -/
def start (shape : Nat → CellShape) (capacity : Nat) : JournalRun shape :=
  ⟨.empty capacity, []⟩

/-- The journal after one call. A recording that fails leaves it as it was. -/
def next (run : JournalRun shape) : JournalCall shape → JournalRun shape
  | .record recording =>
    match run.journal.recordRange recording with
    | .ok journal => ⟨journal, run.recorded ++ [recording]⟩
    | .error _ => run
  | .recordAllocation region => { run with journal := run.journal.recordAllocation region }
  | .clear => ⟨run.journal.clear, []⟩

/-- The journal after some calls. -/
def after (capacity : Nat) (calls : List (JournalCall shape)) : JournalRun shape :=
  calls.foldl next (start shape capacity)

/-- The bytes of commit buffer for some cells. -/
def footprint (shape : Nat → CellShape) (cells : Finset (Nat × Nat)) : Nat :=
  footprintOf (fun region ↦ (shape region).cellCost) cells

/-- The bytes for the cells that a recording would add. -/
def needed (run : JournalRun shape) (recording : Recording shape) : Nat :=
  footprint shape (recording.cells \ run.journal.covered)

/-- The entries that a recording would replace. -/
def met (run : JournalRun shape) (recording : Recording shape) : List JournalEntry :=
  run.journal.entries.filter
    (·.meets recording.region recording.start (recording.start + recording.length))

/-- The entry that would replace them, when they are merged in the order given. -/
def merging (recording : Recording shape) (met : List JournalEntry) : JournalEntry :=
  Journal.merged recording.region recording.start (recording.start + recording.length)
    recording.current met

/-- What a journal of some capacity holds, given the recordings that have succeeded since it was
last cleared. -/
structure Exact (run : JournalRun shape) (capacity : Nat) : Prop where
  /-- Entries of one array neither overlap nor touch. -/
  apart : run.journal.entries.Pairwise JournalEntry.Apart
  /-- The cells covered are those of the ranges recorded. -/
  mem_covered_iff : ∀ cell,
    cell ∈ run.journal.covered ↔ ∃ recording ∈ run.recorded, cell ∈ recording.cells
  /-- The image of a cell is what it held in the first recording that covers it. -/
  image_eq : ∀ entry ∈ run.journal.entries, ∀ region position, (region, position) ∈ entry.cells →
    entry.cell? region position = Recording.firstCell? run.recorded region position
  used_eq : run.journal.used = footprint shape run.journal.covered
  used_le : run.journal.used ≤ capacity
  /-- A recording fails just when the cells that it would add do not fit, and it says so. -/
  error_iff : ∀ recording error, run.journal.recordRange recording = .error error ↔
    capacity - run.journal.used < run.needed recording ∧
      error = .bufferFull (run.needed recording) (capacity - run.journal.used)
  /-- A recording that fails changes nothing. -/
  next_eq_self : ∀ recording, capacity - run.journal.used < run.needed recording →
    run.next (.record recording) = run
  /-- The bytes of the entries replaced are no more than those of the entry that replaces them. -/
  replaced_le : ∀ recording, Journal.bytesOf (run.met recording) ≤
    (merging recording (run.met recording)).image.footprint
  /-- The order in which entries are merged does not matter. -/
  merging_perm : ∀ recording others, (run.met recording).Perm others →
    merging recording (run.met recording) = merging recording others

/-- What every call keeps: the entries are apart and inside their arrays, the bytes counted are
theirs, and the image of a cell is what it held in the first recording that covers it. -/
structure Keeps (run : JournalRun shape) (capacity : Nat) : Prop where
  sound : run.journal.Sound
  capacity_eq : run.journal.capacity = capacity
  fits : ∀ entry ∈ run.journal.entries, entry.image.FitsAt entry.start (shape entry.region)
  image?_eq : ∀ region position,
    run.journal.image? region position = Recording.firstCell? run.recorded region position

section Keeps

variable {run : JournalRun shape} {capacity : Nat}

/-- A recording goes with the entries that there are. -/
theorem Keeps.admits (hkeeps : run.Keeps capacity) (recording : Recording shape) :
    run.journal.Admits recording.region recording.start recording.length recording.current where
  inside := recording.inside
  fits := fun entry hentry hregion ↦ by
    rw [recording.shape_current, ← hregion]
    exact hkeeps.fits entry hentry

/-- The bytes that a recording needs are the cost of the cells that it adds. -/
theorem needed_eq (run : JournalRun shape) (recording : Recording shape) :
    run.needed recording = run.journal.needed recording.region recording.start recording.length
      recording.current := by
  have hregion : ∀ cell ∈ recording.cells \ run.journal.covered, (shape cell.1).cellCost =
      recording.current.shape.cellCost := by
    rintro ⟨region, position⟩ hcell
    rw [recording.shape_current, (mem_cellRange.mp (Finset.mem_sdiff.mp hcell).1).1]
  exact @footprintOf_eq_card (fun region ↦ (shape region).cellCost) _ _ hregion

/-- A recording succeeds and leaves what it should, or fails for want of room. -/
theorem Keeps.recordRange (hkeeps : run.Keeps capacity) (recording : Recording shape) :
    (run.needed recording ≤ capacity - run.journal.used ∧
      ∃ after, run.journal.recordRange recording = .ok after ∧
        run.journal.IsRecorded recording.region recording.start recording.length
          recording.current after) ∨
    (capacity - run.journal.used < run.needed recording ∧
      run.journal.recordRange recording =
        .error (.bufferFull (run.needed recording) (capacity - run.journal.used))) := by
  rw [needed_eq, ← hkeeps.capacity_eq]
  rcases Nat.lt_or_ge (run.journal.capacity - run.journal.used)
    (run.journal.needed recording.region recording.start recording.length recording.current)
    with hfull | hroom
  · exact Or.inr ⟨hfull, Journal.record_eq_error hkeeps.sound (hkeeps.admits recording) hfull⟩
  · exact Or.inl ⟨hroom, Journal.record_eq_ok hkeeps.sound (hkeeps.admits recording) hroom⟩

/-- A journal with nothing recorded. -/
theorem keeps_start (capacity : Nat) : (start shape capacity).Keeps capacity where
  sound := Journal.sound_empty capacity
  capacity_eq := rfl
  fits := fun _ hentry ↦ (List.not_mem_nil hentry).elim
  image?_eq := fun _ _ ↦ rfl

/-- Every call keeps the invariant. -/
theorem Keeps.next (hkeeps : run.Keeps capacity) (call : JournalCall shape) :
    (run.next call).Keeps capacity := by
  cases call with
  | record recording =>
    rcases hkeeps.recordRange recording with ⟨-, after, hafter, hrecorded⟩ | ⟨-, herror⟩
    · rw [JournalRun.next, hafter]
      refine ⟨hrecorded.sound, hrecorded.capacity.trans hkeeps.capacity_eq, ?_, ?_⟩
      · intro entry hentry
        rcases hrecorded.fits entry hentry with hold | ⟨hregion, hfits⟩
        · exact hkeeps.fits entry hold
        · rw [hregion, ← recording.shape_current]
          exact hfits
      · intro region position
        rw [hrecorded.image, hkeeps.image?_eq, Recording.firstCell?, Recording.firstCell?,
          List.findSome?_append, List.findSome?_singleton]
        rfl
    · rw [JournalRun.next, herror]
      exact hkeeps
  | recordAllocation region =>
    exact ⟨⟨hkeeps.sound.apart, hkeeps.sound.used_eq, hkeeps.sound.used_le⟩, hkeeps.capacity_eq,
      hkeeps.fits, hkeeps.image?_eq⟩
  | clear => exact hkeeps.capacity_eq ▸ keeps_start run.journal.capacity

/-- So does any number of calls. -/
theorem Keeps.foldl (hkeeps : run.Keeps capacity) (calls : List (JournalCall shape)) :
    (calls.foldl JournalRun.next run).Keeps capacity := by
  induction calls generalizing run with
  | nil => exact hkeeps
  | cons call rest ih => exact ih (hkeeps.next call)

end Keeps

/-- After any calls a journal holds exactly what its recordings say. -/
theorem exact_after (capacity : Nat) (calls : List (JournalCall shape)) :
    (after capacity calls).Exact capacity := by
  have hkeeps : (after capacity calls).Keeps capacity := (keeps_start capacity).foldl calls
  generalize after capacity calls = run at hkeeps
  constructor
  case apart => exact hkeeps.sound.apart
  case mem_covered_iff =>
    rintro ⟨region, position⟩
    rw [← Recording.isSome_firstCell?_iff, ← hkeeps.image?_eq]
    exact (Journal.isSome_imageIn_iff run.journal.entries region position).symm
  case image_eq =>
    intro entry hentry region position hcell
    obtain ⟨cell, hcell⟩ := Option.isSome_iff_exists.mp ((entry.isSome_cell?_iff _ _).mpr hcell)
    rw [← hkeeps.image?_eq, hcell]
    exact ((Journal.imageIn_eq_some_iff hkeeps.sound.apart).mpr ⟨entry, hentry, hcell⟩).symm
  case used_eq =>
    rw [hkeeps.sound.used_eq]
    exact (Journal.footprintOf_cellsOf hkeeps.sound.apart
      fun entry hentry ↦ (hkeeps.fits entry hentry).cellCost_eq).symm
  case used_le => exact hkeeps.capacity_eq ▸ hkeeps.sound.used_le
  case error_iff =>
    intro recording error
    rcases hkeeps.recordRange recording with ⟨hroom, after, hafter, -⟩ | ⟨hfull, herror⟩
    · rw [hafter]
      exact iff_of_false nofun fun h ↦ Nat.not_lt.mpr hroom h.1
    · rw [herror, Except.error.injEq, and_iff_right hfull, eq_comm]
  case next_eq_self =>
    intro recording hfull
    rcases hkeeps.recordRange recording with ⟨hroom, -⟩ | ⟨-, herror⟩
    · exact (Nat.not_lt.mpr hroom hfull).elim
    · rw [next, herror]
  case replaced_le =>
    intro recording
    have hfootprint := Journal.footprint_merged hkeeps.sound (hkeeps.admits recording)
    exact (Nat.le_add_left _ _).trans_eq hfootprint.symm
  case merging_perm =>
    intro recording others hperm
    exact Journal.merged_perm
      (Journal.isMergeable_filter hkeeps.sound (hkeeps.admits recording)) hperm

end JournalRun

end SmartCard
