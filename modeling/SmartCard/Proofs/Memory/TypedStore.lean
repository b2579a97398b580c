import SmartCard.Applet.Code
import SmartCard.Applet.Session
import SmartCard.Proofs.Memory.Completion
import SmartCard.Proofs.Memory.Durability
import SmartCard.Proofs.Memory.Element

/-!
# Typed stores

Users of a store need not know of cells, journals and quotas. What they see is a typed store: live
arrays of elements, and while a transaction is open, the arrays as they were when it began
(`TypedStore`). What is demanded of the store and answered by it decides what becomes of the typed
store (`TypedStore.next`): a fresh array is blank, a write that succeeds puts its elements where
they belong, a copy puts the elements there that its source had before, and undoing a transaction
brings the persistent arrays back as they were.

`Store.Remembers` says that an open transaction knows how to bring the arrays back that there were
when it began. Other than `Store.Retains` it lets arrays be freed meanwhile.
-/

set_option autoImplicit false
set_option relaxedAutoImplicit false

namespace SmartCard

/-- Live arrays of elements and, while a transaction is open, those at its beginning. -/
structure TypedStore where
  arrays : Nat → Option TypedArray
  snapshot : Option (Nat → Option TypedArray)

namespace Store

/-! ### Demands -/

/-- Copies bytes between two arrays, which may be the same: all are read before any is written. -/
def copy (store : Store) (caller : ContextId) (source : ArrayRef) (sourceOffset : Nat)
    (target : ArrayRef) (targetOffset length : Nat) : Except MemoryError Unit × Store :=
  match store.heap.read caller source sourceOffset length with
  | .error error => (.error error, store)
  | .ok bytes => store.write caller target targetOffset bytes

/-- Applet code that copies makes this copy, as the context that it runs in. -/
theorem run_copy {σ : Type} (session : Session σ) (source : ArrayRef) (sourceOffset : Nat)
    (target : ArrayRef) (targetOffset length : Nat) :
    Program.run Session.answer
        (Code.copy source sourceOffset target targetOffset length).run session =
      Session.answered (session.ofMemory (session.platform.store.copy session.context
        source sourceOffset target targetOffset length)) := by
  unfold Store.copy
  change Program.run Session.answer
    (@Program.call (services σ) _ (Service.read source sourceOffset length) fun outcome ↦ _)
    session = _
  rw [Program.run, Session.answer]
  cases session.platform.store.heap.read session.context source sourceOffset length with
  | error error => rfl
  | ok bytes => rfl

/-- What can be demanded of a store, transactions included. -/
inductive Demand where
  | request (request : Request)
  | copy (caller : ContextId) (source : ArrayRef) (sourceOffset : Nat) (target : ArrayRef)
    (targetOffset length : Nat)
  | begin
  | commit
  | abort

/-- The answer to a demand, and the store after it. -/
def meet (store : Store) : Demand → Answer × Store
  | .request request => store.answer request
  | .copy caller source sourceOffset target targetOffset length =>
    let outcome := store.copy caller source sourceOffset target targetOffset length
    (.done outcome.1, outcome.2)
  | .begin => (.done (store.begin.1.mapError .journal), store.begin.2)
  | .commit => (.done ((store.commit.1.map fun _ ↦ ()).mapError .journal), store.commit.2)
  | .abort => (.done ((store.abort.1.map fun _ ↦ ()).mapError .journal), store.abort.2)

/-- Whether what was demanded has been done. -/
def Answer.isDone : Answer → Bool
  | .done (.ok ()) => true
  | _ => false

/-- The handle of the array allocated. -/
def Answer.allocated? : Answer → Option ArrayRef
  | .allocated (.value (.ok handle)) => some handle
  | _ => none

end Store

/-! ### The typed store -/

namespace TypedStore

/-- No arrays, no transaction. -/
def empty : TypedStore :=
  ⟨fun _ ↦ none, none⟩

/-- The element at an index of an array. -/
def element (typed : TypedStore) (id index : Nat) : Element :=
  (typed.arrays id).elim (.byte 0) (·.element index)

/-- The arrays, each put through a function. -/
def mapArrays (typed : TypedStore) (change : Nat → TypedArray → TypedArray) : TypedStore :=
  { typed with arrays := fun id ↦ (typed.arrays id).map (change id) }

/-- One more array. -/
def insert (typed : TypedStore) (id : Nat) (array : TypedArray) : TypedStore :=
  { typed with arrays := fun other ↦ if other = id then some array else typed.arrays other }

/-- The arrays without those picked. -/
def discard (typed : TypedStore) (doomed : Nat → TypedArray → Bool) : TypedStore :=
  { typed with arrays := fun id ↦ (typed.arrays id).filter (!doomed id ·) }

/-- The arrays of the given sort, with every element blank. -/
def clearWhere (typed : TypedStore) (forgotten : TypedArray → Bool) : TypedStore :=
  typed.mapArrays fun _ array ↦ if forgotten array then array.cleared else array

/-- One array with the elements of a write put where they belong. -/
def written (typed : TypedStore) (write : Write) : TypedStore :=
  typed.mapArrays fun id array ↦ if id = write.array.id then array.written write else array

/-- One array with some of its elements those that there are in a range of the same or another
array. -/
def copied (typed : TypedStore) (source sourceOffset target targetOffset length : Nat) :
    TypedStore :=
  typed.mapArrays fun id array ↦
    if id = target then
      { array with element := fun index ↦
          if targetOffset ≤ index ∧ index < targetOffset + length then
            typed.element source (sourceOffset + (index - targetOffset))
          else array.element index }
    else array

/-- What undoing a transaction makes of an array, by what it was at the beginning: a persistent
array is again what it was, one that was not there is gone, and nothing is brought back. -/
def undone (former now : Option TypedArray) : Option TypedArray :=
  now.bind fun now ↦ former.map fun former ↦
    if now.lifetime = .persistent then former else now

/-- Undoes the open transaction. -/
def rollBack (typed : TypedStore) : TypedStore :=
  match typed.snapshot with
  | none => typed
  | some former => ⟨fun id ↦ undone (former id) (typed.arrays id), none⟩

open Store in
/-- What becomes of a typed store with a demand and the answer to it. -/
def next (typed : TypedStore) (answer : Answer) : Demand → TypedStore
  | .request (.allocate owner lifetime kind length) =>
    answer.allocated?.elim typed fun array ↦
      typed.insert array.id (.fresh owner lifetime kind length)
  | .request (.release id) =>
    if answer.isDone then typed.discard fun other _ ↦ other = id else typed
  | .request (.releaseOwnedBy owner) => typed.discard fun _ array ↦ array.owner = owner
  | .request (.write _ write) => if answer.isDone then typed.written write else typed
  | .request (.clearOnDeselect owner) =>
    typed.clearWhere fun array ↦ array.owner == owner && array.lifetime == .clearOnDeselect
  | .request .clearOnReset => typed.clearWhere (·.lifetime.isTransient)
  | .request _ => typed
  | .copy _ source sourceOffset target targetOffset length =>
    if answer.isDone then typed.copied source.id sourceOffset target.id targetOffset length
    else typed
  | .begin => if answer.isDone then { typed with snapshot := some typed.arrays } else typed
  | .commit => if answer.isDone then { typed with snapshot := none } else typed
  | .abort => if answer.isDone then typed.rollBack else typed

end TypedStore

namespace Store

/-- The store and the typed store after some demands. -/
def meetAll (store : Store) (typed : TypedStore) : List Demand → Store × TypedStore
  | [] => (store, typed)
  | demand :: rest =>
    let outcome := store.meet demand
    outcome.2.meetAll (typed.next outcome.1 demand) rest

/-! ### What an open transaction remembers -/

/-- Whether a transaction that began with some arrays remembers them: none of them is one that it
has allocated, and every array that is still live and was there has been what it was, with the
former contents of a persistent array those that it had. -/
structure Remembers (store : Store) (snapshot : Nat → Option TypedArray) : Prop where
  ahead : ∀ {id}, store.heap.nextId ≤ id → snapshot id = none
  allocated : ∀ {id}, id ∈ store.transaction.journal.allocations → snapshot id = none
  kept : ∀ {id region}, store.heap.find? id = some region →
    id ∉ store.transaction.journal.allocations →
      ∃ before : Region, snapshot id = some before.typed ∧ before.original = region.original ∧
        before.cells.shape = region.cells.shape ∧ (region.lifetime = .persistent →
          ∀ position, store.former id position = before.cells.cell? position)

section Remembers

variable {store : Store} {snapshot : Nat → Option TypedArray}

/-- A transaction that begins remembers the arrays that there are. -/
theorem remembers_begin (hstore : store.WellFormed) (hidle : store.transaction.isActive = false) :
    store.begin.2.Remembers fun id ↦ (store.heap.find? id).map Region.typed := by
  rw [begin_of_idle hidle]
  constructor
  case ahead =>
    intro id hid
    cases hfind : store.heap.find? id with
    | none => rfl
    | some region => exact absurd (hstore.heap.lt_nextId hfind) (Nat.not_lt.mpr hid)
  case allocated => exact fun hid ↦ absurd hid List.not_mem_nil
  case kept =>
    intro id region hfind _
    have hregion : store.heap.find? id = some region := hfind
    refine ⟨region, congrArg (Option.map Region.typed) hregion, rfl, rfl,
      fun hlifetime position ↦ ?_⟩
    have hcontents : store.heap.contents? id = some region.cells :=
      Heap.contents?_eq_some_iff.mpr ⟨region, hregion, hlifetime, rfl⟩
    change ((store.heap.contents? id).bind (·.cell? position)) = _
    rw [hcontents, Option.bind_some]

/-- It goes on remembering them in a heap with no other arrays and the same persistent contents. -/
theorem Remembers.withHeap (hstore : store.WellFormed) (hremembers : store.Remembers snapshot)
    {heap : Heap} (hheap : heap.WellFormed) (hnextId : store.heap.nextId ≤ heap.nextId)
    (hkept : ∀ {id region}, heap.find? id = some region →
      ∃ earlier, store.heap.find? id = some earlier ∧ earlier.original = region.original ∧
        (region.lifetime = .persistent → earlier.cells = region.cells)) :
    { store with heap }.Remembers snapshot where
  ahead := fun hid ↦ hremembers.ahead (hnextId.trans hid)
  allocated := hremembers.allocated
  kept := fun {id region} hfind hold ↦ by
    obtain ⟨earlier, hearlier, horiginal, hcells⟩ := hkept hfind
    obtain ⟨before, hbefore, hsame, hshape, hformer⟩ := hremembers.kept hearlier hold
    obtain ⟨-, hlifetime, hkind, hlength⟩ := Region.eq_of_original_eq horiginal
    refine ⟨before, hbefore, hsame.trans horiginal, ?_, fun hpersistent position ↦ ?_⟩
    · rw [hshape, hstore.heap.shape_eq hearlier, hheap.shape_eq hfind, hkind, hlength]
    · have hthen : store.heap.contents? id = some region.cells :=
        Heap.contents?_eq_some_iff.mpr
          ⟨earlier, hearlier, hlifetime.trans hpersistent, hcells hpersistent⟩
      have hnow : heap.contents? id = some region.cells :=
        Heap.contents?_eq_some_iff.mpr ⟨region, hfind, hpersistent, rfl⟩
      rw [← hformer (hlifetime.trans hpersistent), former, former, hthen]
      dsimp only
      rw [hnow]

theorem Remembers.withTear (hremembers : store.Remembers snapshot) (tear : TearInjector) :
    (store.withTear tear).Remembers snapshot :=
  ⟨hremembers.ahead, hremembers.allocated, hremembers.kept⟩

/-- It goes on remembering them when arrays are changed in place. -/
theorem Remembers.mapRegions (hstore : store.WellFormed) (hremembers : store.Remembers snapshot)
    {change : Nat → Region → Region} (hheap : (store.heap.mapRegions change).WellFormed)
    (horiginal : ∀ id region, (change id region).original = region.original)
    (hcells : ∀ id region, store.heap.find? id = some region → region.lifetime = .persistent →
      (change id region).cells = region.cells) :
    { store with heap := store.heap.mapRegions change }.Remembers snapshot := by
  refine hremembers.withHeap hstore hheap (Nat.le_refl _) fun {id region} hfind ↦ ?_
  rw [Heap.find?_mapRegions] at hfind
  obtain ⟨earlier, hearlier, rfl⟩ := Option.map_eq_some_iff.mp hfind
  obtain ⟨-, hlifetime, -⟩ := Region.eq_of_original_eq (horiginal id earlier)
  exact ⟨earlier, hearlier, (horiginal id earlier).symm, fun hpersistent ↦
    (hcells id earlier hearlier (hlifetime.symm.trans hpersistent)).symm⟩

/-- It goes on remembering them when arrays are freed. -/
theorem Remembers.discard (hstore : store.WellFormed) (hremembers : store.Remembers snapshot)
    (doomed : Nat → Region → Bool) :
    { store with heap := store.heap.discard doomed }.Remembers snapshot := by
  refine hremembers.withHeap hstore (hstore.heap.discard doomed) (Nat.le_refl _)
    fun {id region} hfind ↦ ?_
  rw [Heap.find?_discard hstore.heap.nodup, Option.filter_eq_some_iff] at hfind
  exact ⟨region, hfind.1, rfl, fun _ ↦ rfl⟩

/-- It remembers an array allocated as one that was not there. -/
theorem Remembers.allocate (hstore : store.WellFormed) (hremembers : store.Remembers snapshot)
    (hactive : store.transaction.isActive = true) (owner : ContextId) (lifetime : Lifetime)
    (kind : ElementKind) (length : Nat) :
    (store.allocate owner lifetime kind length).2.Remembers snapshot := by
  rcases store.allocate_cases owner lifetime kind length with ⟨error, h⟩ | ⟨text, h⟩ | h
  · rw [h]
    exact hremembers
  · rw [h]
    exact hremembers.withHeap hstore hstore.heap.skip (Nat.le_succ _)
      fun hfind ↦ ⟨_, hfind, rfl, fun _ ↦ rfl⟩
  · rw [h]
    dsimp only
    rw [Transaction.noteAllocation, if_pos hactive]
    constructor
    case ahead => exact fun hid ↦ hremembers.ahead (Nat.le_of_succ_le hid)
    case allocated =>
      intro id hid
      rcases List.mem_append.mp hid with hold | hnew
      · exact hremembers.allocated hold
      · obtain rfl := List.mem_singleton.mp hnew
        exact hremembers.ahead (Nat.le_refl _)
    case kept =>
      intro id region hfind hold
      obtain ⟨hold, hnew⟩ := not_or.mp fun hid ↦ hold (List.mem_append.mpr hid)
      rw [List.mem_singleton] at hnew
      have hearlier : store.heap.find? id = some region := by
        rw [Heap.find?_insert, if_neg hnew] at hfind
        exact hfind
      obtain ⟨before, hbefore, hsame, hshape, hformer⟩ := hremembers.kept hearlier hold
      refine ⟨before, hbefore, hsame, hshape, fun hpersistent position ↦ ?_⟩
      rw [← hformer hpersistent, former, former, Heap.contents?, Heap.contents?,
        Heap.find?_insert, if_neg hnew]
      rfl

/-- It goes on remembering them whatever becomes of a write. -/
theorem Remembers.perform (hstore : store.WellFormed) (hremembers : store.Remembers snapshot)
    (hactive : store.transaction.isActive = true) (caller : ContextId) (write : Write) :
    (store.perform caller write).2.Remembers snapshot := by
  have heffect := perform_effect hstore.heap caller write
  generalize (store.perform caller write).2 = after at heffect
  cases heffect with
  | nothing tear => exact hremembers.withTear tear
  | @transient written hfind hfits hlifetime =>
    have hheap := hstore.heap.written hfind hfits
    unfold Heap.written Heap.modify at hheap ⊢
    refine hremembers.mapRegions hstore hheap (Heap.original_written write)
      fun id region hregion hpersistent ↦ ?_
    have hother : id ≠ write.array.id := by
      rintro rfl
      obtain rfl : written = region := Option.some_inj.mp (hfind.symm.trans hregion)
      exact hlifetime hpersistent
    rw [if_neg hother]
  | direct tear hfind hfits hidle => exact absurd (hactive.symm.trans hidle) (by decide)
  | @recorded written tear journal hfind hfits hlifetime _ hrecord =>
    have hadmits := hstore.admits hfind hfits
    have hrecorded := Journal.isRecorded_of_ok hstore.journal hadmits hrecord
    constructor
    case ahead => exact hremembers.ahead
    case allocated =>
      intro id hid
      exact hremembers.allocated (hrecorded.allocations ▸ hid)
    case kept =>
      intro id region hnow hold
      have hfound : (store.heap.written write).find? id = some region := hnow
      rw [Heap.written, Heap.find?_modify] at hfound
      obtain ⟨earlier, hearlier, rfl⟩ := Option.map_eq_some_iff.mp hfound
      obtain ⟨before, hbefore, hsame, hshape, hformer⟩ :=
        hremembers.kept hearlier (hrecorded.allocations ▸ hold)
      have horiginal := Heap.original_written write id earlier
      obtain ⟨-, hkept, -⟩ := Region.eq_of_original_eq horiginal
      refine ⟨before, hbefore, hsame.trans horiginal.symm, ?_, fun hpersistent position ↦ ?_⟩
      · by_cases hid : id = write.array.id
        · subst hid
          obtain rfl : written = earlier := Option.some_inj.mp (hfind.symm.trans hearlier)
          rw [if_pos rfl, hshape]
          exact (Cells.shape_overlay hfits).symm
        · rw [if_neg hid]
          exact hshape
      · rw [former_recorded hfind hlifetime hfits hrecorded, hformer (hkept ▸ hpersistent)]

/-- Undoing the transaction brings back what it remembers. -/
theorem Remembers.find?_rollBack (hstore : store.WellFormed)
    (hremembers : store.Remembers snapshot) (id : Nat) :
    ((store.heap.rollBack store.transaction.journal).find? id).map Region.typed =
      TypedStore.undone (snapshot id) ((store.heap.find? id).map Region.typed) := by
  rw [hstore.find?_rollBack]
  cases hfind : store.heap.find? id with
  | none => rfl
  | some region =>
    rw [Option.map_some, Option.map_some, TypedStore.undone, Option.bind_some]
    cases hnew : store.transaction.journal.allocations.contains id with
    | true =>
      rw [hremembers.allocated (List.contains_iff_mem.mp hnew), Option.map_none,
        Option.filter_some_neg (by simp)]
      rfl
    | false =>
      have hold : id ∉ store.transaction.journal.allocations := fun hid ↦
        Bool.eq_false_iff.mp hnew (List.contains_iff_mem.mpr hid)
      obtain ⟨before, hbefore, hsame, hshape, hformer⟩ := hremembers.kept hfind hold
      have hfits : ∀ entry ∈ store.transaction.journal.entries, entry.region = id →
          region.lifetime = .persistent ∧
            entry.image.FitsAt entry.start region.cells.shape := by
        rintro entry hentry rfl
        exact hstore.fits entry hentry hfind
      rw [hbefore, Option.map_some, Option.filter_some_pos (by simp), Option.map_some]
      refine congrArg some ?_
      change Region.typed _ =
        if region.lifetime = .persistent then before.typed else region.typed
      by_cases hpersistent : region.lifetime = .persistent
      · have hcontents : store.heap.contents? id = some region.cells :=
          Heap.contents?_eq_some_iff.mpr ⟨region, hfind, hpersistent, rfl⟩
        have hreplayed := Journal.replay_spec fun entry hentry hid ↦ (hfits entry hentry hid).2
        rw [if_pos hpersistent]
        refine Region.typed_congr hsame.symm (Cells.ext_cell? ?_ fun position ↦ ?_)
        · rw [hreplayed.1, hshape]
        · rw [hreplayed.2, ← hformer hpersistent, former, hcontents, Option.bind_some]
          rfl
      · rw [if_neg hpersistent, Journal.replay_eq_self]
        exact fun entry hentry hid ↦ hpersistent (hfits entry hentry hid).1

end Remembers

end Store

end SmartCard
