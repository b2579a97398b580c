import SmartCard.Proofs.Memory.TypedStore

/-!
# What reads find

A typed store is what users see of a store (`Store.Refines`), with the snapshot that an open
transaction remembers. Every demand keeps the two together (`Store.Refines.meet`), so after any
demands the typed store says what every read that is allowed finds (`Store.reads_are_typed`).
-/

set_option autoImplicit false
set_option relaxedAutoImplicit false

namespace SmartCard

namespace Store

/-! ### Refinement -/

/-- Whether a typed store is what users see of a store. -/
structure Refines (typed : TypedStore) (store : Store) : Prop where
  wellFormed : store.WellFormed
  arrays_eq : ∀ id, typed.arrays id = (store.heap.find? id).map Region.typed
  idle : store.transaction.isActive = false → typed.snapshot = none
  active : store.transaction.isActive = true →
    ∃ snapshot, typed.snapshot = some snapshot ∧ store.Remembers snapshot

section Refines

variable {typed : TypedStore} {store : Store}

theorem refines_empty (quotas : PerLifetime) (capacity : Nat) :
    Refines .empty (.empty quotas capacity) where
  wellFormed := wellFormed_empty quotas capacity
  arrays_eq _ := rfl
  idle _ := rfl
  active hactive := Bool.noConfusion hactive

/-- What is not told apart by users changes nothing for them. -/
theorem Refines.withTear (hrefines : Refines typed store) (tear : TearInjector) :
    Refines typed (store.withTear tear) where
  wellFormed := hrefines.wellFormed.withTear tear
  arrays_eq := hrefines.arrays_eq
  idle := hrefines.idle
  active hactive := by
    obtain ⟨snapshot, hsnapshot, hremembers⟩ := hrefines.active hactive
    exact ⟨snapshot, hsnapshot, hremembers.withTear tear⟩

/-- Arrays changed in place, as users see them. -/
theorem Refines.mapRegions (hrefines : Refines typed store) {change : Nat → Region → Region}
    {seen : Nat → TypedArray → TypedArray}
    (hstore : { store with heap := store.heap.mapRegions change }.WellFormed)
    (horiginal : ∀ id region, (change id region).original = region.original)
    (hcells : ∀ id region, store.heap.find? id = some region → region.lifetime = .persistent →
      (change id region).cells = region.cells)
    (hseen : ∀ id region, store.heap.find? id = some region →
      (change id region).typed = seen id region.typed) :
    Refines (typed.mapArrays seen) { store with heap := store.heap.mapRegions change } where
  wellFormed := hstore
  arrays_eq id := by
    change (typed.arrays id).map (seen id) = _
    rw [hrefines.arrays_eq, Heap.find?_mapRegions]
    cases hfind : store.heap.find? id with
    | none => rfl
    | some region => exact congrArg some (hseen id region hfind).symm
  idle := hrefines.idle
  active hactive := by
    obtain ⟨snapshot, hsnapshot, hremembers⟩ := hrefines.active hactive
    exact ⟨snapshot, hsnapshot,
      hremembers.mapRegions hrefines.wellFormed hstore.heap horiginal hcells⟩

/-- Arrays freed, as users see them. -/
theorem Refines.discard (hrefines : Refines typed store) {doomed : Nat → Region → Bool}
    {seen : Nat → TypedArray → Bool}
    (hseen : ∀ id region, doomed id region = seen id region.typed) :
    Refines (typed.discard seen) { store with heap := store.heap.discard doomed } where
  wellFormed := hrefines.wellFormed.withHeap (hrefines.wellFormed.heap.discard doomed)
    (Heap.follows_discard hrefines.wellFormed.heap doomed)
  arrays_eq id := by
    change (typed.arrays id).filter (!seen id ·) = _
    rw [hrefines.arrays_eq, Heap.find?_discard hrefines.wellFormed.heap.nodup]
    cases store.heap.find? id with
    | none => rfl
    | some region =>
      rw [Option.map_some, Option.filter_some, Option.filter_some, hseen]
      split <;> rfl
  idle := hrefines.idle
  active hactive := by
    obtain ⟨snapshot, hsnapshot, hremembers⟩ := hrefines.active hactive
    exact ⟨snapshot, hsnapshot, hremembers.discard hrefines.wellFormed doomed⟩

theorem Refines.clearWhere (hrefines : Refines typed store) {forgotten : Region → Bool}
    {seen : TypedArray → Bool} (hseen : ∀ region, forgotten region = seen region.typed)
    (htransient : ∀ region, forgotten region = true → region.lifetime ≠ .persistent) :
    Refines (typed.clearWhere seen) { store with heap := store.heap.clearWhere forgotten } := by
  have hheap := hrefines.wellFormed.heap.clearWhere forgotten
  refine hrefines.mapRegions (hrefines.wellFormed.withHeap hheap
    (Heap.follows_clearWhere store.heap forgotten)) (fun _ ↦ Heap.original_cleared forgotten) ?_ ?_
  · intro id region _ hpersistent
    rw [if_neg fun hforgotten ↦ htransient region hforgotten hpersistent]
  · intro id region _
    rw [← hseen]
    split
    · exact region.typed_cleared
    · rfl

theorem Refines.allocate (hrefines : Refines typed store) (owner : ContextId) (lifetime : Lifetime)
    (kind : ElementKind) (length : Nat) :
    let outcome := store.allocate owner lifetime kind length
    Refines (typed.next (.allocated outcome.1)
      (.request (.allocate owner lifetime kind length))) outcome.2 := by
  intro outcome
  have hstore := hrefines.wellFormed.allocate owner lifetime kind length
  have hremembers := fun {snapshot} hactive (hremembers : store.Remembers snapshot) ↦
    hremembers.allocate hrefines.wellFormed hactive owner lifetime kind length
  subst outcome
  rcases store.allocate_cases owner lifetime kind length with ⟨error, h⟩ | ⟨text, h⟩ | h
  · rw [h]
    exact hrefines
  · rw [h] at hstore hremembers ⊢
    exact ⟨hstore, hrefines.arrays_eq, hrefines.idle, fun hactive ↦
      (hrefines.active hactive).imp fun _ hsnapshot ↦
        ⟨hsnapshot.1, hremembers hactive hsnapshot.2⟩⟩
  · rw [h] at hstore hremembers ⊢
    dsimp only at hstore hremembers ⊢
    have hactivity : (store.transaction.noteAllocation store.heap.nextId).isActive =
        store.transaction.isActive := by
      unfold Transaction.noteAllocation
      split <;> rfl
    constructor
    case wellFormed => exact hstore
    case arrays_eq =>
      intro id
      change (if id = store.heap.nextId then some (TypedArray.fresh owner lifetime kind length)
        else typed.arrays id) = _
      rw [Heap.find?_insert, hrefines.arrays_eq]
      split
      · exact congrArg some (Region.typed_fresh owner lifetime kind length).symm
      · rfl
    case idle => exact fun hidle ↦ hrefines.idle (hactivity.symm.trans hidle)
    case active =>
      intro hactive
      obtain ⟨snapshot, hsnapshot, hremembered⟩ := hrefines.active (hactivity.symm.trans hactive)
      exact ⟨snapshot, hsnapshot, hremembers (hactivity.symm.trans hactive) hremembered⟩

/-- What users see of a heap after a write. -/
theorem typed_applied {heap : Heap} {write : Write} {region : Region}
    (hfind : heap.find? write.array.id = some region) (hkind : region.kind = write.kind)
    (hfits : write.patch.FitsAt write.start region.cells.shape) (id : Nat) :
    ((heap.applied write).find? id).map Region.typed =
      ((heap.find? id).map Region.typed).map fun array ↦
        if id = write.array.id then array.written write else array := by
  unfold Heap.applied
  by_cases hempty : write.count = 0
  · have hsame : ∀ array : TypedArray, array.written write = array := by
      intro array
      refine congrArg (TypedArray.mk array.owner array.lifetime array.kind array.length)
        (funext fun index ↦ ?_)
      rw [Write.element?_of_empty hempty, Option.getD_none]
    simp only [if_pos hempty, hsame, ite_self, Option.map_id']
  · rw [if_neg hempty, Heap.written, Heap.find?_modify]
    by_cases hid : id = write.array.id
    · subst hid
      simp only [hfind, Option.map_some, if_true]
      exact congrArg some (Region.typed_written hkind hfits)
    · simp only [if_neg hid, Option.map_id']

theorem Refines.perform (hrefines : Refines typed store) (caller : ContextId) (write : Write) :
    let outcome := store.perform caller write
    Refines (if (Answer.done outcome.1).isDone then typed.written write else typed) outcome.2 := by
  intro outcome
  subst outcome
  have hstore := hrefines.wellFormed
  cases hresult : (store.perform caller write).1 with
  | error error =>
    obtain ⟨tear, hafter⟩ := perform_of_error hresult
    rw [hafter]
    exact hrefines.withTear tear
  | ok done =>
    constructor
    case wellFormed => exact hstore.perform caller write
    case arrays_eq =>
      intro id
      cases haccess : store.accessFor caller write with
      | error error =>
        rw [perform_of_refused haccess] at hresult
        cases hresult
      | ok region =>
        obtain ⟨hfind, hfits⟩ := fits_of_access hstore.heap haccess
        obtain ⟨-, hcheck⟩ := Heap.access_eq_ok_iff.mp haccess
        obtain ⟨-, hkind, -⟩ := Region.check_eq_ok_iff.mp hcheck
        rw [heap_perform haccess hresult, typed_applied hfind hkind hfits,
          ← hrefines.arrays_eq]
        rfl
    case idle =>
      intro hidle
      rw [isActive_perform hstore] at hidle
      exact hrefines.idle hidle
    case active =>
      intro hactive
      rw [isActive_perform hstore] at hactive
      obtain ⟨snapshot, hsnapshot, hremembers⟩ := hrefines.active hactive
      exact ⟨snapshot, hsnapshot, hremembers.perform hstore hactive caller write⟩

/-- Opening a transaction takes a snapshot, unless one is open. -/
theorem Refines.begin (hrefines : Refines typed store) :
    Refines (typed.next (store.meet .begin).1 .begin) (store.meet .begin).2 := by
  have hstore := hrefines.wellFormed
  unfold meet
  cases hactive : store.transaction.isActive with
  | true =>
    rw [begin_of_active hactive]
    exact hrefines
  | false =>
    have hremembers := remembers_begin hstore hactive
    have hbegun := hstore.begin
    rw [begin_of_idle hactive] at hremembers hbegun ⊢
    constructor
    case wellFormed => exact hbegun
    case arrays_eq => exact hrefines.arrays_eq
    case idle => exact fun hidle ↦ Bool.noConfusion hidle
    case active => exact fun _ ↦ ⟨_, congrArg some (funext hrefines.arrays_eq), hremembers⟩

/-- A commit forgets the snapshot. -/
theorem Refines.commit (hrefines : Refines typed store) :
    Refines (typed.next (store.meet .commit).1 .commit) (store.meet .commit).2 := by
  unfold meet
  cases hactive : store.transaction.isActive with
  | false =>
    rw [commit_of_idle hactive]
    exact hrefines
  | true =>
    rw [commit_of_active hactive]
    exact ⟨wellFormed_of_empty hrefines.wellFormed.heap rfl, hrefines.arrays_eq, fun _ ↦ rfl,
      fun hstill ↦ Bool.noConfusion hstill⟩

/-- An abort goes back to the snapshot. -/
theorem Refines.abort (hrefines : Refines typed store) :
    Refines (typed.next (store.meet .abort).1 .abort) (store.meet .abort).2 := by
  have hstore := hrefines.wellFormed
  unfold meet
  cases hactive : store.transaction.isActive with
  | false =>
    rw [abort_of_idle hactive]
    exact hrefines
  | true =>
    obtain ⟨snapshot, hsnapshot, hremembers⟩ := hrefines.active hactive
    rw [abort_of_active hactive]
    change Refines typed.rollBack _
    rw [TypedStore.rollBack, hsnapshot]
    constructor
    case wellFormed => exact wellFormed_of_empty hstore.rollBack rfl
    case arrays_eq =>
      intro id
      change TypedStore.undone (snapshot id) (typed.arrays id) = _
      rw [hrefines.arrays_eq]
      exact (hremembers.find?_rollBack hstore id).symm
    case idle => exact fun _ ↦ rfl
    case active => exact fun hstill ↦ Bool.noConfusion hstill

/-! ### Reading -/

/-- An element that may be read is the one that users see. -/
theorem Refines.get_eq (hrefines : Refines typed store) (kind : ElementKind) (caller : ContextId)
    (array : ArrayRef) (index : Nat) :
    (store.heap.get kind caller array index).map (Element.of kind) =
      (store.heap.access caller array kind index 1).map fun _ ↦ typed.element array.id index := by
  unfold Heap.get
  cases haccess : store.heap.access caller array kind index 1 with
  | error error => rfl
  | ok region =>
    obtain ⟨hfind, hcheck⟩ := Heap.access_eq_ok_iff.mp haccess
    obtain ⟨-, rfl, -⟩ := Region.check_eq_ok_iff.mp hcheck
    refine congrArg Except.ok ?_
    rw [TypedStore.element, hrefines.arrays_eq, hfind]
    rfl

/-- Bytes that may be read are the elements that users see. -/
theorem Refines.read_eq (hrefines : Refines typed store) (caller : ContextId) (array : ArrayRef)
    (offset length : Nat) :
    (store.heap.read caller array offset length).map (·.map Element.byte) =
      (store.heap.access caller array .byte offset length).map fun _ ↦
        (List.range length).map fun index ↦ typed.element array.id (offset + index) := by
  unfold Heap.read
  cases haccess : store.heap.access caller array .byte offset length with
  | error error => rfl
  | ok region =>
    obtain ⟨hfind, hcheck⟩ := Heap.access_eq_ok_iff.mp haccess
    obtain ⟨-, hkind, hrange⟩ := Region.check_eq_ok_iff.mp hcheck
    have hshape := hrefines.wellFormed.heap.shape_eq hfind
    rw [hkind] at hshape
    have hroom : offset + length ≤ region.cells.size := by
      rw [← Cells.size_shape, hshape]
      exact hrange.trans_eq (Nat.mul_one _).symm
    refine congrArg Except.ok ?_
    change (region.cells.slice offset length).toBytes.map Element.byte = _
    rw [Cells.elements_slice (congrArg CellShape.holdsReferences hshape) hroom]
    refine List.map_congr_left fun index _ ↦ ?_
    rw [TypedStore.element, hrefines.arrays_eq, hfind, ← hkind]
    rfl

/-- To write bytes read is to copy the elements. -/
theorem written_bytes_eq {bytes : List UInt8} {source : Nat} {sourceOffset length : Nat}
    (hbytes : bytes.map Element.byte =
      (List.range length).map fun index ↦ typed.element source (sourceOffset + index))
    (target : ArrayRef) (targetOffset : Nat) :
    typed.written (.bytes target targetOffset bytes) =
      typed.copied source sourceOffset target.id targetOffset length := by
  have hlength : bytes.length = length := by
    simpa only [List.length_map, List.length_range] using congrArg List.length hbytes
  have helement : ∀ array : TypedArray, array.written (.bytes target targetOffset bytes) =
      { array with element := fun index ↦
          if targetOffset ≤ index ∧ index < targetOffset + length then
            typed.element source (sourceOffset + (index - targetOffset))
          else array.element index } := by
    intro array
    refine congrArg (TypedArray.mk array.owner array.lifetime array.kind array.length)
      (funext fun index ↦ ?_)
    by_cases hinside : targetOffset ≤ index ∧ index < targetOffset + length
    · have hcell : bytes[index - targetOffset]?.map Element.byte =
          some (typed.element source (sourceOffset + (index - targetOffset))) := by
        rw [← List.getElem?_map, hbytes, List.getElem?_map,
          List.getElem?_range (by omega), Option.map_some]
      rw [if_pos hinside, Write.element?, if_pos hinside.1, hcell, Option.getD_some]
    · rw [if_neg hinside, Write.element?_of_outside, Option.getD_none]
      change index < targetOffset ∨ targetOffset + bytes.length ≤ index
      omega
  unfold TypedStore.written TypedStore.copied
  simp only [helement]
  rfl

/-- A copy writes the elements that its source had before. -/
theorem Refines.copy (hrefines : Refines typed store) (caller : ContextId) (source : ArrayRef)
    (sourceOffset : Nat) (target : ArrayRef) (targetOffset length : Nat) :
    let outcome := store.copy caller source sourceOffset target targetOffset length
    Refines (if (Answer.done outcome.1).isDone then
        typed.copied source.id sourceOffset target.id targetOffset length else typed)
      outcome.2 := by
  intro outcome
  have hread := hrefines.read_eq caller source sourceOffset length
  subst outcome
  unfold Store.copy
  cases hbytes : store.heap.read caller source sourceOffset length with
  | error error => exact hrefines
  | ok bytes =>
    rw [hbytes] at hread
    cases haccess : store.heap.access caller source .byte sourceOffset length with
    | error error =>
      rw [haccess] at hread
      cases hread
    | ok region =>
      rw [haccess] at hread
      have hcopied := written_bytes_eq (Except.ok.inj hread) target targetOffset
      rw [← hcopied]
      exact hrefines.perform caller (.bytes target targetOffset bytes)

/-- An array released is gone. -/
theorem Refines.release (hrefines : Refines typed store) (id : Nat) :
    let outcome := store.heap.release id
    Refines (if (Answer.done (outcome.map fun _ ↦ ())).isDone then
        typed.discard fun other _ ↦ other = id else typed)
      (store.withHeap? outcome) := by
  intro outcome
  subst outcome
  unfold Heap.release
  cases store.heap.isLive id with
  | true => exact hrefines.discard fun _ _ ↦ rfl
  | false => exact hrefines

/-- Who may use an array does not show. -/
theorem Refines.grant (hrefines : Refines typed store) (id : Nat) (client : ContextId) :
    Refines typed (store.withHeap? (store.heap.grant id client)) := by
  have hgranted : (store.withHeap? (store.heap.grant id client)).WellFormed :=
    hrefines.wellFormed.next (.grant id client)
  rcases store.heap.grant_cases id client with ⟨error, h⟩ | ⟨change, h, horiginal, hcells⟩
  · rw [h]
    exact hrefines
  · rw [h] at hgranted ⊢
    have hsame : typed.mapArrays (fun _ array ↦ array) = typed :=
      congrArg (TypedStore.mk · typed.snapshot) (funext fun _ ↦ Option.map_id')
    rw [← hsame]
    exact hrefines.mapRegions hgranted horiginal (fun id region _ _ ↦ hcells id region)
      fun id region _ ↦ Region.typed_congr (horiginal id region) (hcells id region)

/-! ### Any demands -/

/-- What a request makes of a store, users see in the typed store. -/
theorem Refines.answer (hrefines : Refines typed store) (request : Request) :
    Refines (typed.next (store.answer request).1 (.request request)) (store.answer request).2 := by
  cases request with
  | allocate owner lifetime kind length => exact hrefines.allocate owner lifetime kind length
  | release id => exact hrefines.release id
  | releaseOwnedBy owner => exact hrefines.discard fun _ _ ↦ rfl
  | grant id client => exact hrefines.grant id client
  | write caller write => exact hrefines.perform caller write
  | clearOnDeselect owner =>
    refine hrefines.clearWhere (fun _ ↦ rfl) fun region hforgotten hpersistent ↦ ?_
    have hlifetime := (Bool.and_eq_true_iff.mp hforgotten).2
    rw [hpersistent] at hlifetime
    exact Bool.noConfusion hlifetime
  | clearOnReset =>
    refine hrefines.clearWhere (fun _ ↦ rfl) fun region hforgotten hpersistent ↦ ?_
    rw [hpersistent] at hforgotten
    exact Bool.noConfusion hforgotten
  | get | read | lookup | available => exact hrefines
  | arm writes => exact hrefines.withTear _
  | disarm => exact hrefines.withTear _

/-- One demand (the step). -/
theorem Refines.meet (hrefines : Refines typed store) (demand : Demand) :
    Refines (typed.next (store.meet demand).1 demand) (store.meet demand).2 := by
  cases demand with
  | request request => exact hrefines.answer request
  | copy caller source sourceOffset target targetOffset length =>
    exact hrefines.copy caller source sourceOffset target targetOffset length
  | begin => exact hrefines.begin
  | commit => exact hrefines.commit
  | abort => exact hrefines.abort

/-- Any demands (the run). -/
theorem Refines.meetAll (hrefines : Refines typed store) (demands : List Demand) :
    Refines (store.meetAll typed demands).2 (store.meetAll typed demands).1 := by
  induction demands generalizing typed store with
  | nil => exact hrefines
  | cons demand rest ih => exact ih (hrefines.meet demand)

/-! ### Reads after writes -/

/-- An access that is allowed allows its parts. -/
theorem access_of_within {heap : Heap} {caller : ContextId} {array : ArrayRef} {kind : ElementKind}
    {index count : Nat} {region : Region}
    (haccess : heap.access caller array kind index count = .ok region) {first length : Nat}
    (hwithin : first + length ≤ index + count) :
    heap.access caller array kind first length = .ok region := by
  obtain ⟨hfind, hcheck⟩ := Heap.access_eq_ok_iff.mp haccess
  obtain ⟨hadmits, hkind, hrange⟩ := Region.check_eq_ok_iff.mp hcheck
  exact Heap.access_eq_ok_iff.mpr
    ⟨hfind, Region.check_eq_ok_iff.mpr ⟨hadmits, hkind, hwithin.trans hrange⟩⟩

/-- A write does not change which accesses are allowed. -/
theorem access_written (heap : Heap) (write : Write) (caller : ContextId) (array : ArrayRef)
    (kind : ElementKind) (index count : Nat) (seen : Element) :
    ((heap.written write).access caller array kind index count).map (fun _ ↦ seen) =
      (heap.access caller array kind index count).map fun _ ↦ seen := by
  unfold Heap.access Heap.lookup
  rw [Heap.written, Heap.find?_modify]
  cases heap.find? array.id with
  | none => rfl
  | some region =>
    by_cases hid : array.id = write.array.id
    · simp only [Option.map_some, if_pos hid]
      change Except.map _ (region.check caller kind index count >>= fun _ ↦ .ok _) =
        Except.map _ (region.check caller kind index count >>= fun _ ↦ .ok _)
      cases region.check caller kind index count <;> rfl
    · simp only [Option.map_some, if_neg hid]

/-- What reading an element finds, told as an element, determines what reading it gives. -/
theorem eq_of_map_of {kind : ElementKind} {first second : Except MemoryError kind.Value}
    (hsame : first.map (Element.of kind) = second.map (Element.of kind)) : first = second := by
  cases first with
  | error error =>
    cases second with
    | error other => exact congrArg Except.error (Except.error.inj hsame)
    | ok value => exact absurd hsame nofun
  | ok value =>
    cases second with
    | error other => exact absurd hsame nofun
    | ok other =>
      exact congrArg Except.ok (Element.of_injective kind (Except.ok.inj hsame))

section Written

variable {caller : ContextId} {write : Write}

/-- What an element reads as after a write that succeeds. -/
theorem Refines.get_perform (hrefines : Refines typed store)
    (hok : (store.perform caller write).1 = .ok ()) (kind : ElementKind) (reader : ContextId)
    (array : ArrayRef) (index : Nat) :
    ((store.perform caller write).2.heap.get kind reader array index).map (Element.of kind) =
      (store.heap.access reader array kind index 1).map fun _ ↦
        (typed.written write).element array.id index := by
  obtain ⟨region, haccess⟩ := access_of_ok hok
  have hafter : Refines (typed.written write) (store.perform caller write).2 := by
    have hdone := hrefines.perform caller write
    dsimp only at hdone
    rwa [hok] at hdone
  rw [hafter.get_eq, heap_perform haccess hok, Heap.applied]
  split
  · rfl
  · exact access_written store.heap write reader array kind index 1 _

/-- An element that a write does not name reads as before. -/
theorem Refines.get_of_unnamed (hrefines : Refines typed store)
    (hok : (store.perform caller write).1 = .ok ()) (kind : ElementKind) (reader : ContextId)
    {array : ArrayRef} {index : Nat}
    (hunnamed : array.id = write.array.id → write.element? index = none) :
    (store.perform caller write).2.heap.get kind reader array index =
      store.heap.get kind reader array index := by
  refine eq_of_map_of ?_
  rw [hrefines.get_perform hok, hrefines.get_eq]
  have hsame : (typed.written write).element array.id index = typed.element array.id index := by
    unfold TypedStore.element TypedStore.written TypedStore.mapArrays
    cases htyped : typed.arrays array.id with
    | none => simp only [htyped, Option.map_none]
    | some seen =>
      simp only [htyped, Option.map_some, Option.elim_some]
      split
      case isTrue hid =>
        change (write.element? index).getD (seen.element index) = seen.element index
        rw [hunnamed hid, Option.getD_none]
      case isFalse => rfl
  rw [hsame]

/-- An element that a write names reads as it was written, for whom it may be read by. -/
theorem Refines.get_of_named (hrefines : Refines typed store)
    (hok : (store.perform caller write).1 = .ok ()) {kind : ElementKind} {reader : ContextId}
    {array : ArrayRef} {index : Nat} {region : Region}
    (haccess : store.heap.access reader array kind index 1 = .ok region)
    (hid : array.id = write.array.id) {value : kind.Value}
    (hnamed : write.element? index = some (.of kind value)) :
    (store.perform caller write).2.heap.get kind reader array index = .ok value := by
  refine eq_of_map_of ?_
  rw [hrefines.get_perform hok, haccess]
  refine congrArg Except.ok ?_
  obtain ⟨hfind, -⟩ := Heap.access_eq_ok_iff.mp haccess
  unfold TypedStore.element TypedStore.written TypedStore.mapArrays
  simp only [hrefines.arrays_eq, hfind, Option.map_some, Option.elim_some]
  rw [if_pos hid]
  change (write.element? index).getD (region.typed.element index) = Element.of kind value
  rw [hnamed, Option.getD_some]

end Written

/-- Bytes that may be read are those that reading them one by one finds. -/
theorem Refines.get_of_read (hrefines : Refines typed store) {caller : ContextId}
    {array : ArrayRef} {offset length : Nat} {bytes : List UInt8}
    (hread : store.heap.read caller array offset length = .ok bytes) :
    bytes.length = length ∧ ∀ place < length, ∃ value, bytes[place]? = some value ∧
      store.heap.get .byte caller array (offset + place) = .ok value := by
  have hseen := hrefines.read_eq caller array offset length
  rw [hread] at hseen
  cases haccess : store.heap.access caller array .byte offset length with
  | error error =>
    rw [haccess] at hseen
    exact absurd hseen nofun
  | ok region =>
    rw [haccess] at hseen
    have hbytes := Except.ok.inj hseen
    have hlength : bytes.length = length := by
      simpa only [List.length_map, List.length_range] using congrArg List.length hbytes
    refine ⟨hlength, fun place hplace ↦ ?_⟩
    have hinside : place < bytes.length := hplace.trans_eq hlength.symm
    refine ⟨bytes[place], List.getElem?_eq_getElem hinside, eq_of_map_of ?_⟩
    rw [hrefines.get_eq, access_of_within haccess (by omega)]
    have helement : some (Element.byte bytes[place]) =
        some (typed.element array.id (offset + place)) := by
      have hplaced := congrArg (·[place]?) hbytes
      simpa only [List.getElem?_map, List.getElem?_eq_getElem hinside, List.getElem?_range hplace,
        Option.map_some] using hplaced
    exact congrArg Except.ok (Option.some_inj.mp helement).symm

section Copied

variable {caller : ContextId} {source target : ArrayRef} {sourceOffset targetOffset length : Nat}

/-- A copy that succeeds is a write of the bytes read. -/
theorem copy_of_ok
    (hok : (store.copy caller source sourceOffset target targetOffset length).1 = .ok ()) :
    ∃ bytes, store.heap.read caller source sourceOffset length = .ok bytes ∧
      store.copy caller source sourceOffset target targetOffset length =
        store.perform caller (.bytes target targetOffset bytes) := by
  unfold Store.copy at hok ⊢
  cases hread : store.heap.read caller source sourceOffset length with
  | error error =>
    rw [hread] at hok
    cases hok
  | ok bytes => exact ⟨bytes, rfl, rfl⟩

/-- Bytes copied read as their source did, also where the two ranges overlap. -/
theorem Refines.get_of_copied (hrefines : Refines typed store)
    (hok : (store.copy caller source sourceOffset target targetOffset length).1 = .ok ())
    {place : Nat} (hplace : place < length) :
    (store.copy caller source sourceOffset target targetOffset length).2.heap.get .byte caller
        target (targetOffset + place) =
      store.heap.get .byte caller source (sourceOffset + place) := by
  obtain ⟨bytes, hread, hcopy⟩ := copy_of_ok hok
  obtain ⟨hlength, hplaces⟩ := hrefines.get_of_read hread
  obtain ⟨value, hvalue, hget⟩ := hplaces place hplace
  rw [hcopy] at hok ⊢
  obtain ⟨region, haccess⟩ := access_of_ok hok
  have hinside : targetOffset + place + 1 ≤ targetOffset + bytes.length := by omega
  rw [hget]
  refine hrefines.get_of_named hok (access_of_within haccess hinside) rfl ?_
  change (if targetOffset ≤ targetOffset + place then
    bytes[targetOffset + place - targetOffset]?.map Element.byte else none) = _
  rw [if_pos (Nat.le_add_right _ _), Nat.add_sub_cancel_left, hvalue, Option.map_some]
  rfl

/-- Everything that is not copied to reads as before. -/
theorem Refines.get_beside_copied (hrefines : Refines typed store)
    (hok : (store.copy caller source sourceOffset target targetOffset length).1 = .ok ())
    (kind : ElementKind) (reader : ContextId) {array : ArrayRef} {index : Nat}
    (hbeside : array.id = target.id → index < targetOffset ∨ targetOffset + length ≤ index) :
    (store.copy caller source sourceOffset target targetOffset length).2.heap.get kind reader
        array index =
      store.heap.get kind reader array index := by
  obtain ⟨bytes, hread, hcopy⟩ := copy_of_ok hok
  obtain ⟨hlength, -⟩ := hrefines.get_of_read hread
  rw [hcopy] at hok ⊢
  refine hrefines.get_of_unnamed hok kind reader fun hid ↦ Write.element?_of_outside ?_
  change index < targetOffset ∨ targetOffset + bytes.length ≤ index
  rw [hlength]
  exact hbeside hid

end Copied

end Refines

/-- After any demands, the arrays are those of the typed store, and a read that is allowed finds
their elements. A value written is read back by whoever wrote it while every other element of
every array reads as before, and bytes copied read as their source did before, also where the two
ranges overlap. -/
theorem reads_are_typed {quotas : PerLifetime} {capacity : Nat} {demands : List Demand}
    {store : Store} {typed : TypedStore}
    (hreached : (empty quotas capacity).meetAll .empty demands = (store, typed)) :
    (∀ id, typed.arrays id = (store.heap.find? id).map Region.typed) ∧
    (∀ kind caller array index,
      (store.heap.get kind caller array index).map (Element.of kind) =
        (store.heap.access caller array kind index 1).map fun _ ↦
          typed.element array.id index) ∧
    (∀ caller array offset length,
      (store.heap.read caller array offset length).map (·.map Element.byte) =
        (store.heap.access caller array .byte offset length).map fun _ ↦
          (List.range length).map fun place ↦ typed.element array.id (offset + place)) ∧
    (∀ kind caller array index value after,
      store.set kind caller array index value = (.ok (), after) →
        after.heap.get kind caller array index = .ok value ∧
        ∀ otherKind reader other otherIndex, (other.id, otherIndex) ≠ (array.id, index) →
          after.heap.get otherKind reader other otherIndex =
            store.heap.get otherKind reader other otherIndex) ∧
    ∀ caller source sourceOffset target targetOffset length after,
      store.copy caller source sourceOffset target targetOffset length = (.ok (), after) →
        (∀ place < length, after.heap.get .byte caller target (targetOffset + place) =
          store.heap.get .byte caller source (sourceOffset + place)) ∧
        ∀ kind reader array index,
          (array.id = target.id → index < targetOffset ∨ targetOffset + length ≤ index) →
            after.heap.get kind reader array index = store.heap.get kind reader array index := by
  have hrefines : Refines typed store := by
    have hall := (refines_empty quotas capacity).meetAll demands
    rwa [hreached] at hall
  refine ⟨hrefines.arrays_eq, hrefines.get_eq, hrefines.read_eq, ?_, ?_⟩
  case refine_1 =>
    intro kind caller array index value after hset
    have hperform : store.perform caller (.element array kind index value) = (.ok (), after) :=
      hset
    have hok := congrArg Prod.fst hperform
    obtain ⟨region, haccess⟩ := access_of_ok hok
    have hafter : (store.perform caller (.element array kind index value)).2 = after :=
      congrArg Prod.snd hperform
    subst hafter
    refine ⟨hrefines.get_of_named hok haccess rfl (if_pos rfl), ?_⟩
    intro otherKind reader other otherIndex hother
    refine hrefines.get_of_unnamed hok otherKind reader fun hid ↦ if_neg fun hindex ↦ ?_
    exact hother (Prod.ext hid hindex)
  case refine_2 =>
    intro caller source sourceOffset target targetOffset length after hcopy
    have hok := congrArg Prod.fst hcopy
    obtain rfl := congrArg Prod.snd hcopy
    exact ⟨fun place hplace ↦ hrefines.get_of_copied hok hplace,
      fun kind reader array index ↦ hrefines.get_beside_copied hok kind reader⟩

/-- A short is written and undone, its neighbour stays, and bytes move up within their array. -/
theorem reads_are_typed_overlapping :
    let owner : ContextId := ⟨1⟩
    let demands : List Demand :=
      [.request (.allocate owner .persistent .short 2),
        .request (.write owner (.element ⟨1, owner⟩ .short 1 (-300 : Int16))), .begin,
        .request (.write owner (.element ⟨1, owner⟩ .short 0 (-2 : Int16))), .abort,
        .request (.allocate owner .clearOnReset .byte 4),
        .request (.write owner (.bytes ⟨2, owner⟩ 0 [1, 2, 3, 4]))]
    let store := ((empty ⟨64, 64, 64⟩ 32).meetAll .empty demands).1
    let moved := store.copy owner ⟨2, owner⟩ 0 ⟨2, owner⟩ 1 3
    (store.heap.get .short owner ⟨1, owner⟩ 0).map (Element.of .short) = .ok (.short 0) ∧
      (store.heap.get .short owner ⟨1, owner⟩ 1).map (Element.of .short) = .ok (.short (-300)) ∧
      (moved.2.heap.get .byte owner ⟨2, owner⟩ 0).map (Element.of .byte) = .ok (.byte 1) ∧
      (moved.2.heap.get .byte owner ⟨2, owner⟩ 3).map (Element.of .byte) = .ok (.byte 3) := by
  intro owner demands store moved
  have hmoved : moved.1 = .ok () := by decide +kernel
  have hfirst : (store.heap.get .byte owner ⟨2, owner⟩ 0).map (Element.of .byte) =
      .ok (.byte 1) := by decide +kernel
  have hthird : (store.heap.get .byte owner ⟨2, owner⟩ 2).map (Element.of .byte) =
      .ok (.byte 3) := by decide +kernel
  have htyped := @reads_are_typed ⟨64, 64, 64⟩ 32 demands store _ Prod.mk.eta.symm
  obtain ⟨-, helement, -, -, hcopied⟩ := htyped
  have hkept : (store.heap.get .short owner ⟨1, owner⟩ 0).map (Element.of .short) =
      .ok (.short 0) := (helement .short owner ⟨1, owner⟩ 0).trans (by decide +kernel)
  have hwritten : (store.heap.get .short owner ⟨1, owner⟩ 1).map (Element.of .short) =
      .ok (.short (-300)) := (helement .short owner ⟨1, owner⟩ 1).trans (by decide +kernel)
  -- From here on unification must not run the store.
  clear_value store
  obtain ⟨hinside, hbeside⟩ := hcopied owner ⟨2, owner⟩ 0 ⟨2, owner⟩ 1 3 moved.2
    (Prod.ext hmoved rfl)
  refine ⟨hkept, hwritten, ?_, ?_⟩
  · rwa [hbeside .byte owner ⟨2, owner⟩ 0 (by decide)]
  · rwa [hinside 2 (by decide)]

end Store

end SmartCard
