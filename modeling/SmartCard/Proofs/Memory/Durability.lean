import SmartCard.Proofs.Memory.Operation

/-!
# What a transaction commits

A transaction makes its writes in place and keeps the old contents in a journal. While the commit
buffer has room for them, nothing shows that a transaction is open: the same requests are answered
alike with it and without it, and a tear comes at the same write. A commit then leaves the store
that the requests lead to without a transaction, but for the count of commits
(`Store.commit_makes_direct`).

The two runs go in lock step. `Store.Shadows` relates the store inside the transaction to the one
outside after each request; only a write that does not fit the commit buffer breaks it, and such a
write says so in its answer.
-/

set_option autoImplicit false
set_option relaxedAutoImplicit false

namespace SmartCard

/-- Recording fails for want of room alone, and keeps the capacity. -/
theorem Journal.record_cases (journal : Journal) (region start length : Nat) (current : Cells) :
    (∃ needed available,
      journal.record region start length current = .error (.bufferFull needed available)) ∨
    ∃ after, journal.record region start length current = .ok after ∧
      after.capacity = journal.capacity := by
  unfold record
  dsimp only
  split
  · exact .inr ⟨journal, rfl, rfl⟩
  · split
    · exact .inl ⟨_, _, rfl⟩
    · exact .inr ⟨_, rfl, rfl⟩

namespace Store

/-! ### Requests and answers -/

/-- What can be asked of a store, apart from opening and closing transactions. -/
inductive Request where
  | allocate (owner : ContextId) (lifetime : Lifetime) (kind : ElementKind) (length : Nat)
  | release (id : Nat)
  | releaseOwnedBy (owner : ContextId)
  | grant (id : Nat) (client : ContextId)
  | write (caller : ContextId) (write : Write)
  | get (kind : ElementKind) (caller : ContextId) (array : ArrayRef) (index : Nat)
  | read (caller : ContextId) (array : ArrayRef) (offset length : Nat)
  | lookup (id : Nat)
  | available (lifetime : Lifetime)
  | clearOnDeselect (owner : ContextId)
  | clearOnReset
  | arm (writes : Nat)
  | disarm

inductive Answer where
  | allocated (ending : Ending (Except MemoryError ArrayRef))
  | done (outcome : Except MemoryError Unit)
  | element (kind : ElementKind) (outcome : Except MemoryError kind.Value)
  | bytes (outcome : Except MemoryError (List UInt8))
  | array (outcome : Except MemoryError Region)
  | count (number : Nat)

/-- The answer to a request, and the store after it. -/
def answer (store : Store) : Request → Answer × Store
  | .allocate owner lifetime kind length =>
    let outcome := store.allocate owner lifetime kind length
    (.allocated outcome.1, outcome.2)
  | .release id =>
    let outcome := store.heap.release id
    (.done (outcome.map fun _ ↦ ()), store.withHeap? outcome)
  | .releaseOwnedBy owner =>
    (.count (store.heap.countOwnedBy owner), { store with heap := store.heap.releaseOwnedBy owner })
  | .grant id client =>
    let outcome := store.heap.grant id client
    (.done (outcome.map fun _ ↦ ()), store.withHeap? outcome)
  | .write caller write =>
    let outcome := store.perform caller write
    (.done outcome.1, outcome.2)
  | .get kind caller array index => (.element kind (store.heap.get kind caller array index), store)
  | .read caller array offset length => (.bytes (store.heap.read caller array offset length), store)
  | .lookup id => (.array (store.heap.lookup id), store)
  | .available lifetime => (.count (store.heap.available lifetime), store)
  | .clearOnDeselect owner =>
    (.count (store.heap.countWhere (Heap.isClearedOnDeselect owner)),
      { store with heap := store.heap.clearOnDeselect owner })
  | .clearOnReset =>
    (.count (store.heap.countWhere (·.lifetime.isTransient)),
      { store with heap := store.heap.clearOnReset })
  | .arm writes => (.done (.ok ()), store.withTear (store.transaction.tear.arm writes))
  | .disarm => (.done (.ok ()), store.withTear store.transaction.tear.disarm)

/-- The answers to some requests, one after another, and the store after them. -/
def answerAll (store : Store) : List Request → List Answer × Store
  | [] => ([], store)
  | request :: rest =>
    let first := store.answer request
    let others := answerAll first.2 rest
    (first.1 :: others.1, others.2)

/-- Whether an answer says that the commit buffer is full. -/
def Answer.isBufferFull : Answer → Bool
  | .done (.error (.journal (.bufferFull _ _))) => true
  | _ => false

/-! ### Lock step -/

/-- A store with a transaction open looks like one without: they differ only in what is recorded
and in the transaction being open. Both have a commit buffer of the given capacity. -/
structure Shadows (capacity : Nat) (inside outside : Store) : Prop where
  heap_eq : inside.heap = outside.heap
  tear_eq : inside.transaction.tear = outside.transaction.tear
  isActive : inside.transaction.isActive = true
  idle : outside.transaction.isActive = false
  capacity_eq : inside.transaction.journal.capacity = capacity
  journal_eq : outside.transaction.journal = .empty capacity
  commits_eq : inside.transaction.commits = outside.transaction.commits
  aborts_eq : inside.transaction.aborts = outside.transaction.aborts

variable {capacity : Nat} {inside outside : Store}

/-- A transaction just opened shadows the store that it was opened in. -/
theorem shadows_begin {store : Store} (hstore : store.WellFormed)
    (hidle : store.transaction.isActive = false) :
    Shadows store.transaction.journal.capacity store.begin.2 store := by
  rw [begin_of_idle hidle]
  exact ⟨rfl, rfl, rfl, hidle, rfl, hstore.idle hidle, rfl, rfl⟩

/-- A commit leaves the store outside the transaction, with one more commit counted. -/
theorem Shadows.commit (hshadows : Shadows capacity inside outside) :
    inside.commit = (.ok inside.transaction.journal.entries.length,
      { outside with
        transaction :=
          { outside.transaction with commits := outside.transaction.commits + 1 } }) := by
  obtain ⟨heap, isActive, journal, tear, commits, aborts⟩ := inside
  obtain ⟨heap', isActive', journal', tear', commits', aborts'⟩ := outside
  obtain ⟨rfl, rfl, rfl, rfl, rfl, rfl, rfl, rfl⟩ := hshadows
  exact commit_of_active rfl

theorem Shadows.withHeap (hshadows : Shadows capacity inside outside) {heap heap' : Heap}
    (hheap : heap = heap') :
    Shadows capacity { inside with heap } { outside with heap := heap' } :=
  { hshadows with heap_eq := hheap }

theorem Shadows.withHeap? (hshadows : Shadows capacity inside outside)
    (outcome : Except MemoryError Heap) :
    Shadows capacity (inside.withHeap? outcome) (outside.withHeap? outcome) := by
  cases outcome with
  | ok heap => exact hshadows.withHeap rfl
  | error => exact hshadows

theorem Shadows.withTear (hshadows : Shadows capacity inside outside) (tear : TearInjector) :
    Shadows capacity (inside.withTear tear) (outside.withTear tear) :=
  { hshadows with tear_eq := rfl }

/-- The journal notes an array allocated, and nothing else tells the runs apart. -/
theorem Shadows.allocate (hshadows : Shadows capacity inside outside) (owner : ContextId)
    (lifetime : Lifetime) (kind : ElementKind) (length : Nat) :
    (inside.allocate owner lifetime kind length).1 =
        (outside.allocate owner lifetime kind length).1 ∧
      Shadows capacity (inside.allocate owner lifetime kind length).2
        (outside.allocate owner lifetime kind length).2 := by
  unfold Store.allocate
  rw [hshadows.heap_eq]
  rcases outside.heap.allocate_cases owner lifetime kind length with
    ⟨error, hallocate⟩ | ⟨text, hallocate⟩ | hallocate
  · rw [hallocate]
    exact ⟨rfl, hshadows.withHeap rfl⟩
  · rw [hallocate]
    exact ⟨rfl, hshadows.withHeap rfl⟩
  · rw [hallocate]
    dsimp only
    unfold Transaction.noteAllocation
    rw [if_pos hshadows.isActive, if_neg (Bool.eq_false_iff.mp hshadows.idle)]
    exact ⟨rfl, { hshadows with heap_eq := rfl }⟩

/-- A write is answered alike inside the transaction and outside, if the commit buffer has room: the
injector decides first, and it is the same. -/
theorem Shadows.perform (hshadows : Shadows capacity inside outside) (caller : ContextId)
    (write : Write) :
    (∃ needed available,
      (inside.perform caller write).1 = .error (.journal (.bufferFull needed available))) ∨
    (inside.perform caller write).1 = (outside.perform caller write).1 ∧
      Shadows capacity (inside.perform caller write).2 (outside.perform caller write).2 := by
  have hwritten : inside.heap.written write = outside.heap.written write := by
    rw [hshadows.heap_eq]
  cases haccess : outside.accessFor caller write with
  | error error =>
    have haccess' : inside.accessFor caller write = .error error := by
      rw [accessFor, hshadows.heap_eq, ← accessFor, haccess]
    rw [perform_of_refused haccess, perform_of_refused haccess']
    exact .inr ⟨rfl, hshadows⟩
  | ok region =>
    have haccess' : inside.accessFor caller write = .ok region := by
      rw [accessFor, hshadows.heap_eq, ← accessFor, haccess]
    by_cases hcount : write.count = 0
    · rw [perform_of_empty haccess hcount, perform_of_empty haccess' hcount]
      exact .inr ⟨rfl, hshadows⟩
    by_cases hlifetime : region.lifetime = .persistent
    · rw [perform_of_persistent haccess hcount hlifetime,
        perform_of_persistent haccess' hcount hlifetime]
      unfold Transaction.prepareWrite
      rw [hshadows.tear_eq]
      obtain ⟨error | passed, tear⟩ := outside.transaction.tear.pass
      · exact .inr ⟨rfl, hshadows.withTear tear⟩
      dsimp only
      rw [if_pos hshadows.isActive, if_neg (Bool.eq_false_iff.mp hshadows.idle)]
      rcases inside.transaction.journal.record_cases write.array.id write.start write.patch.size
        region.cells with ⟨needed, available, hrecord⟩ | ⟨journal, hrecord, hcapacity⟩
      · rw [hrecord]
        exact .inl ⟨needed, available, rfl⟩
      · rw [hrecord]
        exact .inr ⟨rfl, { hshadows with
          heap_eq := hwritten
          tear_eq := rfl
          capacity_eq := hcapacity.trans hshadows.capacity_eq }⟩
    · rw [perform_of_transient haccess hcount hlifetime,
        perform_of_transient haccess' hcount hlifetime]
      exact .inr ⟨rfl, hshadows.withHeap hwritten⟩

/-- One request is answered alike inside the transaction and outside, and the stores still go with
each other, unless the commit buffer is full. -/
theorem Shadows.answer (hshadows : Shadows capacity inside outside) {request : Request}
    (hroom : (inside.answer request).1.isBufferFull = false) :
    (inside.answer request).1 = (outside.answer request).1 ∧
      Shadows capacity (inside.answer request).2 (outside.answer request).2 := by
  have hheap := hshadows.heap_eq
  cases request with
  | allocate owner lifetime kind length =>
    obtain ⟨hending, hafter⟩ := hshadows.allocate owner lifetime kind length
    exact ⟨congrArg Answer.allocated hending, hafter⟩
  | write caller write =>
    rcases hshadows.perform caller write with ⟨needed, available, hfull⟩ | ⟨houtcome, hafter⟩
    · unfold Store.answer at hroom
      dsimp only at hroom
      rw [hfull] at hroom
      cases hroom
    · exact ⟨congrArg Answer.done houtcome, hafter⟩
  | release id =>
    unfold Store.answer
    rw [hheap]
    exact ⟨rfl, hshadows.withHeap? _⟩
  | grant id client =>
    unfold Store.answer
    rw [hheap]
    exact ⟨rfl, hshadows.withHeap? _⟩
  | releaseOwnedBy owner | clearOnDeselect owner | clearOnReset =>
    unfold Store.answer
    rw [hheap]
    exact ⟨rfl, hshadows.withHeap rfl⟩
  | get kind caller array index | read caller array offset length | lookup id
  | available lifetime =>
    unfold Store.answer
    rw [hheap]
    exact ⟨rfl, hshadows⟩
  | arm writes | disarm =>
    unfold Store.answer
    rw [hshadows.tear_eq]
    exact ⟨rfl, hshadows.withTear _⟩

/-- Some requests are answered alike inside the transaction and outside. -/
theorem Shadows.answerAll (hshadows : Shadows capacity inside outside) {requests : List Request}
    (hroom : ∀ answer ∈ (inside.answerAll requests).1, answer.isBufferFull = false) :
    (inside.answerAll requests).1 = (outside.answerAll requests).1 ∧
      Shadows capacity (inside.answerAll requests).2 (outside.answerAll requests).2 := by
  induction requests generalizing inside outside with
  | nil => exact ⟨rfl, hshadows⟩
  | cons request rest ih =>
    unfold Store.answerAll at hroom ⊢
    rw [List.forall_mem_cons] at hroom
    obtain ⟨hfirst, hafter⟩ := hshadows.answer hroom.1
    obtain ⟨hothers, hlast⟩ := ih hafter hroom.2
    exact ⟨congrArg₂ List.cons hfirst hothers, hlast⟩

/-- Whatever is asked inside a transaction is answered as without one, as long as the commit buffer
has room, and the commit makes just what was done permanent: it leaves the store that the requests
lead to without a transaction, with one more commit counted and the whole commit buffer free. -/
theorem commit_makes_direct {store : Store} (hreach : store.Reachable)
    (hidle : store.transaction.depth = 0) {requests : List Request}
    (hroom : ∀ answer ∈ (store.begin.2.answerAll requests).1, answer.isBufferFull = false) :
    let inside := (store.begin.2.answerAll requests).2
    let direct := (store.answerAll requests).2
    let committed := inside.commit.2
    store.begin.1 = .ok () ∧
      (store.begin.2.answerAll requests).1 = (store.answerAll requests).1 ∧
      inside.commit.1 = .ok inside.transaction.journal.entries.length ∧
      committed.heap = direct.heap ∧
      committed.transaction =
        { direct.transaction with commits := direct.transaction.commits + 1 } ∧
      committed.transaction.journal = .empty store.transaction.journal.capacity ∧
      committed.transaction.journal.remaining = store.transaction.journal.capacity := by
  intro inside direct committed
  rw [depth_eq_zero_iff] at hidle
  obtain ⟨hanswers, hshadows⟩ := (shadows_begin hreach.wellFormed hidle).answerAll hroom
  have hcommit : inside.commit = (_, _) := hshadows.commit
  have hjournal : committed.transaction.journal = .empty store.transaction.journal.capacity := by
    rw [show committed = _ from congrArg Prod.snd hcommit]
    exact hshadows.journal_eq
  refine ⟨by rw [begin_of_idle hidle], hanswers, congrArg Prod.fst hcommit, ?_, ?_, hjournal, ?_⟩
  · exact congrArg (·.2.heap) hcommit
  · exact congrArg (·.2.transaction) hcommit
  · rw [hjournal]
    exact Nat.sub_zero _

/-- A transaction that merges images, frees an array with an image in the journal, allocates, is
refused an access and is torn commits what it did. -/
theorem commit_makes_direct_torn :
    let card : ContextId := ⟨1⟩
    let kept : ArrayRef := ⟨1, card⟩
    let freed : ArrayRef := ⟨2, card⟩
    let store := [Operation.allocate card .persistent .byte 4,
      .allocate card .persistent .short 2].foldl next (empty ⟨64, 64, 64⟩ 16)
    let requests := [Request.write card (.fill kept 2 2 7), .write card (.fill kept 0 2 9),
      .write card (.element freed .short 1 (-1 : Int16)), .release 2,
      .allocate card .clearOnReset .object 3, .write ⟨2⟩ (.fill kept 0 1 1), .clearOnReset, .arm 0,
      .write card (.bytes kept 1 [1, 2]), .read card kept 0 4]
    let committed := (store.begin.2.answerAll requests).2.commit.2
    store.Reachable ∧ store.transaction.depth = 0 ∧
      (∀ answer ∈ (store.begin.2.answerAll requests).1, answer.isBufferFull = false) ∧
      committed.heap = (store.answerAll requests).2.heap ∧
      committed.heap.read card kept 0 4 = .ok [9, 9, 7, 7] := by
  intro card kept freed store requests committed
  have hreach : store.Reachable := (Reachable.empty _ _).foldl _
  have hidle : store.transaction.depth = 0 := rfl
  have hroom : ∀ answer ∈ (store.begin.2.answerAll requests).1, answer.isBufferFull = false := by
    decide +kernel
  have hcommits := commit_makes_direct hreach hidle hroom
  exact ⟨hreach, hidle, hroom, hcommits.2.2.2.1, by decide +kernel⟩

end Store

end SmartCard
