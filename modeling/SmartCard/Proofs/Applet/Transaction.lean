import SmartCard.Applet.Code
import SmartCard.Applet.Session
import SmartCard.Proofs.Memory.Completion

/-!
# All or nothing

Applet code that opens a transaction, makes some writes and commits, up to the first call that
fails, leaves one of two things once the card has undone whatever transaction is open: the heap that
the writes leave when they are made directly, or the arrays and the persistent contents that there
were. Which of them it is, `Store.Completes` tells beforehand
(`Session.transaction_all_or_nothing`).
-/

set_option autoImplicit false
set_option relaxedAutoImplicit false

namespace SmartCard

variable {σ α β : Type}

/-- The code that makes a write. -/
def Write.code : Write → Hook σ Unit
  | .element array kind index value => Code.set kind array index value
  | .bytes array offset values => Code.write array offset values
  | .fill array offset length value => Code.fill array offset length value

namespace Code

/-- The code that makes some writes, up to the first that fails. -/
def writeAll : List Write → Hook σ Unit
  | [] => pure ()
  | write :: rest => do
    write.code
    writeAll rest

/-- The code that makes some writes inside a transaction. -/
def transactionOf (writes : List Write) : Hook σ Unit := do
  begin
  writeAll writes
  commit

end Code

namespace Session

/-- Runs applet code in a session. -/
def play (session : Session σ) (code : Hook σ α) : Ending (Except CardError α) × Session σ :=
  code.run.run answer session

/-! ### Running code -/

/-- Code that comes after other code runs if that succeeds. -/
theorem play_bind (session : Session σ) (code : Hook σ α) (next : α → Hook σ β) :
    session.play (code >>= next) =
      match session.play code with
      | (.value (.ok value), after) => after.play (next value)
      | (.value (.error error), after) => (.value (.error error), after)
      | (.crash text, after) => (.crash text, after) := by
  change Program.run answer (Program.bind code.run (ExceptT.bindCont next)) session = _
  rw [Program.run_bind]
  unfold play
  generalize code.run.run answer session = outcome
  obtain ⟨(_ | _) | _, after⟩ := outcome <;> rfl

theorem play_begin (session : Session σ) :
    session.play Code.begin =
      (.value (session.ofTransaction session.platform.store.begin).1,
        (session.ofTransaction session.platform.store.begin).2) :=
  rfl

theorem play_commit (session : Session σ) :
    session.play Code.commit =
      (.value (session.ofTransaction session.platform.store.commit).1,
        (session.ofTransaction session.platform.store.commit).2) :=
  rfl

theorem play_getShort {session : Session σ} {array : ArrayRef} {index : Nat} {value : Int16}
    (hvalue : session.platform.store.heap.get .short session.context array index = .ok value) :
    session.play (Code.getShort array index) = (.value (.ok value), session) := by
  change (Ending.value ((session.platform.store.heap.get .short session.context array
    index).mapError CardError.memory), session) = _
  rw [hvalue]
  rfl

theorem play_write (session : Session σ) (write : Write) :
    session.play write.code =
      (.value ((session.platform.store.perform session.context write).1.mapError .memory),
        session.withStore (session.platform.store.perform session.context write).2) := by
  cases write <;> rfl

/-- Code that makes some writes does to the store what the writes do. -/
theorem play_writeAll (session : Session σ) (writes : List Write) :
    session.play (Code.writeAll writes) =
      (.value ((Store.performAll session.context writes session.platform.store).1.mapError .memory),
        session.withStore
          (Store.performAll session.context writes session.platform.store).2) := by
  induction writes generalizing session with
  | nil => rfl
  | cons write rest ih =>
    unfold Code.writeAll Store.performAll
    rw [play_bind, play_write]
    generalize session.platform.store.perform session.context write = outcome
    obtain ⟨_ | _, after⟩ := outcome
    · rfl
    · exact ih (session.withStore after)

/-! ### The two outcomes -/

section Outcomes

variable {session : Session σ} {writes : List Write}

/-- Code that makes some writes inside a transaction ends with their outcome, and with their last
store, committed if all succeeded. -/
theorem play_transactionOf_eq (hidle : session.platform.store.transaction.isActive = false) :
    session.play (Code.transactionOf writes) =
      match Store.performAll session.context writes session.platform.store.begin.2 with
      | (.ok (), last) =>
        (.value (session.ofTransaction last.commit).1, session.withStore last.commit.2)
      | (.error error, last) => (.value (.error (.memory error)), session.withStore last) := by
  have hbegin : (session.ofTransaction session.platform.store.begin).1 = .ok () := by
    rw [Store.begin_of_idle hidle]
    rfl
  unfold Code.transactionOf
  rw [play_bind, play_begin, hbegin]
  have hbody : (session.withStore session.platform.store.begin.2).play (Code.writeAll writes) =
      (.value ((Store.performAll session.context writes
          session.platform.store.begin.2).1.mapError .memory),
        session.withStore
          (Store.performAll session.context writes session.platform.store.begin.2).2) :=
    play_writeAll _ writes
  change (session.withStore session.platform.store.begin.2).play _ = _
  rw [play_bind, hbody]
  generalize Store.performAll session.context writes session.platform.store.begin.2 = outcome
  obtain ⟨_ | _, last⟩ := outcome
  · rfl
  · exact play_commit (session.withStore last)

/-- When a write fails, so does the code, and undoing leads back to the heap before. -/
theorem settle_of_failure (hstore : session.platform.store.WellFormed)
    (hidle : session.platform.store.transaction.isActive = false) {error : MemoryError}
    {last : Store} (hrun : Store.performAll session.context writes
      session.platform.store.begin.2 = (.error error, last)) :
    let outcome := session.play (Code.transactionOf writes)
    outcome.1 = .value (.error (.memory error)) ∧ outcome.2.platform.settle.store.Rests ∧
      outcome.2.platform.settle.store.heap.Resembles session.platform.store.heap := by
  intro outcome
  have hretains := (Store.retains_begin hstore hidle).performAll session.context writes
  rw [hrun] at hretains
  have houtcome : outcome = (.value (.error (.memory error)), session.withStore last) := by
    change session.play (Code.transactionOf writes) = _
    rw [play_transactionOf_eq hidle, hrun]
  rw [houtcome]
  exact ⟨rfl, hretains.settle hstore.heap⟩

/-- When all writes succeed, the code commits, and nothing is left to undo. -/
theorem settle_of_success (hstore : session.platform.store.WellFormed)
    (hidle : session.platform.store.transaction.isActive = false) {last : Store}
    (hrun : Store.performAll session.context writes session.platform.store.begin.2 =
      (.ok (), last)) :
    let outcome := session.play (Code.transactionOf writes)
    outcome.1 = .value (.ok ()) ∧ outcome.2.platform.settle.store.Rests ∧
      outcome.2.platform.settle.store.heap = last.heap := by
  intro outcome
  have hretains := (Store.retains_begin hstore hidle).performAll session.context writes
  rw [hrun] at hretains
  change last.Retains _ at hretains
  have hcommit := Store.commit_of_active hretains.isActive
  have hcommitted := hretains.wellFormed.commit
  have houtcome : outcome = (.value (session.ofTransaction last.commit).1,
      session.withStore last.commit.2) := by
    change session.play (Code.transactionOf writes) = _
    rw [play_transactionOf_eq hidle, hrun]
  rw [hcommit] at hcommitted houtcome
  have hsettled : outcome.2.platform.settle.store = _ :=
    (congrArg (·.2.platform.settle.store) houtcome).trans (Store.settle_of_idle rfl)
  rw [hsettled, houtcome]
  exact ⟨rfl, hcommitted.rests rfl, rfl⟩

/-- A transaction made of writes that are allowed completes or leaves nothing behind. -/
theorem transaction_all_or_nothing (hreach : session.platform.store.Reachable)
    (hidle : session.platform.store.transaction.depth = 0)
    (hallows : ∀ write ∈ writes, session.platform.store.Allows session.context write) :
    let store := session.platform.store
    let outcome := session.play (Code.transactionOf writes)
    let after := outcome.2.platform.settle.store
    let direct := Store.performAll session.context writes (store.next .disarm)
    (outcome.1 = .value (.ok ()) ↔ store.Completes writes) ∧
      (store.Completes writes → direct.1 = .ok () ∧ after.heap = direct.2.heap) ∧
      (¬ store.Completes writes →
        (∃ error, outcome.1 = .value (.error error)) ∧ after.heap.Resembles store.heap) ∧
      after.transaction.depth = 0 ∧
      after.transaction.journal = .empty after.transaction.journal.capacity := by
  intro store outcome after direct
  have hstore := hreach.wellFormed
  rw [Store.depth_eq_zero_iff] at hidle
  have hcompletes := Store.performAll_begin_eq_ok_iff hstore hidle hallows
  have hdirect : direct.1 = .ok () := Store.performAll_direct hidle rfl hallows
  have hdirectHeap : direct.2.heap = writes.foldl Heap.applied store.heap :=
    Store.heap_performAll hallows hdirect
  have hheap : (Store.performAll session.context writes store.begin.2).1 = .ok () →
      (Store.performAll session.context writes store.begin.2).2.heap =
        writes.foldl Heap.applied store.heap := by
    rw [Store.begin_of_idle hidle]
    exact Store.heap_performAll hallows
  rcases hrun : Store.performAll session.context writes store.begin.2 with ⟨error | passed, last⟩
  · obtain ⟨hvalue, hrests, hresembles⟩ := settle_of_failure hstore hidle hrun
    have hfails : ¬ store.Completes writes := by
      rw [← hcompletes, hrun]
      exact nofun
    refine ⟨?_, ?_, ?_, hrests.depth_eq, hrests.journal_eq⟩
    · change outcome.1 = _ at hvalue
      rw [hvalue]
      exact iff_of_false nofun hfails
    · intro hholds
      exact absurd hholds hfails
    · intro _
      exact ⟨⟨_, hvalue⟩, hresembles⟩
  · obtain ⟨hvalue, hrests, hsame⟩ := settle_of_success hstore hidle hrun
    have hholds : store.Completes writes := by
      rw [← hcompletes, hrun]
    refine ⟨iff_of_true hvalue hholds, ?_, ?_, hrests.depth_eq, hrests.journal_eq⟩
    · intro _
      rw [hrun] at hheap
      exact ⟨hdirect, hsame.trans ((hheap rfl).trans hdirectHeap.symm)⟩
    · intro hfails
      exact absurd hholds hfails

/-- A transaction of four writes, of which two count, is torn at the second of these. -/
theorem transaction_all_or_nothing_torn :
    let context : ContextId := ⟨1⟩
    let store := [Store.Operation.allocate context .persistent .byte 4,
      .allocate context .clearOnReset .byte 2, .allocate context .persistent .object 2,
      .arm 1].foldl Store.next (.empty ⟨64, 64, 64⟩ 16)
    let session : Session Unit := ⟨⟨context, 0, false⟩, ⟨store, .initial⟩, (), none⟩
    let writes := [Write.bytes ⟨1, context⟩ 1 [7, 8], .fill ⟨2, context⟩ 0 2 9,
      .fill ⟨1, context⟩ 4 0 1, .element ⟨3, context⟩ .object 1 (some (⟨1, context⟩ : ArrayRef))]
    (store.Reachable ∧ store.transaction.depth = 0 ∧
      ∀ write ∈ writes, store.Allows session.context write) ∧
    (session.play (Code.transactionOf writes)).2.platform.settle.store.heap.Resembles
      store.heap := by
  intro context store session writes
  have hreach : store.Reachable := (Store.Reachable.empty _ _).foldl _
  have hidle : session.platform.store.transaction.depth = 0 := rfl
  have hallows : ∀ write ∈ writes, session.platform.store.Allows session.context write := by
    decide
  have htorn : ¬ store.Completes writes := by
    intro hcompletes
    have hless := hcompletes.tear 1 rfl
    revert hless
    decide
  exact ⟨⟨hreach, hidle, hallows⟩,
    ((transaction_all_or_nothing hreach hidle hallows).2.2.1 htorn).2⟩

end Outcomes

end Session

end SmartCard
