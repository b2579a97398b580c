import SmartCard.Proofs.Memory.Refusal

/-!
# Writes and the tear injector

A write that counts is torn if the injector has none left to let through; otherwise the injector
counts it, whether it comes about or does not fit the commit buffer. No other write involves the
injector. So an injector has fired once more after some writes just if they ended with a tear
(`Store.fired_performAll`), one that is disarmed stays as it is
(`Store.tear_performAll_of_disarmed`), and writes that are not torn go as they go without it
(`Store.performAll_disarmed`).
-/

set_option autoImplicit false
set_option relaxedAutoImplicit false

namespace SmartCard

namespace Store

variable {store : Store} {caller : ContextId} {write : Write} {tear : TearInjector}

/-! ### One write -/

/-- A write that counts comes through when no tear is due, unless the commit buffer is full, and is
counted either way. -/
theorem perform_of_passed (hallowed : (write.access caller).IsAllowed store.heap)
    (hcounts : store.heap.counts write = true)
    (hpassed : store.transaction.tear.remaining ≠ some 0) :
    ((store.perform caller write).1 = .ok () ∨ ∃ needed available,
      (store.perform caller write).1 = .error (.journal (.bufferFull needed available))) ∧
    (store.perform caller write).2.transaction.tear = { store.transaction.tear with
      remaining := store.transaction.tear.remaining.map (· - 1) } := by
  obtain ⟨region, haccess⟩ := accessFor_of_allowed hallowed
  rw [perform_of_counts haccess hcounts, Transaction.prepareWrite,
    TearInjector.pass_of_ne_zero hpassed]
  dsimp only
  by_cases hactive : store.transaction.isActive = true
  · rw [if_pos hactive]
    rcases store.transaction.journal.record_cases write.array.id write.start write.patch.size
      region.cells with ⟨needed, available, hfull⟩ | ⟨journal, hrecord, -⟩
    · rw [hfull]
      exact ⟨.inr ⟨needed, available, rfl⟩, rfl⟩
    · rw [hrecord]
      exact ⟨.inl rfl, rfl⟩
  · rw [if_neg hactive]
    exact ⟨.inl rfl, rfl⟩

/-- A write that does not count is not torn and leaves the injector alone. -/
theorem perform_of_uncounted (huncounted : ¬ ((write.access caller).IsAllowed store.heap ∧
      store.heap.counts write = true)) :
    (store.perform caller write).1 ≠ .error (.journal .torn) ∧
      (store.perform caller write).2.transaction = store.transaction := by
  rcases (write.access caller).isAllowed_or_breaks store.heap with hallowed | ⟨error, hbreaks⟩
  · obtain ⟨region, haccess⟩ := accessFor_of_allowed hallowed
    have hcounts := Bool.eq_false_iff.mpr fun hcounts ↦ huncounted ⟨hallowed, hcounts⟩
    rw [perform_of_not_counts haccess hcounts]
    exact ⟨nofun, rfl⟩
  · rw [perform_of_refused (accessFor_of_breaks hbreaks)]
    refine ⟨fun htorn ↦ ?_, rfl⟩
    cases Except.error.inj htorn
    cases hbreaks

/-- The injector has fired once more just if the write was torn. -/
theorem fired_perform (store : Store) (caller : ContextId) (write : Write) :
    (store.perform caller write).1 = .error (.journal .torn) ∧
        (store.perform caller write).2.transaction.tear.fired =
          store.transaction.tear.fired + 1 ∨
      (store.perform caller write).1 ≠ .error (.journal .torn) ∧
        (store.perform caller write).2.transaction.tear.fired =
          store.transaction.tear.fired := by
  by_cases hcounted : (write.access caller).IsAllowed store.heap ∧ store.heap.counts write = true
  · obtain ⟨hallowed, hcounts⟩ := hcounted
    by_cases hdue : store.transaction.tear.remaining = some 0
    · obtain ⟨region, haccess⟩ := accessFor_of_allowed hallowed
      rw [perform_of_torn haccess hcounts hdue]
      exact .inl ⟨rfl, rfl⟩
    · obtain ⟨hok | ⟨needed, available, hfull⟩, htear⟩ :=
        perform_of_passed hallowed hcounts hdue
      · rw [hok, htear]
        exact .inr ⟨nofun, rfl⟩
      · rw [hfull, htear]
        exact .inr ⟨nofun, rfl⟩
  · obtain ⟨huntorn, hsame⟩ := perform_of_uncounted hcounted
    exact .inr ⟨huntorn, congrArg (·.tear.fired) hsame⟩

/-- A disarmed injector stays as it is. -/
theorem tear_perform_of_disarmed (hdisarmed : store.transaction.tear.remaining = none) :
    (store.perform caller write).2.transaction.tear = store.transaction.tear := by
  by_cases hcounted : (write.access caller).IsAllowed store.heap ∧ store.heap.counts write = true
  · rw [(perform_of_passed hcounted.1 hcounted.2 (by rw [hdisarmed]; nofun)).2, hdisarmed]
    change (⟨none, store.transaction.tear.fired⟩ : TearInjector) = store.transaction.tear
    rw [← hdisarmed]
  · rw [(perform_of_uncounted hcounted).2]

/-- A write that is not torn goes as it goes without an injector. -/
theorem perform_disarmed (huntorn : (store.perform caller write).1 ≠ .error (.journal .torn))
    (hdisarmed : tear.remaining = none) :
    (store.withTear tear).perform caller write =
      ((store.perform caller write).1, (store.perform caller write).2.withTear tear) := by
  cases haccess : store.accessFor caller write with
  | error error =>
    rw [perform_of_refused haccess]
    exact @perform_of_refused (store.withTear tear) _ _ _ haccess
  | ok region =>
    have haccess' : (store.withTear tear).accessFor caller write = .ok region := haccess
    cases hcounts : store.heap.counts write with
    | false =>
      rw [perform_of_not_counts haccess hcounts,
        @perform_of_not_counts (store.withTear tear) _ _ _ haccess' hcounts]
      rfl
    | true =>
      have hcounts' : (store.withTear tear).heap.counts write = true := hcounts
      have hpassed : store.transaction.tear.remaining ≠ some 0 := by
        intro hdue
        rw [perform_of_torn haccess hcounts hdue] at huntorn
        exact huntorn rfl
      have hpass : tear.pass = (.ok (), tear) := by
        rw [TearInjector.pass, hdisarmed]
      rw [perform_of_counts haccess hcounts, perform_of_counts haccess' hcounts',
        Transaction.prepareWrite, Transaction.prepareWrite, TearInjector.pass_of_ne_zero hpassed,
        withTear]
      dsimp only
      rw [hpass]
      dsimp only
      by_cases hactive : store.transaction.isActive = true
      · rw [if_pos hactive, if_pos hactive]
        cases store.transaction.journal.record write.array.id write.start write.patch.size
          region.cells <;> rfl
      · rw [if_neg hactive, if_neg hactive]
        rfl

/-! ### Writes one after another -/

/-- The injector has fired once more just if the writes ended with a tear. -/
theorem fired_performAll (store : Store) (caller : ContextId) (writes : List Write) :
    (performAll caller writes store).1 = .error (.journal .torn) ∧
        (performAll caller writes store).2.transaction.tear.fired =
          store.transaction.tear.fired + 1 ∨
      (performAll caller writes store).1 ≠ .error (.journal .torn) ∧
        (performAll caller writes store).2.transaction.tear.fired =
          store.transaction.tear.fired := by
  induction writes generalizing store with
  | nil => exact .inr ⟨by rintro ⟨⟩, rfl⟩
  | cons write rest ih =>
    have hfirst := store.fired_perform caller write
    unfold performAll
    generalize store.perform caller write = outcome at hfirst
    obtain ⟨_ | _, after⟩ := outcome
    · exact hfirst
    · obtain ⟨-, hsame⟩ := hfirst.resolve_left fun htorn ↦ by cases htorn.1
      rw [← hsame]
      exact ih after

/-- A disarmed injector stays as it is. -/
theorem tear_performAll_of_disarmed (hdisarmed : store.transaction.tear.remaining = none)
    (writes : List Write) :
    (performAll caller writes store).2.transaction.tear = store.transaction.tear := by
  induction writes generalizing store with
  | nil => rfl
  | cons write rest ih =>
    have hfirst := @tear_perform_of_disarmed store caller write hdisarmed
    unfold performAll
    generalize store.perform caller write = outcome at hfirst
    obtain ⟨_ | _, after⟩ := outcome
    · exact hfirst
    · exact (ih (hfirst.symm ▸ hdisarmed)).trans hfirst

/-- Writes that do not end with a tear go as they go without an injector. -/
theorem performAll_disarmed {writes : List Write}
    (huntorn : (performAll caller writes store).1 ≠ .error (.journal .torn))
    (hdisarmed : tear.remaining = none) :
    (performAll caller writes (store.withTear tear)).1 = (performAll caller writes store).1 := by
  induction writes generalizing store with
  | nil => rfl
  | cons write rest ih =>
    unfold performAll at huntorn ⊢
    have hfirst : (store.perform caller write).1 ≠ .error (.journal .torn) := by
      intro htorn
      generalize store.perform caller write = outcome at htorn huntorn
      obtain ⟨_ | _, after⟩ := outcome
      · exact huntorn htorn
      · cases htorn
    rw [perform_disarmed hfirst hdisarmed]
    generalize store.perform caller write = outcome at huntorn ⊢
    obtain ⟨_ | _, after⟩ := outcome
    · rfl
    · exact ih huntorn

/-! ### Opening and closing a transaction -/

theorem tear_begin (store : Store) : store.begin.2.transaction.tear = store.transaction.tear := by
  cases hactive : store.transaction.isActive with
  | false => rw [begin_of_idle hactive]
  | true => rw [begin_of_active hactive]

theorem tear_commit (store : Store) : store.commit.2.transaction.tear = store.transaction.tear := by
  cases hactive : store.transaction.isActive with
  | false => rw [commit_of_idle hactive]
  | true => rw [commit_of_active hactive]

theorem tear_abort (store : Store) : store.abort.2.transaction.tear = store.transaction.tear := by
  cases hactive : store.transaction.isActive with
  | false => rw [abort_of_idle hactive]
  | true => rw [abort_of_active hactive]

/-! ### Every operation -/

/-- A disarmed injector stays as it is until it is armed. -/
theorem tear_next_of_disarmed (hdisarmed : store.transaction.tear.remaining = none)
    {operation : Operation} (harms : ∀ writes, operation ≠ .arm writes) :
    (store.next operation).transaction.tear = store.transaction.tear := by
  cases operation with
  | allocate owner lifetime kind length =>
    rw [next]
    rcases store.allocate_cases owner lifetime kind length with ⟨_, h⟩ | ⟨_, h⟩ | h
    · rw [h]
    · rw [h]
    · rw [h]
      dsimp only
      rw [Transaction.noteAllocation]
      split <;> rfl
  | release id =>
    rw [next]
    cases store.heap.release id <;> rfl
  | grant id client =>
    rw [next]
    cases store.heap.grant id client <;> rfl
  | write caller write => exact tear_perform_of_disarmed hdisarmed
  | begin => exact store.tear_begin
  | commit => exact store.tear_commit
  | abort => exact store.tear_abort
  | arm writes => exact absurd rfl (harms writes)
  | disarm =>
    change (⟨none, store.transaction.tear.fired⟩ : TearInjector) = store.transaction.tear
    rw [← hdisarmed]
  | releaseOwnedBy _ | clearOnDeselect _ | clearOnReset => rfl

end Store

end SmartCard
