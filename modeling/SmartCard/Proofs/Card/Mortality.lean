import SmartCard.Proofs.Card.Coherence
import SmartCard.Proofs.Card.Reclamation
import SmartCard.Proofs.Memory.Mortality
import SmartCard.Proofs.Memory.TypedStore

/-!
# Dead arrays stay dead

A handle can outlive its array: copies of it lie in object arrays, among the offers of an applet and
in the state of its code. Once the array is dead, whatever code asks for through a handle to it is
refused and changes nothing, an offer of it comes to nothing, and no allocation returns its number
(`Session.Denies`). None of this depends on where the handle was kept or who uses it.

This is so for ever. In a custody an array dies by a release, by the release of what its owner has,
or with its transaction, and is gone after any further steps (`Custody.KeepsDead`). On a card the
calls of all code follow each other with numbers that increase, and no call finds an array that was
dead at an earlier one (`Card.KeepsDead`).
-/

set_option autoImplicit false
set_option relaxedAutoImplicit false

namespace SmartCard

/-! ### Being denied an array -/

/-- Whether a number has been given out and no longer names an array. -/
structure Heap.HasLost (heap : Heap) (id : Nat) : Prop where
  lt_nextId : id < heap.nextId
  dead : heap.isLive id = false

/-- What is lost stays lost. -/
theorem Heap.Follows.hasLost {earlier later : Heap} (hfollows : later.Follows earlier) {id : Nat}
    (hlost : earlier.HasLost id) : later.HasLost id :=
  ⟨hlost.lt_nextId.trans_le hfollows.nextId_le, hfollows.isLive_eq_false hlost.lt_nextId hlost.dead⟩

/-- The handle through which a service goes to an array. -/
def Service.handle? {σ : Type} : Service σ → Option ArrayRef
  | .lengthOf array => some array
  | .lifetimeOf array => some array
  | .get _ array _ => some array
  | .set _ array _ _ => some array
  | .read array _ _ => some array
  | .write array _ _ => some array
  | .fill array _ _ _ => some array
  | .offer array _ _ => some array
  | _ => none

namespace Outcome

variable {σ : Type}

/-- The error that a service is answered with. -/
def error? : Outcome σ → Option CardError
  | ⟨.register, ending⟩ => ending.error?
  | ⟨.registerSlice _ _ _, ending⟩ => ending.error?
  | ⟨.allocate _ _ _, ending⟩ => ending.error?
  | ⟨.lengthOf _, ending⟩ => ending.error?
  | ⟨.lifetimeOf _, ending⟩ => ending.error?
  | ⟨.get _ _ _, ending⟩ => ending.error?
  | ⟨.set _ _ _ _, ending⟩ => ending.error?
  | ⟨.read _ _ _, ending⟩ => ending.error?
  | ⟨.write _ _ _, ending⟩ => ending.error?
  | ⟨.fill _ _ _ _, ending⟩ => ending.error?
  | ⟨.begin, ending⟩ => ending.error?
  | ⟨.commit, ending⟩ => ending.error?
  | ⟨.abort, ending⟩ => ending.error?
  | ⟨.offer _ _ _, ending⟩ => ending.error?
  | _ => none

/-- The number of the array that is allocated, if one is. -/
def allocated? : Outcome σ → Option Nat
  | ⟨.allocate _ _ _, ending⟩ => ending.success?.map (·.id)
  | _ => none

end Outcome

namespace Session

variable {σ : Type} {session : Session σ} {id : Nat}

/-- Whether nobody can do anything with the array that a number named, in whatever context the
session is and wherever a handle to it was kept. -/
structure Denies (session : Session σ) (id : Nat) : Prop where
  /-- No operation of any context on memory goes through. -/
  stale : ∀ array : ArrayRef, array.id = id → array.IsStale session.platform.store
  /-- What the code asks for is refused and changes nothing. -/
  refused : ∀ service array, service.handle? = some array → array.id = id →
    (Call.mk session service).outcome.error? = some (.memory (.invalidHandle id)) ∧
      (Call.mk session service).after = session
  /-- So is a copy from or to the array, unless its source cannot be read anyway. -/
  uncopied : ∀ (source : ArrayRef) sourceOffset (target : ArrayRef) targetOffset length,
    source.id = id ∨ target.id = id →
      ∃ error, Program.run Session.answer
          (Code.copy source sourceOffset target targetOffset length).run session =
          (.value (.error (.memory error)), session) ∧
        (error = .invalidHandle id ∨ source.id ≠ id ∧
          session.platform.store.heap.read session.context source sourceOffset length =
            .error error)
  /-- An offer of the array that still stands comes to nothing. -/
  unshared : ∀ server parameter array, session.offered server parameter = some array →
    array.id = id → session.shared server parameter = (none, session)
  /-- Nobody receives the array. -/
  unreceived : ∀ service, (Call.mk session service).outcome.received? ≠ some id
  /-- No allocation returns its number. -/
  unallocated : ∀ service, (Call.mk session service).outcome.allocated? ≠ some id

/-- Reads an error off the outcome of a service that leaves the session alone. -/
theorem error_and_same {α : Type} {answered : Ending (Except CardError α) × Session σ}
    {error : CardError} (hanswered : answered = (.value (.error error), session)) :
    answered.1.error? = some error ∧ answered.2 = session := by
  rw [hanswered]
  exact ⟨rfl, rfl⟩

/-- What is asked for through a stale handle is refused and changes nothing. -/
theorem refused_of_isStale {array : ArrayRef} (hstale : array.IsStale session.platform.store)
    {service : Service σ} (hhandle : service.handle? = some array) :
    (Call.mk session service).outcome.error? = some (.memory (.invalidHandle array.id)) ∧
      (Call.mk session service).after = session := by
  have hread : ∀ {α : Type} {outcome : Except MemoryError α},
      outcome = .error (.invalidHandle array.id) →
      answered (outcome.mapError CardError.memory, session) =
        (.value (.error (.memory (.invalidHandle array.id))), session) := by
    rintro α _ rfl
    rfl
  have hwrite : ∀ write, write.array = array →
      answered (session.ofMemory (session.platform.store.perform session.context write)) =
        (.value (.error (.memory (.invalidHandle array.id))), session) := by
    intro write hwrite
    rw [hstale.perform session.context write hwrite]
    rfl
  cases service with
  | lengthOf | lifetimeOf =>
    cases hhandle
    exact error_and_same (hread (by rw [hstale.lookup]; rfl))
  | get kind _ index =>
    cases hhandle
    exact error_and_same (hread (hstale.get kind session.context index))
  | read _ offset length =>
    cases hhandle
    exact error_and_same (hread (hstale.read session.context offset length))
  | set kind _ index value =>
    cases hhandle
    exact error_and_same (hwrite (.element array kind index value) rfl)
  | write _ offset bytes =>
    cases hhandle
    exact error_and_same (hwrite (.bytes array offset bytes) rfl)
  | fill _ offset length value =>
    cases hhandle
    exact error_and_same (hwrite (.fill array offset length value) rfl)
  | offer _ parameter client =>
    cases hhandle
    exact error_and_same (congrArg answered (hstale.offer session parameter client rfl))
  | _ => cases hhandle

/-- A copy from or to a stale handle fails and changes nothing. -/
theorem uncopied_of_isStale {source target : ArrayRef}
    (hstale : ∀ array : ArrayRef, array.id = id → array.IsStale session.platform.store)
    (heither : source.id = id ∨ target.id = id) (sourceOffset targetOffset length : Nat) :
    ∃ error, Program.run Session.answer
        (Code.copy source sourceOffset target targetOffset length).run session =
        (.value (.error (.memory error)), session) ∧
      (error = .invalidHandle id ∨ source.id ≠ id ∧
        session.platform.store.heap.read session.context source sourceOffset length =
          .error error) := by
  rw [Store.run_copy, Store.copy]
  cases hread : session.platform.store.heap.read session.context source sourceOffset length with
  | error error =>
    refine ⟨error, rfl, ?_⟩
    by_cases hsource : source.id = id
    · have hinvalid := (hstale source hsource).read session.context sourceOffset length
      rw [hsource] at hinvalid
      exact .inl (Except.error.inj (hread.symm.trans hinvalid))
    · exact .inr ⟨hsource, rfl⟩
  | ok bytes =>
    have htarget : target.id = id := by
      refine heither.resolve_left fun hsource ↦ ?_
      cases hread.symm.trans ((hstale source hsource).read session.context sourceOffset length)
    have hrefused := (hstale target htarget).perform session.context
      (.bytes target targetOffset bytes) rfl
    rw [htarget] at hrefused
    refine ⟨.invalidHandle id, ?_, .inl rfl⟩
    change answered (session.ofMemory (session.platform.store.perform session.context
      (.bytes target targetOffset bytes))) = _
    rw [hrefused]
    rfl

/-- What is offered and dead is not received. -/
theorem shared_of_dead {server : Aid} {parameter : UInt8} {array : ArrayRef}
    (hoffered : session.offered server parameter = some array)
    (hdead : session.platform.store.heap.isLive array.id = false) :
    session.shared server parameter = (none, session) := by
  rw [shared_eq, hoffered, Option.filter_some, hdead]
  rfl

/-- What is received is live. -/
theorem isLive_of_received? {service : Service σ}
    (hreceived : (Call.mk session service).outcome.received? = some id) :
    session.platform.store.heap.isLive id = true := by
  cases service with
  | shared server parameter =>
    change Outcome.received? ⟨.shared server parameter,
      (answered (session.shared server parameter)).1⟩ = some id at hreceived
    rw [shared_eq] at hreceived
    cases hfilter : (session.offered server parameter).filter
        fun array ↦ session.platform.store.heap.isLive array.id with
    | none =>
      rw [hfilter] at hreceived
      exact absurd hreceived.symm (Option.some_ne_none id)
    | some array =>
      rw [hfilter] at hreceived
      cases hreceived
      exact (Option.filter_eq_some_iff.mp hfilter).2
  | _ => exact absurd hreceived.symm (Option.some_ne_none id)

/-- An allocation returns the number that is next. -/
theorem nextId_of_allocated? {service : Service σ}
    (hallocated : (Call.mk session service).outcome.allocated? = some id) :
    id = session.platform.store.heap.nextId ∧
      (Call.mk session service).after.platform.store.heap.nextId = id + 1 := by
  cases service with
  | allocate lifetime kind length =>
    change ((session.allocate lifetime kind length).1.success?.map (·.id)) = some id at hallocated
    change id = _ ∧ (session.allocate lifetime kind length).2.platform.store.heap.nextId = id + 1
    rw [Session.allocate] at hallocated ⊢
    rcases session.platform.store.allocate_cases session.context lifetime kind length with
      ⟨error, h⟩ | ⟨text, h⟩ | h
    · rw [h] at hallocated
      exact absurd hallocated.symm (Option.some_ne_none id)
    · rw [h] at hallocated
      exact absurd hallocated.symm (Option.some_ne_none id)
    · rw [h] at hallocated ⊢
      cases hallocated
      exact ⟨rfl, rfl⟩
  | _ => exact absurd hallocated.symm (Option.some_ne_none id)

/-- An allocation that fails changes nothing. -/
theorem after_of_refused {lifetime : Lifetime} {kind : ElementKind} {length : Nat}
    {error : CardError}
    (hrefused : (Call.mk session (.allocate lifetime kind length)).outcome.error? = some error) :
    (Call.mk session (.allocate lifetime kind length)).after = session := by
  change (session.allocate lifetime kind length).1.error? = some error at hrefused
  change (session.allocate lifetime kind length).2 = session
  rw [Session.allocate] at hrefused ⊢
  rcases session.platform.store.allocate_cases session.context lifetime kind length with
    ⟨error, h⟩ | ⟨text, h⟩ | h
  · rw [h]
    rfl
  · rw [h] at hrefused
    exact absurd hrefused.symm (Option.some_ne_none _)
  · rw [h] at hrefused
    exact absurd hrefused.symm (Option.some_ne_none _)

/-- What is lost is denied. -/
theorem denies_of_hasLost (hlost : session.platform.store.heap.HasLost id) :
    session.Denies id := by
  have hstale : ∀ array : ArrayRef, array.id = id → array.IsStale session.platform.store := by
    rintro array rfl
    exact ArrayRef.isStale hlost.dead
  refine ⟨hstale, ?refused, ?uncopied, ?unshared, ?unreceived, ?unallocated⟩
  case refused =>
    rintro service array hhandle rfl
    exact refused_of_isStale (hstale array rfl) hhandle
  case uncopied =>
    intro source sourceOffset target targetOffset length heither
    exact uncopied_of_isStale hstale heither sourceOffset targetOffset length
  case unshared =>
    rintro server parameter array hoffered rfl
    exact shared_of_dead hoffered hlost.dead
  case unreceived =>
    intro service hreceived
    exact Bool.false_ne_true (hlost.dead.symm.trans (isLive_of_received? hreceived))
  case unallocated =>
    intro service hallocated
    exact Nat.ne_of_lt hlost.lt_nextId (nextId_of_allocated? hallocated).1

end Session

/-! ### Runs of a custody -/

namespace Custody

variable {custody : Custody} {quotas : PerLifetime} {id : Nat}

/-- Whether an array is gone: after any further steps it is denied to whoever asks for it, and its
number is not used again. -/
structure IsGone (custody : Custody) (id : Nat) : Prop where
  denied : ∀ (later : List Step) {σ : Type} (session : Session σ),
    session.platform.store = (later.foldl next custody).store → session.Denies id
  unused : ∀ later, id ∉ custody.numbers later

/-- What is lost is gone. -/
theorem WellFormed.isGone (hcustody : custody.WellFormed quotas)
    (hlost : custody.store.heap.HasLost id) : custody.IsGone id where
  denied := fun later σ session hsession ↦ by
    have hlater := (hcustody.foldl later).2.hasLost hlost
    rw [← hsession] at hlater
    exact Session.denies_of_hasLost hlater
  unused := fun later hagain ↦ by
    have hbounds := (hcustody.numbered later).bounds id hagain
    exact Nat.not_le_of_lt hlost.lt_nextId hbounds.1

/-- That a custody does not bring back what has died. -/
structure Buries (custody : Custody) : Prop where
  /-- An allocation that fails takes no number, and changes nothing. -/
  refused : ∀ step error, custody.allocation? step = some (.value (.error error)) →
    custody.next step = custody
  /-- A live array dies when it is released, when what its owner has is, or with its transaction. -/
  dies_iff : ∀ step id region, custody.store.heap.find? id = some region →
    ((custody.next step).store.heap.isLive id = false ↔ custody.frees id region step = true)
  /-- Then it is gone. -/
  gone : ∀ step id region, custody.store.heap.find? id = some region →
    custody.frees id region step = true → (custody.next step).IsGone id
  /-- The journal of a transaction notes just what is allocated while it is open. -/
  noted : custody.store.transaction.isActive = false →
    ∀ inside : List Step, (∀ step ∈ inside, step.closes = false) →
      let opened := custody.next (.operate .begin)
      (inside.foldl next opened).store.transaction.journal.allocations = opened.numbers inside
  /-- If the transaction is aborted, that is gone. -/
  undone : custody.store.transaction.isActive = false →
    ∀ inside : List Step, (∀ step ∈ inside, step.closes = false) →
      let opened := custody.next (.operate .begin)
      ∀ id ∈ opened.numbers inside, ((inside.foldl next opened).next (.operate .abort)).IsGone id

/-- While a transaction is open, its journal notes what is allocated. -/
theorem WellFormed.noted_begin (hcustody : custody.WellFormed quotas)
    (hidle : custody.store.transaction.isActive = false) {inside : List Step}
    (hinside : ∀ step ∈ inside, step.closes = false) :
    let opened := custody.next (.operate .begin)
    (inside.foldl Custody.next opened).store.transaction.isActive = true ∧
      (inside.foldl Custody.next opened).store.transaction.journal.allocations =
        opened.numbers inside := by
  have hopened := (hcustody.next (.operate .begin)).1
  have hstore : (custody.next (.operate .begin)).store = custody.store.begin.2 := rfl
  rw [Store.begin_of_idle hidle] at hstore
  have hactive := congrArg (·.transaction.isActive) hstore
  have hempty := congrArg (·.transaction.journal.allocations) hstore
  obtain ⟨hstill, hnoted⟩ := hopened.noted hactive hinside
  rw [hempty] at hnoted
  exact ⟨hstill, hnoted⟩

/-- What the journal notes is lost when the transaction is aborted. -/
theorem WellFormed.hasLost_abort (hcustody : custody.WellFormed quotas)
    (hactive : custody.store.transaction.isActive = true)
    (hnoted : id ∈ custody.store.transaction.journal.allocations)
    (hid : id < custody.store.heap.nextId) :
    (custody.next (.operate .abort)).store.heap.HasLost id where
  lt_nextId := hid.trans_le (hcustody.next _).2.nextId_le
  dead := by
    cases hfind : custody.store.heap.find? id with
    | none =>
      refine (hcustody.next _).2.isLive_eq_false hid ?_
      rw [Heap.isLive, hfind]
      rfl
    | some region =>
      rw [hcustody.isLive_next hfind, frees, hactive, List.contains_iff_mem.mpr hnoted]
      rfl

/-- No custody reached brings anything back. -/
theorem WellFormed.buries (hcustody : custody.WellFormed quotas) : custody.Buries where
  refused := fun step error hrefused ↦ by
    cases hcustody.numbering step with
    | refused _ hsame => exact hsame
    | other hother _ => cases hrefused.symm.trans hother
    | crashed hcrashed _ => cases hrefused.symm.trans hcrashed
    | returned hreturned _ _ => cases hrefused.symm.trans hreturned
  dies_iff := fun step id region hfind ↦ by
    rw [hcustody.isLive_next hfind step, Bool.not_eq_false']
  gone := fun step id region hfind hfrees ↦ by
    obtain ⟨hnext, hfollows⟩ := hcustody.next step
    refine hnext.isGone ⟨(hcustody.store.heap.lt_nextId hfind).trans_le hfollows.nextId_le, ?_⟩
    rw [hcustody.isLive_next hfind step, hfrees]
    rfl
  noted := fun hidle inside hinside ↦ (hcustody.noted_begin hidle hinside).2
  undone := fun hidle inside hinside ↦ by
    intro opened id hid
    have hopened : opened.WellFormed quotas := (hcustody.next (.operate .begin)).1
    obtain ⟨hactive, hnoted⟩ := hcustody.noted_begin hidle hinside
    have hinner := (hopened.foldl inside).1
    refine (hinner.next (.operate .abort)).1.isGone (hinner.hasLost_abort hactive ?_ ?_)
    · rw [hnoted]
      exact hid
    · exact ((hopened.numbered inside).bounds id hid).2

/-- That in a run from no arrays no number is used twice and nothing dead comes back. -/
structure KeepsDead (quotas : PerLifetime) (commitCapacity : Nat) (steps : List Step) : Prop where
  /-- The numbers of the arrays returned increase, and count up from one unless something
  crashes. -/
  numbered : Numbered 1 (run quotas commitCapacity steps).store.heap.nextId
    ((run quotas commitCapacity []).numbers steps) ((run quotas commitCapacity []).crashes steps)
  /-- A word of 32 bits has room for the next number too, if no more than `2 ^ 32 - 2` allocations
  return or crash. -/
  nextId_lt : ((run quotas commitCapacity []).numbers steps).length +
      (run quotas commitCapacity []).crashes steps ≤ 2 ^ 32 - 2 →
    (run quotas commitCapacity steps).store.heap.nextId < 2 ^ 32
  buries : (run quotas commitCapacity steps).Buries

/-- So it is in every run. -/
theorem keepsDead (quotas : PerLifetime) (commitCapacity : Nat) (steps : List Step) :
    KeepsDead quotas commitCapacity steps := by
  have hnumbered : Numbered 1 (run quotas commitCapacity steps).store.heap.nextId
      ((run quotas commitCapacity []).numbers steps)
      ((run quotas commitCapacity []).crashes steps) :=
    (wellFormed_run quotas commitCapacity []).numbered steps
  have hlast := hnumbered.last_eq
  exact ⟨hnumbered, fun hbound ↦ by omega, (wellFormed_run quotas commitCapacity steps).buries⟩

end Custody

/-! ### Runs of a card -/

namespace Card

variable {σ : Type} {card : Card σ} {config : Config}

/-- Whether calls were made one after another and a store is what came of them. -/
structure InOrder (made : List (Call σ)) (store : Store) : Prop where
  wellFormed : store.WellFormed
  follows : ∀ call ∈ made, store.heap.Follows call.after.platform.store.heap
  ordered : made.Pairwise fun earlier later ↦
    later.session.platform.store.heap.Follows earlier.after.platform.store.heap
  called : ∀ call ∈ made,
    call.after.platform.store.heap.Follows call.session.platform.store.heap

/-- The calls of a run of operations are made one after another. -/
theorem inOrder_foldl (hstore : card.platform.store.WellFormed) (operations : List (Operation σ)) :
    InOrder (card.trace operations) (operations.foldl next card).platform.store := by
  refine @memory_foldl σ InOrder ?call ?between card operations []
    ⟨hstore, List.forall_mem_nil _, .nil, List.forall_mem_nil _⟩
  case call =>
    intro made call hmade
    obtain ⟨hafter, hcalled⟩ := @store_after σ
      (fun store ↦ store.Continues call.session.platform.store.heap)
      (fun operation hcontinues ↦ hcontinues.next operation) call ⟨hmade.wellFormed, .refl _⟩
    refine ⟨hafter, ?_, ?_, ?_⟩
    · refine List.forall_mem_append.mpr ⟨fun earlier hearlier ↦ ?_, ?_⟩
      · exact hcalled.trans (hmade.follows earlier hearlier)
      · exact List.forall_mem_singleton.mpr (.refl _)
    · refine List.pairwise_append.mpr ⟨hmade.ordered, List.pairwise_singleton _ _, ?_⟩
      intro earlier hearlier later hlater
      cases List.mem_singleton.mp hlater
      exact hmade.follows earlier hearlier
    · exact List.forall_mem_append.mpr ⟨hmade.called, List.forall_mem_singleton.mpr hcalled⟩
  case between =>
    intro made store operation hmade
    exact ⟨hmade.wellFormed.next operation, fun call hcall ↦
      (hmade.wellFormed.follows_next operation).trans (hmade.follows call hcall),
      hmade.ordered, hmade.called⟩

/-- That on a card powered up no array number is used twice and nothing dead comes back. -/
structure KeepsDead (card : Card σ) (config : Config) (operations : List (Operation σ)) :
    Prop where
  /-- What happens to memory is a run of a custody, from which each call finds it. -/
  reached : ∀ call ∈ card.trace operations, ∃ steps,
    (Custody.run config.quotas config.commitCapacity steps).store = call.session.platform.store
  /-- The numbers of the arrays that the calls return increase. -/
  increasing : ((card.trace operations).filterMap (·.outcome.allocated?)).Pairwise (· < ·)
  /-- A call for an array that fails takes no number, and changes nothing. -/
  refused : ∀ call ∈ card.trace operations, ∀ lifetime kind length error,
    call.service = .allocate lifetime kind length → call.outcome.error? = some error →
      call.after = call.session
  /-- What a call finds lost is denied to it. -/
  denied : ∀ call ∈ card.trace operations, ∀ id,
    call.session.platform.store.heap.HasLost id → call.session.Denies id
  /-- What is lost before or after a call is denied to every later one. -/
  lasting : (card.trace operations).Pairwise fun earlier later ↦ ∀ id,
    earlier.session.platform.store.heap.HasLost id ∨
        earlier.after.platform.store.heap.HasLost id →
      later.session.Denies id
  /-- What is lost between operations is denied to every call of further ones, and after them. -/
  gone : ∀ id, (operations.foldl next card).platform.store.heap.HasLost id →
    ∀ further, let after := operations.foldl next card
      (∀ call ∈ after.trace further, call.session.Denies id) ∧
        ∀ session : Session σ,
          session.platform.store = (further.foldl next after).platform.store → session.Denies id

/-- What happens to the memory of a card powered up is a run of a custody. -/
theorem reached_foldl {host : σ} (hcard : Card.ofConfig config host = .ok card)
    (operations : List (Operation σ)) :
    ∀ call ∈ card.trace operations, ∃ steps,
      (Custody.run config.quotas config.commitCapacity steps).store =
        call.session.platform.store := by
  obtain ⟨atr, -, rfl⟩ := eq_of_ofConfig hcard
  refine (@store_foldl σ
    (fun store ↦ ∃ steps, (Custody.run config.quotas config.commitCapacity steps).store = store)
    ?next _ ⟨[], rfl⟩ operations).2
  case next =>
    rintro store operation ⟨steps, rfl⟩
    refine ⟨steps ++ [.operate operation], ?_⟩
    rw [Custody.run, List.foldl_append]
    rfl

/-- So it is in every run of a card. -/
theorem keepsDead {host : σ} (hcard : Card.ofConfig config host = .ok card)
    (operations : List (Operation σ)) : card.KeepsDead config operations := by
  have hcoheres := Coheres.ofConfig hcard
  have hinOrder := inOrder_foldl hcoheres.houses.store operations
  refine ⟨reached_foldl hcard operations, ?increasing, ?refused, ?denied, ?lasting, ?gone⟩
  case increasing =>
    refine List.pairwise_filterMap.mpr (hinOrder.ordered.imp ?_)
    intro earlier later hfollows first hfirst second hsecond
    have hnext := (Session.nextId_of_allocated? hfirst).2
    have hnew := (Session.nextId_of_allocated? hsecond).1
    have hle := hfollows.nextId_le
    change earlier.after.platform.store.heap.nextId = first + 1 at hnext
    change second = later.session.platform.store.heap.nextId at hnew
    omega
  case refused =>
    rintro ⟨session, service⟩ - lifetime kind length error hservice hrefused
    cases hservice
    exact Session.after_of_refused hrefused
  case denied => exact fun _ _ _ hlost ↦ Session.denies_of_hasLost hlost
  case lasting =>
    refine List.Pairwise.imp_of_mem ?_ hinOrder.ordered
    intro earlier later hearlier _ hfollows id hlost
    refine Session.denies_of_hasLost (hfollows.hasLost ?_)
    exact hlost.elim (hinOrder.called earlier hearlier).hasLost fun hafter ↦ hafter
  case gone =>
    intro id hlost further
    have hstore := (hcoheres.foldl operations).houses.store
    obtain ⟨hafter, hcalls⟩ := continues_foldl ⟨hstore, .refl _⟩ further
    refine ⟨fun call hcall ↦ ?_, fun session hsession ↦ ?_⟩
    · exact Session.denies_of_hasLost ((hcalls call hcall).follows.hasLost hlost)
    · have hlater := hafter.follows.hasLost hlost
      rw [← hsession] at hlater
      exact Session.denies_of_hasLost hlater

/-- A dead handle stays dead. Whatever is allocated, released and undone in a run, the numbers of
the arrays allocated increase, a failed allocation takes none, and an array that has been released,
has gone with its owner or has been undone with its transaction is denied to everybody from then on,
whatever is allocated later. The same holds on a card for all code that runs there, whether it has
the handle from an object array, from an offer or from anywhere else. -/
theorem dead_handle_stays_dead {host : σ} (hcard : Card.ofConfig config host = .ok card)
    (operations : List (Operation σ)) (quotas : PerLifetime) (commitCapacity : Nat)
    (steps : List Custody.Step) :
    Custody.KeepsDead quotas commitCapacity steps ∧ card.KeepsDead config operations :=
  ⟨Custody.keepsDead quotas commitCapacity steps, keepsDead hcard operations⟩

/-- An applet keeps the handle of an array that is undone with its transaction in an object array
and offers it. Both outlive the array, but an applet installed later does not receive it, and the
array that it allocates has another number. The journal of a transaction frees its array even if it
is put back late. -/
theorem dead_handle_stays_dead_offered :
    let config : Config := { atr := "3B" }
    let card : Card Unit := {
      config := config
      atr := [0x3B]
      platform := ⟨.empty config.quotas config.commitCapacity, .initial⟩
      registry := .empty config.maxApplets
      channels := .initial config.logicalChannels
      host := () }
    let server : Aid := ⟨[0xA0, 0, 0, 0, 1], by decide, by decide⟩
    let client : Aid := ⟨[0xA0, 0, 0, 0, 2], by decide, by decide⟩
    let offering : Factory Unit := fun _ ↦ do
      Code.register
      let holder ← Code.allocate .clearOnReset .object 1
      Code.begin
      let scratch ← Code.allocate .persistent .byte 2
      Code.offer scratch 7 none
      Code.set .object holder 0 (some scratch)
      Code.abort
      return { process := Code.respond [] }
    let taking : Factory Unit := fun _ ↦ do
      Code.register
      let _ ← Code.shared server 7
      let _ ← Code.allocate .persistent .byte 2
      return { process := Code.respond [] }
    let operations : List (Operation Unit) := [.install server [] offering]
    let further : List (Operation Unit) := [.install client [] taking]
    let scratch : ArrayRef := ⟨2, ⟨1⟩⟩
    let steps : List Custody.Step :=
      [.operate .begin, .operate (.allocate ⟨1⟩ .persistent .byte 4), .handOut,
        .operate (.allocate ⟨1⟩ .persistent .byte 4)]
    Card.ofConfig config () = .ok card ∧
      (card.trace (operations ++ further)).filterMap (·.outcome.allocated?) = [1, 2, 3] ∧
      ((operations.foldl next card).platform.store.heap.find? 1).map (·.cells.toReferences) =
        some [some scratch] ∧
      (∀ session : Session Unit, session.context = ⟨2⟩ →
        session.platform = (further.foldl next (operations.foldl next card)).platform →
          session.offered server 7 = some scratch ∧ session.shared server 7 = (none, session) ∧
            session.Denies 2) ∧
      ((Custody.run ⟨64, 64, 64⟩ 8 steps).next (.putBack 0)).IsGone 1 := by
  intro config card server client offering taking operations further scratch steps
  have hvalid : config.validate = .ok () := by decide
  have hatr : config.readAtr = .ok [0x3B] := by decide
  have hcard : Card.ofConfig config () = .ok card := by rw [Card.ofConfig, hvalid, hatr]
  have hnumbers : (card.trace (operations ++ further)).filterMap (·.outcome.allocated?) =
      [1, 2, 3] := by decide +kernel
  have hstored : ((operations.foldl next card).platform.store.heap.find? 1).map
      (·.cells.toReferences) = some [some scratch] := by decide +kernel
  have hlost : (operations.foldl next card).platform.store.heap.HasLost 2 :=
    ⟨by decide +kernel, by decide +kernel⟩
  have hfind : (Custody.run ⟨64, 64, 64⟩ 8 steps).store.heap.find? 1 =
      some (.fresh ⟨1⟩ .persistent .byte 4) := by decide +kernel
  have hfrees : (Custody.run ⟨64, 64, 64⟩ 8 steps).frees 1 (.fresh ⟨1⟩ .persistent .byte 4)
      (.putBack 0) = true := by decide +kernel
  obtain ⟨hcustody, hkeeps⟩ := dead_handle_stays_dead hcard operations ⟨64, 64, 64⟩ 8 steps
  refine ⟨hcard, hnumbers, hstored, fun session hcontext hplatform ↦ ?_,
    hcustody.buries.gone (.putBack 0) 1 _ hfind hfrees⟩
  have hoffered : session.offered server 7 = some scratch := by
    rw [Session.offered, hplatform, hcontext]
    decide +kernel
  have hdenies : session.Denies 2 :=
    (hkeeps.gone 2 hlost further).2 session (congrArg Platform.store hplatform)
  exact ⟨hoffered, hdenies.unshared server 7 scratch hoffered rfl, hdenies⟩

end Card

end SmartCard
