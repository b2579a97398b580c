import SmartCard.Proofs.Memory.Completion
import SmartCard.Proofs.Memory.Durability

/-!
# What a store refuses

A read or a write is allowed if its handle is live, the context that asks may use the array, the
kind is right and the range lies inside (`Access.IsAllowed`). The error names the first of these
that fails (`Access.Breaks`), whether it is a read or a write. A write that is allowed can still be
stopped by the transaction, if it counts there: it is torn, or does not fit the commit buffer.
`Store.Refuses` lists every reason there is.

A request that is refused leaves the store alone, but for the tear injector: it has fired if the
write was torn, and has counted the write if the commit buffer was full (`Store.refused`). The crash
of an allocation is no refusal; nothing is answered then.
-/

set_option autoImplicit false
set_option relaxedAutoImplicit false

namespace SmartCard

/-- Whether an error comes from the transaction. -/
def MemoryError.isOfTransaction : MemoryError → Bool
  | .journal _ => true
  | _ => false

/-! ### Accesses -/

/-- The elements of an array that a read or a write is about, and the context that asks. -/
structure Access where
  caller : ContextId
  array : ArrayRef
  kind : ElementKind
  index : Nat
  count : Nat

/-- Whether a context may use an array: it is the card itself, the owner, or was granted it. -/
def Region.IsOpenTo (region : Region) (caller : ContextId) : Prop :=
  caller = .system ∨ caller = region.owner ∨ caller ∈ region.grants

theorem Region.admits_iff {region : Region} {caller : ContextId} :
    region.admits caller = true ↔ region.IsOpenTo caller := by
  rw [admits, Bool.or_eq_true, Bool.or_eq_true, List.contains_iff_mem, beq_iff_eq,
    ContextId.isSystem, beq_iff_eq, or_assoc]
  rfl

namespace Access

/-- Whether an access keeps all the rules. -/
def IsAllowed (access : Access) (heap : Heap) : Prop :=
  ∃ region, heap.find? access.array.id = some region ∧ region.IsOpenTo access.caller ∧
    region.kind = access.kind ∧ access.index + access.count ≤ region.length

/-- The first rule that an access breaks, as the error that names it. -/
inductive Breaks (access : Access) (heap : Heap) : MemoryError → Prop where
  | dead (hdead : heap.find? access.array.id = none) :
    Breaks access heap (.invalidHandle access.array.id)
  | foreign {region : Region} (hlive : heap.find? access.array.id = some region)
    (hforeign : ¬ region.IsOpenTo access.caller) :
    Breaks access heap (.securityViolation access.caller region.owner)
  | mismatched {region : Region} (hlive : heap.find? access.array.id = some region)
    (hopen : region.IsOpenTo access.caller) (hkind : region.kind ≠ access.kind) :
    Breaks access heap (.kindMismatch region.kind access.kind)
  | outside {region : Region} (hlive : heap.find? access.array.id = some region)
    (hopen : region.IsOpenTo access.caller) (hkind : region.kind = access.kind)
    (houtside : region.length < access.index + access.count) :
    Breaks access heap (.outOfBounds access.index access.count region.length)

/-- The array that an access is to, or why it is refused. -/
def resolve (access : Access) (heap : Heap) : Except MemoryError Region :=
  heap.access access.caller access.array access.kind access.index access.count

variable {access : Access} {heap : Heap} {error : MemoryError}

/-- An access that breaks no rule goes to the array. -/
theorem IsAllowed.resolve (hallowed : access.IsAllowed heap) :
    ∃ region, access.resolve heap = .ok region := by
  obtain ⟨region, hlive, hopen, hkind, hinside⟩ := hallowed
  refine ⟨region, Heap.access_eq_ok_iff.mpr ⟨hlive, Region.check_eq_ok_iff.mpr ?_⟩⟩
  exact ⟨Region.admits_iff.mpr hopen, hkind, hinside⟩

theorem resolve_of_live {region : Region} (hlive : heap.find? access.array.id = some region) :
    access.resolve heap =
      (region.check access.caller access.kind access.index access.count).map fun _ ↦ region := by
  rw [Access.resolve, Heap.access, Heap.lookup, hlive]
  rfl

/-- The rules are checked in their order, so the first one broken is the error. -/
theorem Breaks.resolve (hbreaks : access.Breaks heap error) :
    access.resolve heap = .error error := by
  cases hbreaks with
  | dead hdead =>
    rw [Access.resolve, Heap.access, Heap.lookup, hdead]
    rfl
  | foreign hlive hforeign =>
    rw [resolve_of_live hlive, Region.check,
      Bool.eq_false_iff.mpr (mt Region.admits_iff.mp hforeign), if_pos (by decide)]
    rfl
  | mismatched hlive hopen hkind =>
    rw [resolve_of_live hlive, Region.check, Region.admits_iff.mpr hopen, if_neg (by decide),
      if_pos hkind]
    rfl
  | outside hlive hopen hkind houtside =>
    rw [resolve_of_live hlive, Region.check, Region.admits_iff.mpr hopen, if_neg (by decide),
      if_neg (not_not.mpr hkind), if_pos houtside]
    rfl

/-- Every access is allowed or breaks a rule. -/
theorem isAllowed_or_breaks (access : Access) (heap : Heap) :
    access.IsAllowed heap ∨ ∃ error, access.Breaks heap error := by
  cases hlive : heap.find? access.array.id with
  | none => exact .inr ⟨_, .dead hlive⟩
  | some region =>
    by_cases hopen : region.IsOpenTo access.caller
    · by_cases hkind : region.kind = access.kind
      · by_cases hinside : access.index + access.count ≤ region.length
        · exact .inl ⟨region, hlive, hopen, hkind, hinside⟩
        · exact .inr ⟨_, .outside hlive hopen hkind (Nat.lt_of_not_le hinside)⟩
      · exact .inr ⟨_, .mismatched hlive hopen hkind⟩
    · exact .inr ⟨_, .foreign hlive hopen⟩

/-- An access that is allowed breaks no rule. -/
theorem IsAllowed.not_breaks (hallowed : access.IsAllowed heap) : ¬ access.Breaks heap error := by
  intro hbreaks
  obtain ⟨region, hok⟩ := hallowed.resolve
  cases hok.symm.trans hbreaks.resolve

end Access

/-- The access that a write makes. -/
def Write.access (write : Write) (caller : ContextId) : Access :=
  ⟨caller, write.array, write.kind, write.index, write.count⟩

namespace Store

/-! ### Refusals -/

/-- The access that a request makes, if it reads or writes elements. -/
def Request.access? : Request → Option Access
  | .write caller written => some (written.access caller)
  | .get kind caller array index => some ⟨caller, array, kind, index, 1⟩
  | .read caller array offset length => some ⟨caller, array, .byte, offset, length⟩
  | _ => none

/-- The array that a request names without using it. -/
def Request.named? : Request → Option Nat
  | .release id => some id
  | .grant id _ => some id
  | .lookup id => some id
  | _ => none

/-- Reading and writing use the array that they name. -/
theorem Request.named?_eq_none {request : Request} {access : Access}
    (haccess : request.access? = some access) : request.named? = none := by
  cases request with
  | release _ | grant _ _ | lookup _ => cases haccess
  | _ => rfl

/-- The error that an answer consists of. A crash is none. -/
def Answer.error? : Answer → Option MemoryError
  | .allocated (.value (.error error)) => some error
  | .done (.error error) => some error
  | .element _ (.error error) => some error
  | .bytes (.error error) => some error
  | .array (.error error) => some error
  | _ => none

/-- Every reason for which a store refuses a request, with the error that it answers. -/
inductive Refuses (store : Store) : Request → MemoryError → Prop where
  | exhausted (owner : ContextId) {lifetime : Lifetime} {kind : ElementKind} {length : Nat}
    (hexhausted : store.heap.available lifetime < Heap.charge kind length) :
    Refuses store (.allocate owner lifetime kind length)
      (.outOfMemory lifetime (Heap.charge kind length) (store.heap.available lifetime))
  | dead {request : Request} {id : Nat} (hnamed : request.named? = some id)
    (hdead : store.heap.find? id = none) : Refuses store request (.invalidHandle id)
  | broken {request : Request} {access : Access} {error : MemoryError}
    (haccess : request.access? = some access) (hbreaks : access.Breaks store.heap error) :
    Refuses store request error
  | torn {caller : ContextId} {write : Write}
    (hallowed : (write.access caller).IsAllowed store.heap)
    (hcounts : store.heap.counts write = true)
    (htear : store.transaction.tear.remaining = some 0) :
    Refuses store (.write caller write) (.journal .torn)
  | full {caller : ContextId} {write : Write} {region : Region} {needed available : Nat}
    (hallowed : (write.access caller).IsAllowed store.heap)
    (hcounts : store.heap.counts write = true)
    (htear : store.transaction.tear.remaining ≠ some 0)
    (hactive : store.transaction.isActive = true)
    (hlive : store.heap.find? write.array.id = some region)
    (hfull : store.transaction.journal.record write.array.id write.start write.patch.size
      region.cells = .error (.bufferFull needed available)) :
    Refuses store (.write caller write) (.journal (.bufferFull needed available))

/-- The store after a refusal. A tear has fired and disarms the injector, a full commit buffer has
let the injector count the write, and no other refusal leaves a trace. -/
def refused (store : Store) : MemoryError → Store
  | .journal .torn => store.withTear ⟨none, store.transaction.tear.fired + 1⟩
  | .journal (.bufferFull _ _) =>
    store.withTear { store.transaction.tear with
      remaining := store.transaction.tear.remaining.map (· - 1) }
  | _ => store

section Answer

variable {store : Store} {error : MemoryError}

/-- A broken rule leaves no trace. -/
theorem refused_of_breaks {access : Access} (hbreaks : access.Breaks store.heap error) :
    store.refused error = store := by
  cases hbreaks <;> rfl

section Perform

variable {caller : ContextId} {write : Write} {region : Region}

theorem accessFor_of_allowed (hallowed : (write.access caller).IsAllowed store.heap) :
    ∃ region, store.accessFor caller write = .ok region :=
  hallowed.resolve

theorem accessFor_of_breaks (hbreaks : (write.access caller).Breaks store.heap error) :
    store.accessFor caller write = .error error :=
  hbreaks.resolve

theorem perform_of_torn (haccess : store.accessFor caller write = .ok region)
    (hcounts : store.heap.counts write = true)
    (htear : store.transaction.tear.remaining = some 0) :
    store.perform caller write = (.error (.journal .torn), store.refused (.journal .torn)) := by
  rw [perform_of_counts haccess hcounts, Transaction.prepareWrite, TearInjector.pass_of_zero htear]
  rfl

theorem perform_of_full {reason : TransactionError}
    (haccess : store.accessFor caller write = .ok region)
    (hcounts : store.heap.counts write = true)
    (htear : store.transaction.tear.remaining ≠ some 0)
    (hactive : store.transaction.isActive = true)
    (hfull : store.transaction.journal.record write.array.id write.start write.patch.size
      region.cells = .error reason) :
    store.perform caller write = (.error (.journal reason),
      store.withTear { store.transaction.tear with
        remaining := store.transaction.tear.remaining.map (· - 1) }) := by
  rw [perform_of_counts haccess hcounts, Transaction.prepareWrite,
    TearInjector.pass_of_ne_zero htear]
  dsimp only
  rw [if_pos hactive, hfull]
  rfl

/-- Outside a transaction only a tear stops a write. -/
theorem perform_of_idle (haccess : store.accessFor caller write = .ok region)
    (hcounts : store.heap.counts write = true)
    (htear : store.transaction.tear.remaining ≠ some 0)
    (hidle : store.transaction.isActive = false) : (store.perform caller write).1 = .ok () := by
  rw [perform_of_counts haccess hcounts, Transaction.prepareWrite,
    TearInjector.pass_of_ne_zero htear]
  dsimp only
  rw [if_neg (Bool.eq_false_iff.mp hidle)]

theorem perform_of_recorded {journal : Journal}
    (haccess : store.accessFor caller write = .ok region)
    (hcounts : store.heap.counts write = true)
    (htear : store.transaction.tear.remaining ≠ some 0)
    (hactive : store.transaction.isActive = true)
    (hrecord : store.transaction.journal.record write.array.id write.start write.patch.size
      region.cells = .ok journal) : (store.perform caller write).1 = .ok () := by
  rw [perform_of_counts haccess hcounts, Transaction.prepareWrite,
    TearInjector.pass_of_ne_zero htear]
  dsimp only
  rw [if_pos hactive, hrecord]

/-- A write that there is no reason to refuse succeeds. -/
theorem refuses_or_performs (store : Store) (caller : ContextId) (write : Write) :
    (∃ error, store.Refuses (.write caller write) error) ∨
      (store.perform caller write).1 = .ok () := by
  rcases (write.access caller).isAllowed_or_breaks store.heap with hallowed | ⟨error, hbreaks⟩
  · obtain ⟨region, haccess⟩ := accessFor_of_allowed hallowed
    cases hcounts : store.heap.counts write with
    | false => exact .inr (congrArg Prod.fst (perform_of_not_counts haccess hcounts))
    | true =>
      by_cases htear : store.transaction.tear.remaining = some 0
      · exact .inl ⟨_, .torn hallowed hcounts htear⟩
      cases hactive : store.transaction.isActive with
      | false => exact .inr (perform_of_idle haccess hcounts htear hactive)
      | true =>
        rcases store.transaction.journal.record_cases write.array.id write.start write.patch.size
          region.cells with ⟨needed, available, hfull⟩ | ⟨journal, hrecord, -⟩
        · have hlive := (Heap.access_eq_ok_iff.mp haccess).1
          exact .inl ⟨_, .full hallowed hcounts htear hactive hlive hfull⟩
        · exact .inr (perform_of_recorded haccess hcounts htear hactive hrecord)
  · exact .inl ⟨error, .broken rfl hbreaks⟩

end Perform

/-- Every request that there is a reason to refuse is refused for it. -/
theorem Refuses.answer {request : Request} (hrefuses : store.Refuses request error) :
    (store.answer request).1.error? = some error ∧
      (store.answer request).2 = store.refused error := by
  cases hrefuses with
  | exhausted owner hexhausted =>
    rw [Store.answer, Store.allocate, Heap.allocate]
    dsimp only
    rw [if_pos hexhausted]
    exact ⟨rfl, rfl⟩
  | @dead _ id hnamed hdead =>
    have hlive : store.heap.isLive id = false := by
      rw [Heap.isLive, hdead]
      rfl
    cases request with
    | release id =>
      cases hnamed
      rw [Store.answer, Heap.release, hlive]
      exact ⟨rfl, rfl⟩
    | grant id client =>
      cases hnamed
      rw [Store.answer, Heap.grant, hlive]
      exact ⟨rfl, rfl⟩
    | lookup id =>
      cases hnamed
      rw [Store.answer, Heap.lookup, hdead]
      exact ⟨rfl, rfl⟩
    | _ => cases hnamed
  | broken haccess hbreaks =>
    rw [refused_of_breaks hbreaks]
    cases request with
    | write caller write =>
      cases haccess
      rw [Store.answer, perform_of_refused (accessFor_of_breaks hbreaks)]
      exact ⟨rfl, rfl⟩
    | get kind caller array index =>
      cases haccess
      have hresolve := hbreaks.resolve
      rw [Access.resolve] at hresolve
      rw [Store.answer, Heap.get, hresolve]
      exact ⟨rfl, rfl⟩
    | read caller array offset length =>
      cases haccess
      have hresolve := hbreaks.resolve
      rw [Access.resolve] at hresolve
      rw [Store.answer, Heap.read, hresolve]
      exact ⟨rfl, rfl⟩
    | _ => cases haccess
  | torn hallowed hcounts htear =>
    obtain ⟨region, haccess⟩ := accessFor_of_allowed hallowed
    rw [Store.answer, perform_of_torn haccess hcounts htear]
    exact ⟨rfl, rfl⟩
  | full hallowed hcounts htear hactive hlive hfull =>
    obtain ⟨found, haccess⟩ := accessFor_of_allowed hallowed
    cases hlive.symm.trans (Heap.access_eq_ok_iff.mp haccess).1
    rw [Store.answer, perform_of_full haccess hcounts htear hactive hfull]
    exact ⟨rfl, rfl⟩

/-- A request that names an array without using it is refused only if the array is dead. -/
theorem dead_or_isLive (store : Store) {request : Request} {id : Nat}
    (hnamed : request.named? = some id) :
    (∃ error, store.Refuses request error) ∨ ∃ region, store.heap.find? id = some region := by
  cases hfind : store.heap.find? id with
  | none => exact .inl ⟨_, .dead hnamed hfind⟩
  | some region => exact .inr ⟨region, rfl⟩

/-- A read that there is no reason to refuse goes to an array. -/
theorem broken_or_resolves (store : Store) {request : Request} {access : Access}
    (haccess : request.access? = some access) :
    (∃ error, store.Refuses request error) ∨
      ∃ region, access.resolve store.heap = .ok region := by
  rcases access.isAllowed_or_breaks store.heap with hallowed | ⟨error, hbreaks⟩
  · exact .inr hallowed.resolve
  · exact .inl ⟨error, .broken haccess hbreaks⟩

/-- A request that there is no reason to refuse is not answered with an error. -/
theorem refuses_or_answers (store : Store) (request : Request) :
    (∃ error, store.Refuses request error) ∨ (store.answer request).1.error? = none := by
  cases request with
  | allocate owner lifetime kind length =>
    by_cases hexhausted : store.heap.available lifetime < Heap.charge kind length
    · exact .inl ⟨_, .exhausted owner hexhausted⟩
    · rw [Store.answer, Store.allocate, Heap.allocate]
      dsimp only
      rw [if_neg hexhausted]
      cases store.heap.fault? kind length with
      | none => exact .inr rfl
      | some text => exact .inr rfl
  | release id =>
    refine (store.dead_or_isLive rfl).imp_right fun hlive ↦ ?_
    obtain ⟨region, hfind⟩ := hlive
    rw [Store.answer, Heap.release, Heap.isLive, hfind]
    rfl
  | grant id client =>
    refine (store.dead_or_isLive rfl).imp_right fun hlive ↦ ?_
    obtain ⟨region, hfind⟩ := hlive
    rw [Store.answer, Heap.grant, Heap.isLive, hfind]
    rfl
  | lookup id =>
    refine (store.dead_or_isLive rfl).imp_right fun hlive ↦ ?_
    obtain ⟨region, hfind⟩ := hlive
    rw [Store.answer, Heap.lookup, hfind]
    rfl
  | write caller write =>
    refine (store.refuses_or_performs caller write).imp_right fun hok ↦ ?_
    rw [Store.answer, hok]
    rfl
  | get kind caller array index =>
    refine (store.broken_or_resolves rfl).imp_right fun hallowed ↦ ?_
    obtain ⟨region, hresolve⟩ := hallowed
    rw [Access.resolve] at hresolve
    rw [Store.answer, Heap.get, hresolve]
    rfl
  | read caller array offset length =>
    refine (store.broken_or_resolves rfl).imp_right fun hallowed ↦ ?_
    obtain ⟨region, hresolve⟩ := hallowed
    rw [Access.resolve] at hresolve
    rw [Store.answer, Heap.read, hresolve]
    rfl
  | releaseOwnedBy _ | available _ | clearOnDeselect _ | clearOnReset | arm _ | disarm =>
    exact .inr rfl

/-- The errors answered are the reasons there are. -/
theorem error?_eq_some_iff {request : Request} :
    (store.answer request).1.error? = some error ↔ store.Refuses request error := by
  refine ⟨fun herror ↦ ?_, fun hrefuses ↦ hrefuses.answer.1⟩
  rcases store.refuses_or_answers request with ⟨reason, hrefuses⟩ | hnone
  · cases hrefuses.answer.1.symm.trans herror
    exact hrefuses
  · exact absurd (herror.symm.trans hnone) (Option.some_ne_none error)

end Answer

/-! ### Writes that the transaction does not see -/

/-- A write of nothing, or to an array that is not persistent, neither asks the transaction nor
changes it: it goes alike with any other transaction. -/
theorem perform_beside {store : Store} {write : Write} (hcounts : store.heap.counts write = false)
    (caller : ContextId) (other : Transaction) :
    perform ⟨store.heap, other⟩ caller write =
      ((store.perform caller write).1, ⟨(store.perform caller write).2.heap, other⟩) := by
  cases haccess : store.accessFor caller write with
  | error error =>
    have hother : accessFor ⟨store.heap, other⟩ caller write = .error error := haccess
    rw [perform_of_refused haccess, perform_of_refused hother]
  | ok region =>
    have hother : accessFor ⟨store.heap, other⟩ caller write = .ok region := haccess
    rw [perform_of_not_counts haccess hcounts, perform_of_not_counts hother hcounts]

/-! ### How a store refuses -/

/-- That a store refuses a request for the right reason, and without a trace. -/
structure RefusesCleanly (store : Store) (request : Request) : Prop where
  /-- An access is allowed if nothing but the transaction stops it, and only then. -/
  allowed_iff : ∀ access, request.access? = some access →
    (access.IsAllowed store.heap ↔
      (store.answer request).1.error?.all MemoryError.isOfTransaction = true)
  /-- An access that is not allowed is refused for the first rule that it breaks. -/
  broken_iff : ∀ access, request.access? = some access → ¬ access.IsAllowed store.heap →
    ∀ error, (store.answer request).1.error? = some error ↔ access.Breaks store.heap error
  /-- The transaction stops nothing but writes that count. -/
  stopped : ∀ reason, (store.answer request).1.error? = some (.journal reason) →
    ∃ caller write, request = .write caller write ∧ store.heap.counts write = true
  /-- The errors are just those for which there is a reason. -/
  reason_iff : ∀ error, (store.answer request).1.error? = some error ↔ store.Refuses request error
  /-- An error leaves at most the tear injector changed. -/
  traceless : ∀ error, (store.answer request).1.error? = some error →
    (store.answer request).2 = store.refused error
  /-- A write that does not count goes alike with any transaction, and leaves it as it is. -/
  beside : ∀ caller write, request = .write caller write → store.heap.counts write = false →
    ∀ other, answer ⟨store.heap, other⟩ request =
      ((store.answer request).1, ⟨(store.answer request).2.heap, other⟩)

/-- In every state, every request of any context with any arguments is refused only for the first
thing wrong with it, reads and writes alike, and a request that is refused changes nothing, save
that a torn write disarms the tear injector and one that does not fit the commit buffer is counted
by it. Writes of nothing and writes to transient arrays do not involve the transaction. -/
theorem refuses_cleanly (store : Store) (request : Request) : store.RefusesCleanly request where
  allowed_iff := fun access haccess ↦ by
    constructor
    · intro hallowed
      rw [Option.all_eq_true]
      intro error herror
      cases error?_eq_some_iff.mp herror with
      | exhausted _ _ => cases haccess
      | dead hnamed _ => cases hnamed.symm.trans (Request.named?_eq_none haccess)
      | broken hsame hbreaks =>
        cases haccess.symm.trans hsame
        exact absurd hbreaks hallowed.not_breaks
      | torn _ _ _ => rfl
      | full _ _ _ _ _ _ => rfl
    · intro hall
      rcases access.isAllowed_or_breaks store.heap with hallowed | ⟨error, hbreaks⟩
      · exact hallowed
      · rw [error?_eq_some_iff.mpr (.broken haccess hbreaks)] at hall
        cases hbreaks <;> cases hall
  broken_iff := fun access haccess hforbidden error ↦ by
    obtain ⟨first, hbreaks⟩ := (access.isAllowed_or_breaks store.heap).resolve_left hforbidden
    have hfirst := error?_eq_some_iff.mpr (Refuses.broken haccess hbreaks)
    refine ⟨fun herror ↦ ?_, fun hsecond ↦ error?_eq_some_iff.mpr (.broken haccess hsecond)⟩
    cases hfirst.symm.trans herror
    exact hbreaks
  stopped := fun reason herror ↦ by
    cases error?_eq_some_iff.mp herror with
    | broken _ hbreaks => cases hbreaks
    | torn _ hcounts _ => exact ⟨_, _, rfl, hcounts⟩
    | full _ hcounts _ _ _ _ => exact ⟨_, _, rfl, hcounts⟩
  reason_iff := fun error ↦ error?_eq_some_iff
  traceless := fun error herror ↦ (error?_eq_some_iff.mp herror).answer.2
  beside := fun caller write hrequest hcounts other ↦ by
    rw [hrequest, Store.answer, Store.answer, perform_beside hcounts caller other]

/-- A write that does not fit the commit buffer is counted by the tear injector, which then tears
the next one. -/
example :
    let card : ContextId := ⟨1⟩
    let store := [Operation.allocate card .persistent .byte 4, .begin, .arm 1].foldl next
      (empty ⟨64, 64, 64⟩ 2)
    let request := Request.write card (.fill ⟨1, card⟩ 0 4 7)
    let after := (store.answer request).2
    (store.answer request).1.error? = some (.journal (.bufferFull 4 2)) ∧
      after = store.withTear ⟨some 0, 0⟩ ∧
      (after.answer request).1.error? = some (.journal .torn) ∧
      (after.answer request).2 = store.withTear ⟨none, 1⟩ := by
  decide +kernel

end Store

end SmartCard
