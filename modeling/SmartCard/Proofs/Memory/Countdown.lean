import SmartCard.Proofs.Memory.Accounting
import SmartCard.Proofs.Memory.Tearing
import SmartCard.Proofs.Memory.TypedStore

/-!
# The countdown to a tear

An injector armed with a number lets that many writes through and tears the next one. What counts
is decided between the checks of an access and the journal: a write counts if it is allowed, writes
something, and writes it to a persistent array (`Custody.Counts`). A write refused by an access
check comes too early to count, and one refused by a full commit buffer has counted already.

After every run of moves that does not set the injector, the injector is where the number of writes
that counted puts it (`TearInjector.counted`), and every move is torn or not accordingly
(`Custody.tears_on_time`).
-/

set_option autoImplicit false
set_option relaxedAutoImplicit false

namespace SmartCard

/-- An injector that was armed with a number when it had fired so many times, after some writes have
counted. -/
def TearInjector.counted (writes fired passed : Nat) : TearInjector :=
  if passed ≤ writes then ⟨some (writes - passed), fired⟩ else ⟨none, fired + 1⟩

namespace TearInjector

variable {writes fired passed : Nat}

theorem counted_of_le (hle : passed ≤ writes) :
    counted writes fired passed = ⟨some (writes - passed), fired⟩ :=
  if_pos hle

theorem counted_of_lt (hlt : writes < passed) : counted writes fired passed = ⟨none, fired + 1⟩ :=
  if_neg (Nat.not_le.mpr hlt)

/-- The tear is due once as many writes have counted as the injector was armed with. -/
theorem remaining_counted_iff :
    (counted writes fired passed).remaining = some 0 ↔ passed = writes := by
  rcases Nat.lt_or_ge writes passed with hlt | hle
  · rw [counted_of_lt hlt]
    exact iff_of_false nofun hlt.ne'
  · rw [counted_of_le hle, Option.some_inj]
    omega

/-- A write that counts and is not torn takes the injector on by one. -/
theorem counted_next (hne : passed ≠ writes) :
    { counted writes fired passed with
      remaining := (counted writes fired passed).remaining.map (· - 1) } =
      counted writes fired (passed + 1) := by
  rcases Nat.lt_or_ge writes passed with hlt | hle
  · rw [counted_of_lt hlt, counted_of_lt (Nat.lt_succ_of_lt hlt)]
    rfl
  · rw [counted_of_le hle, counted_of_le (Nat.lt_of_le_of_ne hle hne)]
    rfl

end TearInjector

namespace Store

variable {store : Store} {caller : ContextId} {write : Write}

/-! ### Demands -/

/-- The write that a demand comes to: a copy writes the bytes that it has read. -/
def write? (store : Store) : Demand → Option (ContextId × Write)
  | .request (.write caller write) => some (caller, write)
  | .copy caller source sourceOffset target targetOffset length =>
    (store.heap.read caller source sourceOffset length).toOption.map fun bytes ↦
      (caller, .bytes target targetOffset bytes)
  | _ => none

/-- Whether a demand arms or disarms the injector. -/
def Demand.setsTear : Demand → Bool
  | .request (.arm _) => true
  | .request .disarm => true
  | _ => false

/-- A demand that comes to a write is met by that write. -/
theorem meet_of_write {demand : Demand} (hwrite : store.write? demand = some (caller, write)) :
    store.meet demand = (.done (store.perform caller write).1, (store.perform caller write).2) := by
  cases demand with
  | request request =>
    cases request with
    | write asker written =>
      cases hwrite
      rfl
    | _ => cases hwrite
  | copy asker source sourceOffset target targetOffset length =>
    rw [write?] at hwrite
    rw [meet, copy]
    cases hread : store.heap.read asker source sourceOffset length with
    | error error =>
      rw [hread] at hwrite
      cases hwrite
    | ok bytes =>
      rw [hread] at hwrite
      cases hwrite
      rfl
  | begin | commit | abort => cases hwrite

/-- Only a write is stopped by a tear. -/
theorem error?_ne_torn {request : Request} (hwrite : store.write? (.request request) = none) :
    (store.answer request).1.error? ≠ some (.journal .torn) := by
  intro htorn
  cases error?_eq_some_iff.mp htorn with
  | broken _ hbreaks => cases hbreaks
  | torn _ _ _ => cases hwrite

theorem tear_allocate (store : Store) (owner : ContextId) (lifetime : Lifetime)
    (kind : ElementKind) (length : Nat) :
    (store.allocate owner lifetime kind length).2.transaction.tear = store.transaction.tear := by
  rcases store.allocate_cases owner lifetime kind length with ⟨_, h⟩ | ⟨_, h⟩ | h
  · rw [h]
  · rw [h]
  · rw [h]
    dsimp only
    rw [Transaction.noteAllocation]
    split <;> rfl

theorem tear_withHeap? (store : Store) (outcome : Except MemoryError Heap) :
    (store.withHeap? outcome).transaction.tear = store.transaction.tear := by
  cases outcome <;> rfl

/-- A demand that comes to no write is not torn and leaves the injector alone, unless it sets it. -/
theorem meet_of_no_write {demand : Demand} (hwrite : store.write? demand = none)
    (hquiet : demand.setsTear = false) :
    (store.meet demand).1.error? ≠ some (.journal .torn) ∧
      (store.meet demand).2.transaction.tear = store.transaction.tear := by
  cases demand with
  | request request =>
    refine ⟨error?_ne_torn hwrite, ?_⟩
    cases request with
    | allocate owner lifetime kind length => exact tear_allocate store owner lifetime kind length
    | release id | grant id client => exact tear_withHeap? store _
    | write caller write => cases hwrite
    | arm writes | disarm => cases hquiet
    | _ => rfl
  | copy caller source sourceOffset target targetOffset length =>
    rw [write?] at hwrite
    rw [meet, copy]
    cases hread : store.heap.read caller source sourceOffset length with
    | ok bytes =>
      rw [hread] at hwrite
      cases hwrite
    | error error =>
      -- a copy that cannot read fails as the read does
      have hsame := @error?_ne_torn store (.read caller source sourceOffset length) rfl
      rw [answer, hread] at hsame
      exact ⟨hsame, rfl⟩
  | begin =>
    cases hactive : store.transaction.isActive with
    | false =>
      rw [meet, begin_of_idle hactive]
      exact ⟨by rintro ⟨⟩, rfl⟩
    | true =>
      rw [meet, begin_of_active hactive]
      exact ⟨by rintro ⟨⟩, rfl⟩
  | commit =>
    cases hactive : store.transaction.isActive with
    | false =>
      rw [meet, commit_of_idle hactive]
      exact ⟨by rintro ⟨⟩, rfl⟩
    | true =>
      rw [meet, commit_of_active hactive]
      exact ⟨by rintro ⟨⟩, rfl⟩
  | abort =>
    cases hactive : store.transaction.isActive with
    | false =>
      rw [meet, abort_of_idle hactive]
      exact ⟨by rintro ⟨⟩, rfl⟩
    | true =>
      rw [meet, abort_of_active hactive]
      exact ⟨by rintro ⟨⟩, rfl⟩

end Store

namespace Custody

/-! ### Moves -/

/-- A demand on the store, an abort whose journal is kept for later, or the putting back of one of
the journals kept. -/
inductive Move where
  | demand (demand : Store.Demand)
  | handOut
  | putBack (index : Nat)

/-- The answer to a move, and the custody after it. -/
def meet (custody : Custody) : Move → Store.Answer × Custody
  | .demand demand =>
    let outcome := custody.store.meet demand
    (outcome.1, { custody with store := outcome.2 })
  | .handOut =>
    (.done ((custody.store.transaction.abort.map fun _ ↦ ()).mapError .journal),
      custody.next .handOut)
  | .putBack index => (.done (.ok ()), custody.next (.putBack index))

/-- The custody after some moves. -/
def meetAll (custody : Custody) (moves : List Move) : Custody :=
  moves.foldl (fun custody move ↦ (custody.meet move).2) custody

/-- The injector. -/
def tear (custody : Custody) : TearInjector :=
  custody.store.transaction.tear

/-- The custody with another injector. -/
def withTear (custody : Custody) (tear : TearInjector) : Custody :=
  { custody with store := custody.store.withTear tear }

/-- The write that a move comes to. -/
def write? (custody : Custody) : Move → Option (ContextId × Write)
  | .demand demand => custody.store.write? demand
  | _ => none

/-- Whether a move arms or disarms the injector. -/
def Move.setsTear : Move → Bool
  | .demand asked => asked.setsTear
  | _ => false

/-- Whether a move counts: it comes to a write that is allowed, writes something and writes it to a
persistent array. -/
def Counts (custody : Custody) (move : Move) : Prop :=
  ∃ caller write, custody.write? move = some (caller, write) ∧
    (write.access caller).IsAllowed custody.store.heap ∧ custody.store.heap.counts write = true

/-- The same as a test. -/
def counts (custody : Custody) (move : Move) : Bool :=
  (custody.write? move).any fun asked ↦
    (custody.store.accessFor asked.1 asked.2).isOk && custody.store.heap.counts asked.2

variable {custody : Custody} {move : Move} {writes fired passed : Nat}

theorem counts_iff : custody.counts move = true ↔ custody.Counts move := by
  rw [counts, Option.any_eq_true]
  constructor
  · rintro ⟨⟨caller, write⟩, hwrite, hboth⟩
    obtain ⟨hok, hpersistent⟩ := Bool.and_eq_true_iff.mp hboth
    rcases (write.access caller).isAllowed_or_breaks custody.store.heap with hallowed | ⟨_, hbreaks⟩
    · exact ⟨caller, write, hwrite, hallowed, hpersistent⟩
    · rw [Store.accessFor_of_breaks hbreaks] at hok
      cases hok
  · rintro ⟨caller, write, hwrite, hallowed, hpersistent⟩
    obtain ⟨region, haccess⟩ := Store.accessFor_of_allowed hallowed
    refine ⟨⟨caller, write⟩, hwrite, Bool.and_eq_true_iff.mpr ⟨?_, hpersistent⟩⟩
    rw [haccess]
    rfl

instance (custody : Custody) (move : Move) : Decidable (custody.Counts move) :=
  decidable_of_iff _ counts_iff

/-- How many of some moves count. -/
def tally (custody : Custody) : List Move → Nat
  | [] => 0
  | move :: rest => (if custody.Counts move then 1 else 0) + (custody.meet move).2.tally rest

/-- A move that counts is torn when a tear is due: nothing changes but the injector, which has fired
and is disarmed. -/
theorem meet_of_due (hcounts : custody.Counts move) (hdue : custody.tear.remaining = some 0) :
    (custody.meet move).1.error? = some (.journal .torn) ∧
      (custody.meet move).2 = custody.withTear ⟨none, custody.tear.fired + 1⟩ := by
  obtain ⟨caller, write, hwrite, hallowed, hpersistent⟩ := hcounts
  cases move with
  | demand demand =>
    obtain ⟨region, haccess⟩ := Store.accessFor_of_allowed hallowed
    rw [meet, Store.meet_of_write hwrite, Store.perform_of_torn haccess hpersistent hdue]
    exact ⟨rfl, rfl⟩
  | handOut | putBack index => cases hwrite

/-- Otherwise it comes through, unless the commit buffer is full, and is counted. -/
theorem meet_of_not_due (hcounts : custody.Counts move)
    (hpassed : custody.tear.remaining ≠ some 0) :
    ((custody.meet move).1.isDone = true ∨ (custody.meet move).1.isBufferFull = true) ∧
      (custody.meet move).2.tear =
        { custody.tear with remaining := custody.tear.remaining.map (· - 1) } := by
  obtain ⟨caller, write, hwrite, hallowed, hpersistent⟩ := hcounts
  cases move with
  | demand demand =>
    obtain ⟨houtcome, htear⟩ := Store.perform_of_passed hallowed hpersistent hpassed
    rw [meet, Store.meet_of_write hwrite]
    refine ⟨?_, htear⟩
    rcases houtcome with hok | ⟨needed, available, hfull⟩
    · exact .inl (by rw [hok]; rfl)
    · exact .inr (by rw [hfull]; rfl)
  | handOut | putBack index => cases hwrite

/-- A move that does not count is not torn and leaves the injector alone, unless it sets it. -/
theorem meet_of_uncounted (huncounted : ¬ custody.Counts move) (hquiet : move.setsTear = false) :
    (custody.meet move).1.error? ≠ some (.journal .torn) ∧
      (custody.meet move).2.tear = custody.tear := by
  cases move with
  | demand demand =>
    cases hwrite : custody.store.write? demand with
    | none => exact Store.meet_of_no_write hwrite hquiet
    | some asked =>
      obtain ⟨caller, write⟩ := asked
      obtain ⟨huntorn, htransaction⟩ := Store.perform_of_uncounted
        fun hcounted ↦ huncounted ⟨caller, write, hwrite, hcounted⟩
      rw [meet, Store.meet_of_write hwrite]
      refine ⟨fun htorn ↦ huntorn ?_, congrArg Transaction.tear htransaction⟩
      generalize (custody.store.perform caller write).1 = outcome at htorn
      cases outcome with
      | ok _ => cases htorn
      | error error =>
        cases htorn
        rfl
  | handOut =>
    rw [meet, next, Transaction.abort]
    cases custody.store.transaction.isActive with
    | false => exact ⟨by rintro ⟨⟩, rfl⟩
    | true => exact ⟨by rintro ⟨⟩, rfl⟩
  | putBack index =>
    rw [meet, next]
    cases custody.journals[index]? with
    | none => exact ⟨by rintro ⟨⟩, rfl⟩
    | some journal => exact ⟨by rintro ⟨⟩, rfl⟩

/-! ### Runs -/

/-- One move takes an injector on by the writes that count in it. -/
theorem tear_meet (htear : custody.tear = .counted writes fired passed)
    (hquiet : move.setsTear = false) :
    (custody.meet move).2.tear = .counted writes fired (passed + custody.tally [move]) := by
  rw [tally, tally, Nat.add_zero]
  by_cases hcounts : custody.Counts move
  · rw [if_pos hcounts]
    by_cases hdue : custody.tear.remaining = some 0
    · rw [(meet_of_due hcounts hdue).2]
      rw [htear, TearInjector.remaining_counted_iff] at hdue
      rw [htear, hdue, TearInjector.counted_of_le (Nat.le_refl writes),
        TearInjector.counted_of_lt (Nat.lt_succ_self writes)]
      rfl
    · rw [(meet_of_not_due hcounts hdue).2]
      rw [htear, TearInjector.remaining_counted_iff] at hdue
      rw [htear, TearInjector.counted_next hdue]
  · rw [if_neg hcounts, (meet_of_uncounted hcounts hquiet).2]
    exact htear

/-- So do any number of them. -/
theorem tear_meetAll {moves : List Move} (htear : custody.tear = .counted writes fired passed)
    (hquiet : ∀ move ∈ moves, move.setsTear = false) :
    (custody.meetAll moves).tear = .counted writes fired (passed + custody.tally moves) := by
  induction moves generalizing custody passed with
  | nil => exact htear
  | cons move rest ih =>
    rw [List.forall_mem_cons] at hquiet
    have hrest := ih (tear_meet htear hquiet.1) hquiet.2
    rw [Nat.add_assoc] at hrest
    exact hrest

/-- What becomes of a move when an injector was armed with `writes` after it had fired `fired`
times, and `passed` writes have counted since. -/
structure IsOnTime (custody : Custody) (writes fired passed : Nat) (move : Move) : Prop where
  /-- The injector is where the writes that have counted put it. -/
  tear_eq : custody.tear = .counted writes fired passed
  /-- A write that counts before the tear is due, or after, comes through or does not fit the commit
  buffer. -/
  passes : custody.Counts move → passed ≠ writes →
    (custody.meet move).1.isDone = true ∨ (custody.meet move).1.isBufferFull = true
  /-- When the tear is due a write that counts is torn, and changes nothing but the injector, which
  has fired once more and is disarmed. -/
  tears : custody.Counts move → passed = writes →
    (custody.meet move).1.error? = some (.journal .torn) ∧
      (custody.meet move).2 = custody.withTear ⟨none, fired + 1⟩
  /-- Nothing else is torn or counted. -/
  spares : ¬ custody.Counts move →
    (custody.meet move).1.error? ≠ some (.journal .torn) ∧
      (custody.meet move).2.tear = custody.tear

/-- From any state of the memory and the transaction, whatever the injector is armed with and
whatever is done after that without setting it again: just the writes that count bring the tear
nearer, that many of them come through, the next one is torn, and none after it. -/
theorem tears_on_time (quotas : PerLifetime) (commitCapacity : Nat) (steps : List Step)
    (writes : Nat) {past : List Move} {move : Move}
    (hquiet : ∀ other ∈ move :: past, other.setsTear = false) :
    let start := run quotas commitCapacity steps
    let armed := start.withTear (start.tear.arm writes)
    (armed.meetAll past).IsOnTime writes start.tear.fired (armed.tally past) move := by
  intro start armed
  rw [List.forall_mem_cons] at hquiet
  have harmed : armed.tear = .counted writes start.tear.fired 0 := rfl
  have htear := tear_meetAll harmed hquiet.2
  rw [Nat.zero_add] at htear
  have hdue : (armed.meetAll past).tear.remaining = some 0 ↔ armed.tally past = writes := by
    rw [htear]
    exact TearInjector.remaining_counted_iff
  exact {
    tear_eq := htear
    passes := fun hcounts hpassed ↦ (meet_of_not_due hcounts (mt hdue.mp hpassed)).1
    tears := fun hcounts hpassed ↦ by
      obtain ⟨htorn, hafter⟩ := meet_of_due hcounts (hdue.mpr hpassed)
      rw [htear, TearInjector.counted_of_le hpassed.le] at hafter
      exact ⟨htorn, hafter⟩
    spares := fun huncounted ↦ meet_of_uncounted huncounted hquiet.1 }

/-- Inside a transaction with a small commit buffer, of the moves after an arming with two only the
write that comes through and the one that does not fit have counted when the third is torn: not the
reads, the write to a transient array, the write of nothing, those of a stranger, of the wrong kind
and outside the array, the copy that cannot read, the allocation, nor the abort. -/
theorem tears_on_time_in_transaction :
    let card : ContextId := ⟨1⟩
    let lasting : ArrayRef := ⟨1, card⟩
    let passing : ArrayRef := ⟨2, card⟩
    let steps := [Step.operate (.allocate card .persistent .byte 4),
      .operate (.allocate card .clearOnReset .byte 4), .operate .begin]
    let ask := fun request : Store.Request ↦ Move.demand (.request request)
    let past := [ask (.write card (.fill lasting 0 2 7)), ask (.read card lasting 0 2),
      ask (.write card (.fill passing 0 4 7)), ask (.write card (.fill lasting 0 0 7)),
      ask (.write ⟨2⟩ (.fill lasting 0 1 7)),
      ask (.write card (.element lasting .short 0 (1 : Int16))),
      ask (.write card (.fill lasting 3 2 7)), .demand (.copy card lasting 3 lasting 0 2),
      ask (.write card (.bytes lasting 0 [1, 2, 3])), ask (.allocate card .persistent .byte 2),
      .demand .abort, .handOut, .demand .begin, ask (.release 2), .demand .commit, .putBack 0]
    let move := Move.demand (.copy card lasting 0 lasting 2 2)
    let start := run ⟨64, 64, 64⟩ 2 steps
    let armed := start.withTear (start.tear.arm 2)
    let custody := armed.meetAll past
    (∀ other ∈ move :: past, other.setsTear = false) ∧ custody.Counts move ∧
      armed.tally past = 2 ∧ (custody.meet move).1.error? = some (.journal .torn) ∧
      (custody.meet move).2 = custody.withTear ⟨none, 1⟩ := by
  intro card lasting passing steps ask past move start armed custody
  have hquiet : ∀ other ∈ move :: past, other.setsTear = false := by decide
  have hcounts : custody.Counts move := by decide +kernel
  have htally : armed.tally past = 2 := by decide +kernel
  have htimely := tears_on_time ⟨64, 64, 64⟩ 2 steps 2 hquiet
  exact ⟨hquiet, hcounts, htally, htimely.tears hcounts htally⟩

end Custody

end SmartCard
