import Mathlib.Tactic.MkIffOfInductiveProp
import SmartCard.Applet.Code
import SmartCard.Proofs.Applet.Call
import SmartCard.Proofs.Memory.Masking

/-!
# Code and the contents of arrays out of its sight

A context that is not the card itself cannot learn anything about arrays that it neither owns nor
has been granted, and cannot change them. Two platforms that differ in nothing but the contents of
such arrays (`Platform.AgreesOutside`) are the same to whatever code runs in the context, as long as
it is not handed one of the arrays: every service is answered the same (`Session.answer_mask`), so
the code asks for the same services, and the platforms still differ in nothing but those contents
(`Session.RunsAlike`).

Besides, no service changes the arrays, except for undoing a transaction, which puts back what the
journal held when the run started (`Call.Spares`). The invariant behind that is that none of the
arrays comes to admit the context (`Heap.Shuns`) and that the journal has nothing new to undo on
them.
-/

set_option autoImplicit false
set_option relaxedAutoImplicit false

namespace SmartCard

variable {σ α : Type} {hidden : Nat → Bool}

/-! ### Masked sessions -/

/-- The platform with the contents of the hidden arrays blotted out. -/
def Platform.mask (platform : Platform) (hidden : Nat → Bool) : Platform :=
  { platform with store := platform.store.mask hidden }

/-- Whether two platforms differ in nothing but the contents of the hidden arrays. -/
def Platform.AgreesOutside (first second : Platform) (hidden : Nat → Bool) : Prop :=
  first.mask hidden = second.mask hidden

/-- Platforms agree outside the hidden arrays whatever the contents of those are. -/
theorem Platform.agreesOutside_overwritten (platform : Platform) (hidden : Nat → Bool)
    (contents : Nat → Cells) :
    platform.AgreesOutside { platform with
      store := { platform.store with
        heap := platform.store.heap.mapRegions fun id region ↦
          if hidden id then { region with cells := contents id } else region } } hidden := by
  have hheap : platform.store.heap.mask hidden =
      (platform.store.heap.mapRegions fun id region ↦
        if hidden id then { region with cells := contents id } else region).mask hidden := by
    rw [Heap.mask, Heap.mask, Heap.mapRegions_mapRegions]
    congr 1
    funext id region
    cases hidden id <;> rfl
  exact congrArg (fun heap ↦ { platform with store := { platform.store with heap } }) hheap

namespace Session

/-- The session with the contents of the hidden arrays blotted out. -/
def mask (session : Session σ) (hidden : Nat → Bool) : Session σ :=
  { session with platform := session.platform.mask hidden }

@[simp]
theorem mask_mask (session : Session σ) (hidden : Nat → Bool) :
    (session.mask hidden).mask hidden = session.mask hidden :=
  congrArg session.withStore (session.platform.store.mask_mask hidden)

variable {session : Session σ}

/-- A registration sees nothing of memory. -/
theorem registerAs_mask (session : Session σ) (aid : Aid) :
    (session.mask hidden).registerAs aid =
      ((session.registerAs aid).1, (session.registerAs aid).2.mask hidden) := by
  have hinstall : (session.mask hidden).install = session.install := rfl
  unfold registerAs
  rw [hinstall]
  cases session.install with
  | none => rfl
  | some scope =>
    dsimp only
    cases scope.registered with
    | some existing => rfl
    | none =>
      change (if (session.platform.contexts.findByAid aid.bytes).isSome then _ else _) = _
      dsimp only
      split <;> rfl

theorem register_mask (session : Session σ) :
    (session.mask hidden).register = (session.register.1, session.register.2.mask hidden) := by
  have hinstall : (session.mask hidden).install = session.install := rfl
  unfold register
  rw [hinstall]
  cases session.install with
  | none => rfl
  | some scope => exact session.registerAs_mask scope.params.instanceAid

theorem registerSlice_mask (session : Session σ) (bytes : List UInt8) (offset length : Nat) :
    (session.mask hidden).registerSlice bytes offset length =
      ((session.registerSlice bytes offset length).1,
        (session.registerSlice bytes offset length).2.mask hidden) := by
  unfold registerSlice
  cases Aid.ofSlice bytes offset length with
  | error error => rfl
  | ok aid => exact session.registerAs_mask aid

/-- An offer sees of memory only whether the array is live and whose it is. -/
theorem offer_mask (session : Session σ) (array : ArrayRef) (parameter : UInt8)
    (client : Option Aid) :
    (session.mask hidden).offer array parameter client =
      ((session.offer array parameter client).1,
        (session.offer array parameter client).2.mask hidden) := by
  have hlookup : (session.mask hidden).platform.store.heap.lookup array.id = _ :=
    session.platform.store.heap.lookup_mask hidden array.id
  unfold offer
  rw [hlookup]
  cases session.platform.store.heap.lookup array.id with
  | error error => rfl
  | ok region =>
    have howner : (if hidden array.id then region.masked else region).owner = region.owner := by
      split <;> rfl
    change (if (if hidden array.id then region.masked else region).owner ≠ session.context
      then _ else _) = _
    dsimp only
    rw [howner]
    split <;> rfl

/-- Asking for an array sees of memory only whether it is live. -/
theorem shared_mask (session : Session σ) (server : Aid) (parameter : UInt8) :
    (session.mask hidden).shared server parameter =
      ((session.shared server parameter).1, (session.shared server parameter).2.mask hidden) := by
  have hoffered : (session.mask hidden).offered server parameter =
      session.offered server parameter := rfl
  have hlive : (fun array : ArrayRef ↦ (session.mask hidden).platform.store.heap.isLive array.id) =
      fun array ↦ session.platform.store.heap.isLive array.id :=
    funext fun array ↦ session.platform.store.heap.isLive_mask hidden array.id
  rw [shared_eq, shared_eq, hoffered, hlive]
  cases (session.offered server parameter).filter _ with
  | none => rfl
  | some array =>
    exact congrArg (fun store ↦ (some array, (session.mask hidden).withStore store))
      (session.platform.store.grant_mask hidden array.id session.context)

/-- A service other than undoing a transaction is answered the same in the masked session. -/
theorem answer_mask_of_ne_abort
    (hshuns : session.platform.store.heap.Shuns hidden session.context) {service : Service σ}
    (hservice : service ≠ .abort) :
    answer service (session.mask hidden) =
      ((answer service session).1, (answer service session).2.mask hidden) := by
  -- what is read or looked up
  have hread : ∀ {β : Type} {masked result : Except MemoryError β}, masked = result →
      answered (masked.mapError CardError.memory, session.mask hidden) =
        answered (result.mapError CardError.memory, session.mask hidden) :=
    fun hresult ↦ hresult ▸ rfl
  -- what is written, however the cells are given
  have hput : ∀ (array : ArrayRef) (kind : ElementKind) (index count : Nat) (patch : Unit → Cells),
      (session.mask hidden).ofMemory ((session.platform.store.mask hidden).put session.context
        array kind index count patch) =
      ((session.ofMemory (session.platform.store.put session.context
          array kind index count patch)).1,
        (session.ofMemory (session.platform.store.put session.context
          array kind index count patch)).2.mask hidden) := by
    intro array kind index count patch
    rw [Store.put_mask hshuns]
    rfl
  cases service with
  | abort => exact absurd rfl hservice
  | register => exact congrArg answered session.register_mask
  | registerSlice bytes offset length =>
    exact congrArg answered (session.registerSlice_mask bytes offset length)
  | allocate lifetime kind length =>
    have hnew : hidden session.platform.store.heap.nextId = false := by
      by_contra hhidden
      exact Nat.lt_irrefl _ (hshuns.lt_nextId ((Bool.not_eq_false _).mp hhidden))
    have hallocate := Store.allocate_mask hnew session.context lifetime kind length
    exact congrArg (fun outcome ↦ (outcome.1.map fun result ↦ result.mapError CardError.memory,
      (session.mask hidden).withStore outcome.2)) hallocate
  | lengthOf array =>
    exact hread (Heap.map_lookup_mask (fun _ ↦ rfl) session.platform.store.heap hidden array.id)
  | lifetimeOf array =>
    exact hread (Heap.map_lookup_mask (fun _ ↦ rfl) session.platform.store.heap hidden array.id)
  | get kind array index => exact hread (hshuns.get_mask kind array index)
  | read array offset length => exact hread (hshuns.read_mask array offset length)
  | set kind array index value => exact congrArg answered (hput array kind index 1 _)
  | write array offset bytes => exact congrArg answered (hput array .byte offset bytes.length _)
  | fill array offset length value => exact congrArg answered (hput array .byte offset length _)
  | begin =>
    exact congrArg (fun outcome ↦ answered ((session.mask hidden).ofTransaction outcome))
      (session.platform.store.begin_mask hidden)
  | commit =>
    exact congrArg (fun outcome ↦ answered ((session.mask hidden).ofTransaction outcome))
      (session.platform.store.commit_mask hidden)
  | offer array parameter client =>
    exact congrArg answered (session.offer_mask array parameter client)
  | shared server parameter => exact congrArg answered (session.shared_mask server parameter)
  | ownAid | ownContext | ownChannel | isSelecting | findAid _ | available _ | depth |
    commitCapacity | unusedCommitCapacity | host | setHost _ => rfl

/-- Every service is answered the same in the masked session, and leads to sessions that are the
same once masked. -/
theorem answer_mask (hshuns : session.platform.store.heap.Shuns hidden session.context)
    (service : Service σ) :
    (answer service (session.mask hidden)).1 = (answer service session).1 ∧
      (answer service (session.mask hidden)).2.mask hidden =
        (answer service session).2.mask hidden := by
  by_cases hservice : service = .abort
  · subst hservice
    obtain ⟨hanswer, hafter⟩ := session.platform.store.mask_abort hidden
    constructor
    · exact congrArg (fun outcome ↦ Ending.value
        ((outcome.mapError CardError.transaction).map fun _ ↦ ())) hanswer
    · exact congrArg session.withStore hafter
  · rw [answer_mask_of_ne_abort hshuns hservice]
    exact ⟨rfl, mask_mask _ hidden⟩

end Session

/-! ### What happens to hidden arrays -/

/-- Whether no hidden array is handed over with the answer to a service. -/
def Outcome.Withholds (outcome : Outcome σ) (hidden : Nat → Bool) : Prop :=
  ∀ id ∈ outcome.received?, hidden id = false

instance (outcome : Outcome σ) (hidden : Nat → Bool) : Decidable (outcome.Withholds hidden) :=
  inferInstanceAs (Decidable (∀ id ∈ outcome.received?, hidden id = false))

/-- Whether code in a session is kept from the hidden arrays: they do not admit its context, and
undoing the transaction would do to them only what an earlier journal says. -/
structure Session.Secludes (session : Session σ) (hidden : Nat → Bool) (earlier : Journal) :
    Prop where
  shuns : session.platform.store.heap.Shuns hidden session.context
  journal : session.platform.store.transaction.journal.AddsNothing earlier hidden

/-- Whether a call leaves the hidden arrays as they are, unless it undoes a transaction, and then
does to them only what an earlier journal says. -/
structure Call.Spares (call : Call σ) (hidden : Nat → Bool) (earlier : Journal) : Prop where
  store : call.session.platform.store.Spares call.after.platform.store hidden
    (call.service = .abort)
  journal : call.session.platform.store.transaction.journal.AddsNothing earlier hidden

namespace Call

variable {call : Call σ} {earlier : Journal}

/-- What a service does to the hidden arrays, unless it hands one of them over. -/
theorem store_spares (hshuns : call.session.platform.store.heap.Shuns hidden call.session.context)
    (hwithheld : call.outcome.Withholds hidden) :
    call.session.platform.store.Spares call.after.platform.store hidden
      (call.service = .abort) := by
  obtain ⟨session, service⟩ := call
  rw [after, Session.store_answer]
  dsimp only
  cases service with
  | allocate lifetime kind length =>
    exact Store.spares_allocate hshuns session.context lifetime kind length
  | set kind array index value => exact Store.spares_put hshuns array kind index 1 _
  | write array offset bytes => exact Store.spares_put hshuns array .byte offset bytes.length _
  | fill array offset length value => exact Store.spares_put hshuns array .byte offset length _
  | begin => exact session.platform.store.spares_begin
  | commit => exact session.platform.store.spares_commit
  | abort =>
    have haborted : (Service.abort : Service σ) = .abort ↔ True := ⟨fun _ ↦ trivial, fun _ ↦ rfl⟩
    rw [propext haborted]
    exact session.platform.store.spares_abort hidden
  | shared server parameter =>
    have hoperation : session.operation? (.shared server parameter) =
        (session.offered server parameter).map fun array ↦ .grant array.id session.context := rfl
    rw [hoperation]
    cases hoffered : session.offered server parameter with
    | none => exact .refl session.platform.store hidden _
    | some array =>
      have hseen : session.platform.store.heap.isLive array.id = true →
          hidden array.id = false :=
        fun hlive ↦ hwithheld array.id (Session.received?_shared hoffered hlive)
      exact session.platform.store.spares_grant hseen session.context
  | _ => exact .refl session.platform.store hidden _

/-- What a service spares stays out of reach. -/
theorem secludes_after (hsecludes : call.session.Secludes hidden earlier)
    (hwithheld : call.outcome.Withholds hidden) : call.after.Secludes hidden earlier := by
  have hspares := store_spares hsecludes.shuns hwithheld
  have hcontext : call.after.context = call.session.context :=
    congrArg Frame.context (call.session.frame_answer call.service)
  constructor
  · rw [hcontext]
    exact hspares.shuns hsecludes.shuns
  · exact hspares.journal.trans hsecludes.journal

end Call

namespace Session

/-- Code that is handed no hidden array spares them, call by call. -/
theorem spares_calls {session : Session σ} {earlier : Journal}
    (hsecludes : session.Secludes hidden earlier) (program : Program (services σ) α)
    (hwithheld : ∀ outcome ∈ (session.calls program).map Call.outcome, outcome.Withholds hidden) :
    ∀ call ∈ session.calls program, call.Spares hidden earlier := by
  have hspared : (∀ call ∈ session.calls program, call.outcome.Withholds hidden) →
      (Piece.code session program).stop.Secludes hidden earlier ∧
        ∀ call ∈ session.calls program, call.Spares hidden earlier := by
    refine @Piece.induction σ (fun made after ↦
      (∀ call ∈ made, call.outcome.Withholds hidden) →
        after.Secludes hidden earlier ∧ ∀ call ∈ made, call.Spares hidden earlier)
      (fun made call hmade hall ↦ ?_) (.code session program) []
      fun _ ↦ ⟨hsecludes, List.forall_mem_nil _⟩
    have hrest := List.forall_mem_append.mp hall
    have hlast := List.forall_mem_singleton.mp hrest.2
    obtain ⟨hbefore, hspares⟩ := hmade hrest.1
    refine ⟨Call.secludes_after hbefore hlast, List.forall_mem_append.mpr ⟨hspares, ?_⟩⟩
    exact List.forall_mem_singleton.mpr ⟨Call.store_spares hbefore.shuns hlast, hbefore.journal⟩
  exact (hspared fun call hcall ↦ hwithheld _ (List.mem_map_of_mem hcall)).2

/-! ### Two runs -/

section Runs

variable {first second : Session σ}

/-- What keeps code from the hidden arrays does not depend on their contents. -/
theorem Secludes.of_mask_eq (hsame : first.mask hidden = second.mask hidden) {earlier : Journal}
    (hsecludes : first.Secludes hidden earlier) : second.Secludes hidden earlier := by
  have hheap : first.platform.store.heap.mask hidden = second.platform.store.heap.mask hidden :=
    congrArg (·.platform.store.heap) hsame
  have hcontext : first.context = second.context := congrArg (·.context) hsame
  have hjournal : first.platform.store.transaction.journal =
      second.platform.store.transaction.journal :=
    congrArg (·.platform.store.transaction.journal) hsame
  constructor
  · have hshuns := Heap.shuns_mask.mpr hsecludes.shuns
    rw [hheap, hcontext] at hshuns
    exact Heap.shuns_mask.mp hshuns
  · rw [← hjournal]
    exact hsecludes.journal

/-- Sessions that are the same once masked answer every service the same, and stay so. -/
theorem answer_agrees (hsame : first.mask hidden = second.mask hidden) {earlier : Journal}
    (hsecludes : first.Secludes hidden earlier) (service : Service σ) :
    (answer service first).1 = (answer service second).1 ∧
      (answer service first).2.mask hidden = (answer service second).2.mask hidden := by
  obtain ⟨hanswer, hafter⟩ := answer_mask hsecludes.shuns service
  obtain ⟨hsecond, hlater⟩ := answer_mask (hsecludes.of_mask_eq hsame).shuns service
  rw [hsame] at hanswer hafter
  exact ⟨hanswer.symm.trans hsecond, hafter.symm.trans hlater⟩

/-- Whether a program cannot tell two sessions apart: it asks for the same services in both, is
answered the same and ends the same, and the sessions it leads to differ in nothing but the contents
of the hidden arrays. -/
@[mk_iff]
structure RunsAlike (first second : Session σ) (program : Program (services σ) α)
    (hidden : Nat → Bool) : Prop where
  outcomes : (first.calls program).map Call.outcome = (second.calls program).map Call.outcome
  ending : (program.run answer first).1 = (program.run answer second).1
  stop : (program.run answer first).2.mask hidden = (program.run answer second).2.mask hidden

/-- Code that is handed no hidden array runs alike in sessions that are the same once masked. -/
theorem runsAlike_of_mask_eq (hsame : first.mask hidden = second.mask hidden) {earlier : Journal}
    (hsecludes : first.Secludes hidden earlier) (program : Program (services σ) α)
    (hwithheld : ∀ outcome ∈ (first.calls program).map Call.outcome, outcome.Withholds hidden) :
    first.RunsAlike second program hidden := by
  induction program generalizing first second with
  | done value => exact ⟨rfl, rfl, hsame⟩
  | crash text => exact ⟨rfl, rfl, hsame⟩
  | call request next ih =>
    rw [calls_call] at hwithheld
    obtain ⟨hfirst, hrest⟩ := List.forall_mem_cons.mp hwithheld
    obtain ⟨hanswer, hafter⟩ := answer_agrees hsame hsecludes request
    have hkept : (answer request first).2.Secludes hidden earlier :=
      @Call.secludes_after σ hidden ⟨first, request⟩ earlier hsecludes hfirst
    have hhead : Call.outcome ⟨first, request⟩ = Call.outcome ⟨second, request⟩ :=
      congrArg (Sigma.mk request) hanswer
    rw [runsAlike_iff, calls_call, calls_call, List.map_cons, List.map_cons, hhead, Program.run,
      Program.run]
    generalize answer request first = outcome at hanswer hafter hkept hrest ⊢
    generalize answer request second = other at hanswer hafter ⊢
    obtain ⟨ending, one⟩ := outcome
    obtain ⟨_, two⟩ := other
    subst hanswer
    cases ending with
    | value answer =>
      obtain ⟨houtcomes, hending, hstop⟩ := ih answer hafter hkept hrest
      exact ⟨congrArg (List.cons _) houtcomes, hending, hstop⟩
    | crash text => exact ⟨rfl, rfl, hafter⟩

/-- Code in a context that is not the card itself runs alike on two platforms that differ in nothing
but the contents of arrays that the context neither owns nor has been granted, as long as it is
handed none of these. In neither run does a call change the arrays, unless it undoes a transaction
whose journal had them when the run started. -/
theorem runsAlike_of_agreesOutside {frame : Frame} {host : σ} {install : Option InstallScope}
    {first second : Platform} (hsame : first.AgreesOutside second hidden)
    (hsystem : frame.context ≠ .system)
    (hpresent : ∀ id, hidden id = true → id < first.store.heap.nextId)
    (hforeign : ∀ id region, hidden id = true → first.store.heap.find? id = some region →
      region.owner ≠ frame.context ∧ frame.context ∉ region.grants)
    (program : Program (services σ) α)
    (hwithheld : ∀ outcome ∈ (calls ⟨frame, first, host, install⟩ program).map Call.outcome,
      outcome.Withholds hidden) :
    RunsAlike ⟨frame, first, host, install⟩ ⟨frame, second, host, install⟩ program hidden ∧
      (∀ call ∈ calls ⟨frame, first, host, install⟩ program,
        call.Spares hidden first.store.transaction.journal) ∧
      ∀ call ∈ calls ⟨frame, second, host, install⟩ program,
        call.Spares hidden second.store.transaction.journal := by
  have hshuns : first.store.heap.Shuns hidden frame.context := by
    refine ⟨fun {id} hid ↦ hpresent id hid, fun {id region} hid hfind ↦ ?_⟩
    obtain ⟨howner, hgrants⟩ := hforeign id region hid hfind
    rw [Region.admits, Bool.or_eq_false_iff, Bool.or_eq_false_iff]
    exact ⟨⟨beq_false_of_ne hsystem, beq_false_of_ne howner.symm⟩,
      Bool.eq_false_iff.mpr fun hclient ↦ hgrants (List.contains_iff_mem.mp hclient)⟩
  have hmask : Session.mask ⟨frame, first, host, install⟩ hidden =
      Session.mask ⟨frame, second, host, install⟩ hidden :=
    congrArg (fun platform ↦ Session.mk frame platform host install) hsame
  have hsecludes : Secludes (⟨frame, first, host, install⟩ : Session σ) hidden
      first.store.transaction.journal := ⟨hshuns, .refl _ hidden⟩
  have halike := runsAlike_of_mask_eq hmask hsecludes program hwithheld
  refine ⟨halike, spares_calls hsecludes program hwithheld, ?_⟩
  have hother : Secludes (⟨frame, second, host, install⟩ : Session σ) hidden
      second.store.transaction.journal :=
    ⟨(hsecludes.of_mask_eq hmask).shuns, .refl _ hidden⟩
  exact spares_calls hother program (halike.outcomes ▸ hwithheld)

/-- A context reads and undoes what it can, while another one's array is in the journal. -/
theorem runsAlike_of_agreesOutside_undoing :
    let hidden : Nat → Bool := (· == 1)
    let frame : Frame := ⟨⟨1⟩, 0, false⟩
    let other : ContextId := ⟨2⟩
    let store := [Store.Operation.allocate other .persistent .byte 4, .begin,
      .write other (.fill ⟨1, other⟩ 0 2 9)].foldl Store.next (.empty ⟨64, 64, 64⟩ 16)
    let first : Platform := ⟨store, .initial⟩
    let second : Platform := { first with
      store := { store with
        heap := store.heap.mapRegions fun id region ↦
          if hidden id then { region with cells := .bytes (.replicate 4 7) } else region } }
    let code : Hook Unit (Option UInt8) := do
      let value ← tryCatch (some <$> Code.getByte ⟨1, other⟩ 0) fun _ ↦ pure none
      let array ← Code.allocate .persistent .byte 2
      Code.write array 0 [3]
      Code.abort
      return value
    (first.AgreesOutside second hidden ∧ first ≠ second ∧ frame.context ≠ .system ∧
      (∀ id, hidden id = true → id < first.store.heap.nextId) ∧
      (∀ id region, hidden id = true → first.store.heap.find? id = some region →
        region.owner ≠ frame.context ∧ frame.context ∉ region.grants) ∧
      ∀ outcome ∈ (calls ⟨frame, first, (), none⟩ code.run).map Call.outcome,
        outcome.Withholds hidden) ∧
    RunsAlike ⟨frame, first, (), none⟩ ⟨frame, second, (), none⟩ code.run hidden := by
  intro hidden frame other store first second code
  have hsame : first.AgreesOutside second hidden := first.agreesOutside_overwritten hidden _
  have hpresent : ∀ id, hidden id = true → id < first.store.heap.nextId := by
    intro id hid
    obtain rfl := eq_of_beq hid
    decide +kernel
  have hforeign : ∀ id region, hidden id = true → first.store.heap.find? id = some region →
      region.owner ≠ frame.context ∧ frame.context ∉ region.grants := by
    intro id region hid hfind
    obtain rfl := eq_of_beq hid
    obtain rfl := Option.some_inj.mp hfind
    decide +kernel
  have hwithheld : ∀ outcome ∈ (calls ⟨frame, first, (), none⟩ code.run).map Call.outcome,
      outcome.Withholds hidden := by
    decide +kernel
  exact ⟨⟨hsame, by decide +kernel, by decide, hpresent, hforeign, hwithheld⟩,
    (runsAlike_of_agreesOutside hsame (by decide) hpresent hforeign code.run hwithheld).1⟩

end Runs

end Session

end SmartCard
