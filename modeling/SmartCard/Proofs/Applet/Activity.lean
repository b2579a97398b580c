import SmartCard.Applet.Session
import SmartCard.Proofs.Memory.Rollback

/-!
# Pieces of applet code

Whatever code runs in a session, it reaches the store only through operations that neither free
arrays nor touch the injector (`Session.store_answer`). So the state of the transaction can be
followed from call to call: beside the session a handler notes the heap at a begin that no commit
and no abort has answered yet (`Session.noteBegin`). Taking notes changes nothing
(`Program.run_noting`).

An activity is one run of a piece of code, with the store it starts from, the store it stops at, and
that heap if it stops with a transaction open. Its resting heap is where undoing the transaction has
to lead: the heap at the begin, or else the heap as the code left it. Undoing whatever is open leads
there (`Activity.settle`), for all code and however it ends.
-/

set_option autoImplicit false
set_option relaxedAutoImplicit false

namespace SmartCard

/-! ### Taking notes -/

namespace Program

variable {interface : Interface} {σ τ α : Type}

/-- A handler that besides takes notes on the calls it answers. -/
def noting (handle : (request : interface.Call) → σ → Ending (interface.Answer request) × σ)
    (note : interface.Call → σ → τ → τ) (request : interface.Call) (state : σ × τ) :
    Ending (interface.Answer request) × (σ × τ) :=
  ((handle request state.1).1, ((handle request state.1).2, note request state.1 state.2))

/-- Taking notes changes neither the ending nor the state. -/
theorem run_noting (handle : (request : interface.Call) → σ → Ending (interface.Answer request) × σ)
    (note : interface.Call → σ → τ → τ) (program : Program interface α) (state : σ) (notes : τ) :
    (program.run (noting handle note) (state, notes)).1 = (program.run handle state).1 ∧
      (program.run (noting handle note) (state, notes)).2.1 = (program.run handle state).2 := by
  induction program generalizing state notes with
  | done value => exact ⟨rfl, rfl⟩
  | crash text => exact ⟨rfl, rfl⟩
  | call request next ih =>
    unfold run noting
    generalize handle request state = outcome
    obtain ⟨answer | text, after⟩ := outcome
    · exact ih answer after _
    · exact ⟨rfl, rfl⟩

end Program

/-! ### What services do to the store -/

namespace Store

/-- The heap at a begin not answered yet, after one more operation. -/
def Operation.noteBegin (operation : Operation) (store : Store) (opened : Option Heap) :
    Option Heap :=
  match operation with
  | .begin => if store.transaction.isActive then opened else some store.heap
  | .commit | .abort => none
  | _ => opened

/-- Whether an operation is one that applet code can ask for. -/
def Operation.isService : Operation → Bool
  | .allocate _ _ _ _ | .grant _ _ | .write _ _ | .begin | .commit | .abort => true
  | _ => false

/-- Whether the notes agree with the store: a transaction is open just when its begin is not
answered yet, and it retains the heap noted. -/
def Tracks (store : Store) : Option Heap → Prop
  | none => store.WellFormed ∧ store.transaction.isActive = false
  | some origin => origin.WellFormed ∧ store.Retains origin

section Tracks

variable {store : Store} {opened : Option Heap}

/-- Allocating neither opens nor closes a transaction. -/
theorem isActive_allocate (owner : ContextId) (lifetime : Lifetime) (kind : ElementKind)
    (length : Nat) :
    (store.allocate owner lifetime kind length).2.transaction.isActive =
      store.transaction.isActive := by
  rcases store.allocate_cases owner lifetime kind length with ⟨error, h⟩ | ⟨text, h⟩ | h
  · rw [h]
  · rw [h]
  · rw [h]
    dsimp only
    unfold Transaction.noteAllocation
    split <;> rfl

/-- Granting neither opens nor closes a transaction. -/
theorem isActive_withHeap? (store : Store) (changed : Except MemoryError Heap) :
    (store.withHeap? changed).transaction.isActive = store.transaction.isActive := by
  cases changed <;> rfl

/-- The notes agree with the store when a session starts at rest. -/
theorem Rests.tracks (hrests : store.Rests) : store.Tracks none :=
  ⟨hrests.wellFormed, depth_eq_zero_iff.mp hrests.depth_eq⟩

/-- What applet code can ask for keeps the notes in agreement with the store. -/
theorem Tracks.next (htracks : store.Tracks opened) {operation : Operation}
    (hservice : operation.isService = true) :
    (store.next operation).Tracks (operation.noteBegin store opened) := by
  cases opened with
  | none =>
    obtain ⟨hstore, hidle⟩ := htracks
    have hnext := hstore.next operation
    cases operation with
    | allocate owner lifetime kind length =>
      exact ⟨hnext, (isActive_allocate owner lifetime kind length).trans hidle⟩
    | grant id client =>
      exact ⟨hnext, (store.isActive_withHeap? _).trans hidle⟩
    | write caller write => exact ⟨hnext, (isActive_perform hstore caller write).trans hidle⟩
    | begin =>
      have hnote : Operation.begin.noteBegin store none = some store.heap :=
        if_neg (by rw [hidle]; decide)
      rw [hnote]
      exact ⟨hstore.heap, retains_begin hstore hidle⟩
    | commit =>
      exact ⟨hnext, (congrArg (·.2.transaction.isActive) (commit_of_idle hidle)).trans hidle⟩
    | abort =>
      exact ⟨hnext, (congrArg (·.2.transaction.isActive) (abort_of_idle hidle)).trans hidle⟩
    | release _ | releaseOwnedBy _ | clearOnDeselect _ | clearOnReset | arm _ | disarm =>
      exact Bool.noConfusion hservice
  | some origin =>
    obtain ⟨horigin, hretains⟩ := htracks
    have hnext := hretains.wellFormed.next operation
    have hactive := hretains.isActive
    cases operation with
    | allocate owner lifetime kind length =>
      exact ⟨horigin, hretains.allocate owner lifetime kind length⟩
    | grant id client => exact ⟨horigin, @Retains.next _ _ hretains (.grant id client) rfl⟩
    | write caller write => exact ⟨horigin, hretains.perform caller write⟩
    | begin =>
      have hnote : Operation.begin.noteBegin store (some origin) = some origin := if_pos hactive
      rw [hnote]
      exact ⟨horigin, @Retains.next _ _ hretains .begin rfl⟩
    | commit =>
      exact ⟨hnext, congrArg (·.2.transaction.isActive) (commit_of_active hactive)⟩
    | abort =>
      exact ⟨hnext, congrArg (·.2.transaction.isActive) (abort_of_active hactive)⟩
    | release _ | releaseOwnedBy _ | clearOnDeselect _ | clearOnReset | arm _ | disarm =>
      exact Bool.noConfusion hservice

end Tracks

end Store

namespace Session

variable {σ α : Type}

/-- The array that another applet offers under a parameter to the applet of the session. -/
def offered (session : Session σ) (server : Aid) (parameter : UInt8) : Option ArrayRef := do
  let contexts := session.platform.contexts
  let context ← contexts.findByAid server.bytes
  contexts.lookupExport context parameter (contexts.aidOf session.context)

/-- What a service does to the store, if anything. -/
def operation? (session : Session σ) : Service σ → Option Store.Operation
  | .allocate lifetime kind length => some (.allocate session.context lifetime kind length)
  | .set kind array index value => some (.write session.context (.element array kind index value))
  | .write array offset bytes => some (.write session.context (.bytes array offset bytes))
  | .fill array offset length value =>
    some (.write session.context (.fill array offset length value))
  | .begin => some .begin
  | .commit => some .commit
  | .abort => some .abort
  | .shared server parameter =>
    (session.offered server parameter).map fun array ↦ .grant array.id session.context
  | _ => none

/-- The heap at a begin not answered yet, after one more service. -/
def noteBegin (service : Service σ) (session : Session σ) (opened : Option Heap) : Option Heap :=
  match service with
  | .begin =>
    if session.platform.store.transaction.isActive then opened
    else some session.platform.store.heap
  | .commit | .abort => none
  | _ => opened

/-- A registration does not touch the store. -/
theorem store_registerAs (session : Session σ) (aid : Aid) :
    (session.registerAs aid).2.platform.store = session.platform.store := by
  unfold registerAs
  split
  · rfl
  · split
    · rfl
    · split <;> rfl

/-- A service does to the store what `operation?` says and nothing else. -/
theorem store_answer (session : Session σ) (service : Service σ) :
    (answer service session).2.platform.store =
      match session.operation? service with
      | some operation => session.platform.store.next operation
      | none => session.platform.store := by
  cases service with
  | register =>
    change session.register.2.platform.store = session.platform.store
    unfold register
    split
    · rfl
    · exact session.store_registerAs _
  | registerSlice bytes offset length =>
    change (session.registerSlice bytes offset length).2.platform.store = session.platform.store
    unfold registerSlice
    split
    · rfl
    · exact session.store_registerAs _
  | offer array parameter client =>
    change (session.offer array parameter client).2.platform.store = session.platform.store
    unfold offer
    split
    · rfl
    · split <;> rfl
  | shared server parameter =>
    change (session.shared server parameter).2.platform.store = _
    unfold shared operation? offered
    dsimp only
    generalize (do
      let context ← session.platform.contexts.findByAid server.bytes
      session.platform.contexts.lookupExport context parameter
        (session.platform.contexts.aidOf session.context)) = found
    cases found with
    | none => rfl
    | some array =>
      change _ = session.platform.store.withHeap?
        (session.platform.store.heap.grant array.id session.context)
      dsimp only
      cases session.platform.store.heap.grant array.id session.context <;> rfl
  | _ => rfl

/-- The operations behind services are those that applet code can ask for. -/
theorem isService_operation? {session : Session σ} {service : Service σ}
    {operation : Store.Operation} (hoperation : session.operation? service = some operation) :
    operation.isService = true := by
  cases service with
  | shared server parameter =>
    obtain ⟨array, -, rfl⟩ := Option.map_eq_some_iff.mp hoperation
    rfl
  | _ => first | exact Option.some_inj.mp hoperation ▸ rfl | exact nomatch hoperation

/-- The notes on services are those on the operations behind them. -/
theorem noteBegin_eq (service : Service σ) (session : Session σ) (opened : Option Heap) :
    noteBegin service session opened =
      match session.operation? service with
      | some operation => operation.noteBegin session.platform.store opened
      | none => opened := by
  cases service with
  | shared server parameter =>
    change opened = match (session.offered server parameter).map
        (fun array ↦ Store.Operation.grant array.id session.context) with
      | some operation => operation.noteBegin session.platform.store opened
      | none => opened
    cases session.offered server parameter <;> rfl
  | _ => rfl

/-- Every service keeps the notes in agreement with the store. -/
theorem tracks_answer {session : Session σ} {opened : Option Heap}
    (htracks : session.platform.store.Tracks opened) (service : Service σ) :
    (answer service session).2.platform.store.Tracks (noteBegin service session opened) := by
  rw [store_answer, noteBegin_eq]
  cases hoperation : session.operation? service with
  | none => exact htracks
  | some operation => exact htracks.next (isService_operation? hoperation)

/-- The heap at a begin not answered yet, after one more call of the code that processes a
command. -/
def noteProcess (call : (processCalls σ).Call) (state : Session σ × Exchange)
    (opened : Option Heap) : Option Heap :=
  match call with
  | .inl service => noteBegin service state.1 opened
  | .inr _ => opened

end Session

/-! ### Activities -/

/-- One run of a piece of applet code: the stores it starts and stops with, and the heap at the
begin of the transaction that it leaves open, if it does. -/
structure Activity where
  start : Store
  stop : Store
  opened : Option Heap

namespace Activity

/-- Where undoing what the code left open leads: to the heap at its begin, or else to the heap as
the code left it. -/
def resting (activity : Activity) : Heap :=
  activity.opened.getD activity.stop.heap

/-- Whether the code left a transaction open just when there is a begin not answered. -/
def IsMarked (activity : Activity) : Prop :=
  activity.stop.transaction.isActive = activity.opened.isSome

section Tracks

variable {activity : Activity} (htracks : activity.stop.Tracks activity.opened)

include htracks

theorem isMarked : activity.IsMarked := by
  unfold IsMarked
  generalize activity.opened = opened at htracks
  cases opened with
  | none => exact htracks.2
  | some origin => exact htracks.2.isActive

/-- Undoing whatever the code left open leads to its resting heap. -/
theorem settle :
    activity.stop.settle.Rests ∧ activity.stop.settle.heap.Resembles activity.resting := by
  unfold resting
  generalize activity.opened = opened at htracks
  cases opened with
  | none =>
    obtain ⟨hstop, hidle⟩ := htracks
    rw [Store.settle_of_idle hidle]
    exact ⟨hstop.rests hidle, .refl _⟩
  | some origin => exact htracks.2.settle htracks.1

end Tracks

end Activity

namespace Session

variable {σ α : Type}

/-- The activity of running a program in a session. -/
def activity (session : Session σ) (program : Program (services σ) α) : Activity :=
  let noted := program.run (Program.noting answer noteBegin) (session, none)
  ⟨session.platform.store, noted.2.1.platform.store, noted.2.2⟩

/-- The activity of running the program that processes a command. -/
def processActivity (session : Session σ) (exchange : Exchange)
    (program : Program (processCalls σ) α) : Activity :=
  let noted := program.run (Program.noting answerProcess noteProcess) ((session, exchange), none)
  ⟨session.platform.store, noted.2.1.1.platform.store, noted.2.2⟩

/-- An activity stops with the store that the program leaves. -/
theorem stop_activity (session : Session σ) (program : Program (services σ) α) :
    (session.activity program).stop = (program.run answer session).2.platform.store :=
  congrArg (·.platform.store) (Program.run_noting answer noteBegin program session none).2

theorem stop_processActivity (session : Session σ) (exchange : Exchange)
    (program : Program (processCalls σ) α) :
    (session.processActivity exchange program).stop =
      (program.run answerProcess (session, exchange)).2.1.platform.store :=
  congrArg (·.1.platform.store)
    (Program.run_noting answerProcess noteProcess program (session, exchange) none).2

/-- All code that starts at rest stops with notes in agreement with the store. -/
theorem tracks_activity {session : Session σ} (hrests : session.platform.store.Rests)
    (program : Program (services σ) α) :
    (session.activity program).stop.Tracks (session.activity program).opened :=
  @Program.run_induction (services σ) (Session σ × Option Heap) α (Program.noting answer noteBegin)
    (fun state ↦ state.1.platform.store.Tracks state.2)
    (fun service _ htracks ↦ tracks_answer htracks service) program (session, none) hrests.tracks

theorem tracks_processActivity {session : Session σ} (hrests : session.platform.store.Rests)
    (exchange : Exchange) (program : Program (processCalls σ) α) :
    (session.processActivity exchange program).stop.Tracks
      (session.processActivity exchange program).opened :=
  @Program.run_induction (processCalls σ) ((Session σ × Exchange) × Option Heap) α
    (Program.noting answerProcess noteProcess)
    (fun state ↦ state.1.1.platform.store.Tracks state.2)
    (fun call _ htracks ↦ match call with
      | .inl service => tracks_answer htracks service
      | .inr _ => htracks)
    program ((session, exchange), none) hrests.tracks

end Session

end SmartCard
