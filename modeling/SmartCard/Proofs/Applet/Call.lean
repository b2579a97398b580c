import SmartCard.Proofs.Applet.Activity

/-!
# The calls that code makes

A piece is code about to run: a session and a program, or the program that processes a command with
its exchange. Its calls are the services that it asks for, each with the session that it is asked
in, so that the answer and the session after it can be read off. What every call keeps, as the calls
grow one by one, a whole piece keeps (`Piece.induction`).

What a single service can do to a session is said once (`Session.effect_answer`): it goes through
one operation of the store, or makes an offer of an array that the caller owns, or registers the
applet being installed, or leaves memory and contexts alone.
-/

set_option autoImplicit false
set_option relaxedAutoImplicit false

namespace SmartCard

namespace Program

variable {interface : Interface} {σ α : Type}

/-- The calls that a program makes when it is played against a handler, each with the state that it
is made in. -/
def calls (handle : (request : interface.Call) → σ → Ending (interface.Answer request) × σ) :
    Program interface α → σ → List (σ × interface.Call)
  | .done _, _ => []
  | .crash _, _ => []
  | .call request next, state =>
    (state, request) ::
      match handle request state with
      | (.value answer, after) => (next answer).calls handle after
      | (.crash _, _) => []

/-- What every call keeps, as the calls made grow by it, a whole run keeps. -/
theorem calls_induction
    {handle : (request : interface.Call) → σ → Ending (interface.Answer request) × σ}
    {property : List (σ × interface.Call) → σ → Prop}
    (hcall : ∀ made request state, property made state →
      property (made ++ [(state, request)]) (handle request state).2)
    (program : Program interface α) {made : List (σ × interface.Call)} {state : σ}
    (hstart : property made state) :
    property (made ++ program.calls handle state) (program.run handle state).2 := by
  induction program generalizing made state with
  | done value => exact (List.append_nil made).symm ▸ hstart
  | crash text => exact (List.append_nil made).symm ▸ hstart
  | call request next ih =>
    have hafter := hcall made request state hstart
    rw [calls, run, List.append_cons]
    generalize handle request state = outcome at hafter ⊢
    obtain ⟨answer | text, after⟩ := outcome
    · exact ih answer hafter
    · exact (List.append_nil _).symm ▸ hafter

end Program

/-- A service with the answer to it. -/
abbrev Outcome (σ : Type) : Type :=
  (service : Service σ) × Ending service.Answer

namespace Outcome

variable {σ : Type}

/-- Whether an answer is given that is no failure. -/
def succeeds {ε α : Type} : Ending (Except ε α) → Bool
  | .value (.ok _) => true
  | _ => false

/-- The array that is read or written, if one is and that succeeds. -/
def accessed? : Outcome σ → Option Nat
  | ⟨.get _ array _, ending⟩ => if succeeds ending then some array.id else none
  | ⟨.set _ array _ _, ending⟩ => if succeeds ending then some array.id else none
  | ⟨.read array _ _, ending⟩ => if succeeds ending then some array.id else none
  | ⟨.write array _ _, ending⟩ => if succeeds ending then some array.id else none
  | ⟨.fill array _ _ _, ending⟩ => if succeeds ending then some array.id else none
  | _ => none

/-- The array that is received from whoever offers it, if one is. -/
def received? : Outcome σ → Option Nat
  | ⟨.shared _ _, .value (some array)⟩ => some array.id
  | _ => none

end Outcome

/-- A service that applet code has asked for, with the session before it. -/
structure Call (σ : Type) where
  session : Session σ
  service : Service σ

namespace Call

variable {σ : Type}

def outcome (call : Call σ) : Outcome σ :=
  ⟨call.service, (Session.answer call.service call.session).1⟩

/-- The session after the answer. -/
def after (call : Call σ) : Session σ :=
  (Session.answer call.service call.session).2

end Call

/-! ### What a service does -/

/-- The context that an operation acts for, if it acts for one that asks. -/
def Store.Operation.actor? : Store.Operation → Option ContextId
  | .allocate owner _ _ _ => some owner
  | .grant _ client => some client
  | .write caller _ => some caller
  | _ => none

namespace Session

variable {σ : Type}

/-- Services act for nobody but the context that asks. -/
theorem actor_of_operation? {session : Session σ} {service : Service σ}
    {operation : Store.Operation} (hoperation : session.operation? service = some operation)
    {actor : ContextId} (hactor : operation.actor? = some actor) : actor = session.context := by
  cases service with
  | shared server parameter =>
    obtain ⟨array, -, rfl⟩ := Option.map_eq_some_iff.mp hoperation
    exact (Option.some_inj.mp hactor).symm
  | allocate _ _ _ | set _ _ _ _ | write _ _ _ | fill _ _ _ _ =>
    obtain rfl := Option.some_inj.mp hoperation
    exact (Option.some_inj.mp hactor).symm
  | begin | commit | abort =>
    obtain rfl := Option.some_inj.mp hoperation
    exact nomatch hactor
  | _ => exact nomatch hoperation

/-- What a service can do to a session. -/
inductive Effect (session : Session σ) : Service σ → Session σ → Prop where
  | idle {service : Service σ} : Effect session service session
  | told {host : σ} : Effect session (.setHost host) { session with host }
  | stored {service : Service σ} {operation : Store.Operation}
    (hoperation : session.operation? service = some operation) :
    Effect session service (session.withStore (session.platform.store.next operation))
  | offered {array : ArrayRef} {parameter : UInt8} {client : Option Aid} {region : Region}
    (hfind : session.platform.store.heap.find? array.id = some region)
    (howner : region.owner = session.context)
    (hanswer : (answer (.offer array parameter client) session).1 = .value (.ok ())) :
    Effect session (.offer array parameter client) (session.withContexts
      (session.platform.contexts.offer session.context parameter array client))
  | registered {service : Service σ} {scope : InstallScope} {aid : Aid}
    (hinstall : session.install = some scope) (hfirst : scope.registered = none)
    (hfresh : session.platform.contexts.findByAid aid.bytes = none) :
    Effect session service
      { session.withContexts (session.platform.contexts.bind session.context aid) with
        install := some { scope with registered := some aid } }

theorem effect_registerAs (session : Session σ) (service : Service σ) (aid : Aid) :
    Effect session service (session.registerAs aid).2 := by
  unfold registerAs
  cases hinstall : session.install with
  | none => exact .idle
  | some scope =>
    dsimp only
    cases hfirst : scope.registered with
    | some existing => exact .idle
    | none =>
      dsimp only
      split
      · exact .idle
      · rename_i hfresh
        exact .registered hinstall hfirst (Option.not_isSome_iff_eq_none.mp hfresh)

theorem effect_offer (session : Session σ) (array : ArrayRef) (parameter : UInt8)
    (client : Option Aid) :
    Effect session (.offer array parameter client) (session.offer array parameter client).2 := by
  have hanswer : ∀ ending, (session.offer array parameter client).1 = ending →
      (answer (.offer array parameter client) session).1 = .value ending :=
    fun _ hending ↦ congrArg Ending.value hending
  unfold offer at hanswer ⊢
  cases hlookup : session.platform.store.heap.lookup array.id with
  | error error => exact .idle
  | ok region =>
    rw [hlookup] at hanswer
    dsimp only at hanswer ⊢
    by_cases howner : region.owner = session.context
    · rw [if_neg (not_not.mpr howner)] at hanswer ⊢
      exact .offered (Heap.lookup_eq_ok_iff.mp hlookup) howner (hanswer (.ok ()) rfl)
    · rw [if_pos howner]
      exact .idle

/-- Asking for what another applet offers grants it, if there is something and it is live. -/
theorem shared_eq (session : Session σ) (server : Aid) (parameter : UInt8) :
    session.shared server parameter =
      ((session.offered server parameter).filter fun array ↦
        session.platform.store.heap.isLive array.id).elim (none, session) fun array ↦
          (some array,
            session.withStore (session.platform.store.next (.grant array.id session.context))) := by
  have hoffered : (do
      let context ← session.platform.contexts.findByAid server.bytes
      session.platform.contexts.lookupExport context parameter
        (session.platform.contexts.aidOf session.context)) =
      session.offered server parameter := rfl
  unfold shared
  dsimp only
  rw [hoffered]
  cases session.offered server parameter with
  | none => rfl
  | some array =>
    dsimp only
    rw [Option.filter_some]
    by_cases hlive : session.platform.store.heap.isLive array.id = true
    · rw [if_pos hlive, Option.elim_some, Store.next, Heap.grant, if_pos hlive]
      rfl
    · rw [if_neg hlive, Heap.grant, if_neg hlive]
      rfl

/-- What is offered and live is received. -/
theorem received?_shared {session : Session σ} {server : Aid} {parameter : UInt8}
    {array : ArrayRef} (hoffered : session.offered server parameter = some array)
    (hlive : session.platform.store.heap.isLive array.id = true) :
    (Call.mk session (.shared server parameter)).outcome.received? = some array.id := by
  have hreceived : (session.shared server parameter).1 = some array := by
    rw [shared_eq, hoffered, Option.filter_some, if_pos hlive]
    rfl
  change @Outcome.received? σ
    ⟨.shared server parameter, .value (session.shared server parameter).1⟩ = some array.id
  rw [hreceived]
  rfl

/-- Only asking for what another applet offers grants an array, and it grants what is offered. -/
theorem shared_of_operation? {session : Session σ} {service : Service σ} {id : Nat}
    {client : ContextId} (hoperation : session.operation? service = some (.grant id client)) :
    ∃ server parameter array, service = .shared server parameter ∧
      session.offered server parameter = some array ∧ array.id = id ∧
      session.context = client := by
  cases service with
  | shared server parameter =>
    obtain ⟨array, hoffered, hgrant⟩ := Option.map_eq_some_iff.mp hoperation
    injection hgrant with hid hclient
    exact ⟨server, parameter, array, rfl, hoffered, hid, hclient⟩
  | _ => simp [operation?] at hoperation

/-- A service that touches nothing but the store does one operation of the store, if any. -/
theorem effect_of_store {session : Session σ} {service : Service σ}
    (hafter : (answer service session).2 =
      session.withStore (answer service session).2.platform.store) :
    Effect session service (answer service session).2 := by
  rw [hafter, store_answer]
  cases hoperation : session.operation? service with
  | none => exact .idle
  | some operation => exact .stored hoperation

/-- What a service does is one of these. -/
theorem effect_answer (session : Session σ) (service : Service σ) :
    Effect session service (answer service session).2 := by
  cases service with
  | register =>
    change Effect session .register session.register.2
    unfold register
    cases session.install with
    | none => exact .idle
    | some scope => exact session.effect_registerAs _ _
  | registerSlice bytes offset length =>
    change Effect session _ (session.registerSlice bytes offset length).2
    unfold registerSlice
    cases Aid.ofSlice bytes offset length with
    | error error => exact .idle
    | ok aid => exact session.effect_registerAs _ aid
  | offer array parameter client => exact session.effect_offer array parameter client
  | shared server parameter =>
    refine effect_of_store ?_
    change (session.shared server parameter).2 =
      session.withStore (session.shared server parameter).2.platform.store
    rw [shared_eq]
    cases (session.offered server parameter).filter _ <;> rfl
  | setHost host => exact .told
  | _ => exact effect_of_store rfl

/-- Code stays in the frame that it is activated in. -/
theorem frame_answer (session : Session σ) (service : Service σ) :
    (answer service session).2.frame = session.frame := by
  have heffect := session.effect_answer service
  generalize (answer service session).2 = after at heffect
  cases heffect <;> rfl

end Session

/-! ### Pieces of code -/

/-- The services that code asks for in a session, in order. -/
def Session.calls {σ α : Type} (session : Session σ) (program : Program (services σ) α) :
    List (Call σ) :=
  (program.calls answer session).map fun made ↦ ⟨made.1, made.2⟩

/-- The first call and those that follow the answer to it. -/
theorem Session.calls_call {σ α : Type} (session : Session σ) (service : Service σ)
    (next : service.Answer → Program (services σ) α) :
    session.calls (.call service next) =
      ⟨session, service⟩ ::
        match answer service session with
        | (.value answer, after) => after.calls (next answer)
        | (.crash _, _) => [] := by
  rw [calls, Program.calls, List.map_cons]
  generalize answer service session = outcome
  obtain ⟨answer | text, after⟩ := outcome <;> rfl

/-- A piece of code about to run. -/
inductive Piece (σ : Type) : Type 1 where
  | code {α : Type} (session : Session σ) (program : Program (services σ) α)
  | handler {α : Type} (session : Session σ) (exchange : Exchange)
    (program : Program (processCalls σ) α)

namespace Piece

variable {σ : Type}

/-- The session that a piece starts with. -/
def start : Piece σ → Session σ
  | .code session _ => session
  | .handler session _ _ => session

/-- The session that a piece stops with. -/
def stop : Piece σ → Session σ
  | .code session program => (program.run Session.answer session).2
  | .handler session exchange program =>
    (program.run Session.answerProcess (session, exchange)).2.1

/-- The service among the calls of the code that processes a command, if it is one. -/
def serviceCall? : (Session σ × Exchange) × (processCalls σ).Call → Option (Call σ)
  | ((session, _), .inl service) => some ⟨session, service⟩
  | (_, .inr _) => none

/-- The services that a piece asks for, in order. -/
def calls : Piece σ → List (Call σ)
  | .code session program => session.calls program
  | .handler session exchange program =>
    (program.calls Session.answerProcess (session, exchange)).filterMap serviceCall?

/-- The activity of a piece. -/
def activity : Piece σ → Activity
  | .code session program => session.activity program
  | .handler session exchange program => session.processActivity exchange program

theorem start_activity (piece : Piece σ) :
    piece.activity.start = piece.start.platform.store := by
  cases piece <;> rfl

theorem stop_activity (piece : Piece σ) : piece.activity.stop = piece.stop.platform.store := by
  cases piece with
  | code session program => exact session.stop_activity program
  | handler session exchange program => exact session.stop_processActivity exchange program

theorem tracks_activity {piece : Piece σ} (hrests : piece.start.platform.store.Rests) :
    piece.activity.stop.Tracks piece.activity.opened := by
  cases piece with
  | code session program => exact Session.tracks_activity hrests program
  | handler session exchange program =>
    exact Session.tracks_processActivity hrests exchange program

/-- What every call keeps, as the calls made grow by it, a whole piece keeps. -/
theorem induction {property : List (Call σ) → Session σ → Prop}
    (hcall : ∀ history call, property history call.session →
      property (history ++ [call]) call.after)
    (piece : Piece σ) {history : List (Call σ)} (hstart : property history piece.start) :
    property (history ++ piece.calls) piece.stop := by
  cases piece with
  | code session program =>
    refine @Program.calls_induction (services σ) (Session σ) _ Session.answer
      (fun made state ↦ property (history ++ made.map fun entry ↦ ⟨entry.1, entry.2⟩) state)
      (fun made service state hmade ↦ ?_) program [] session ?_
    · rw [List.map_append, ← List.append_assoc]
      exact hcall _ ⟨state, service⟩ hmade
    · exact (List.append_nil history).symm ▸ hstart
  | handler session exchange program =>
    refine @Program.calls_induction (processCalls σ) (Session σ × Exchange) _ Session.answerProcess
      (fun made state ↦ property (history ++ made.filterMap serviceCall?) state.1)
      (fun made request state hmade ↦ ?_) program [] (session, exchange) ?_
    · rw [List.filterMap_append, ← List.append_assoc]
      cases request with
      | inl service => exact hcall _ ⟨state.1, service⟩ hmade
      | inr request => exact (List.append_nil _).symm ▸ hmade
    · exact (List.append_nil history).symm ▸ hstart

/-- What every service keeps, a whole piece keeps. -/
theorem keeps {property : Session σ → Prop}
    (hanswer : ∀ session service, property session →
      property (Session.answer service session).2)
    (piece : Piece σ) (hstart : property piece.start) : property piece.stop :=
  @induction σ (fun _ ↦ property) (fun _ call ↦ hanswer call.session call.service) piece [] hstart

end Piece

end SmartCard
