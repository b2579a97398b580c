import SmartCard.Applet.InstallParams
import SmartCard.Applet.Service
import SmartCard.Context.Table
import SmartCard.Memory.Store

/-!
# Sessions

A session is one activation of applet code: the context, the channel and the occasion of the
activation, and all that the code can reach from there. `Session.answer` answers every service. In
it the session's own context is the caller of every access and the owner of every allocation, so
the code cannot act for another applet.
-/

set_option autoImplicit false
set_option relaxedAutoImplicit false

namespace SmartCard

/-- What applet code can reach: memory with its transaction, and the table of contexts. -/
structure Platform where
  store : Store
  contexts : ContextTable
  deriving DecidableEq

/-- Undoes whatever transaction is open. -/
def Platform.settle (platform : Platform) : Platform :=
  { platform with store := platform.store.settle }

/-- In which context and on which channel code is activated, and whether that is part of the
applet's selection. -/
structure Frame where
  context : ContextId
  channel : Nat
  selecting : Bool
  deriving DecidableEq, Repr

/-- An installation in progress: its parameters, and the identifier registered so far. -/
structure InstallScope where
  params : InstallParams
  registered : Option Aid
  deriving DecidableEq

structure Session (σ : Type) where
  frame : Frame
  platform : Platform
  host : σ
  /-- The installation that the code is part of, if it is. -/
  install : Option InstallScope

namespace Session

variable {σ α : Type}

/-- The context in which the code runs. -/
def context (session : Session σ) : ContextId :=
  session.frame.context

/-- The session with another store. -/
def withStore (session : Session σ) (store : Store) : Session σ :=
  { session with platform := { session.platform with store } }

/-- The session with another table of contexts. -/
def withContexts (session : Session σ) (contexts : ContextTable) : Session σ :=
  { session with platform := { session.platform with contexts } }

/-- Answers with the outcome of a memory operation. -/
def ofMemory (session : Session σ) (outcome : Except MemoryError α × Store) :
    Except CardError α × Session σ :=
  (outcome.1.mapError .memory, session.withStore outcome.2)

/-- Answers with the outcome of a transaction operation, of which only success is told. -/
def ofTransaction (session : Session σ) (outcome : Except TransactionError α × Store) :
    Except CardError Unit × Session σ :=
  ((outcome.1.mapError .transaction).map fun _ ↦ (), session.withStore outcome.2)

/-- Allocates an array of the session's own context. -/
def allocate (session : Session σ) (lifetime : Lifetime) (kind : ElementKind) (length : Nat) :
    Ending (Except CardError ArrayRef) × Session σ :=
  let (ending, store) :=
    session.platform.store.allocate session.context lifetime kind length
  (ending.map fun outcome ↦ outcome.mapError .memory, session.withStore store)

/-! ### Registration -/

/-- Registers the applet being installed under an identifier that no other context has. An
installation registers once. -/
def registerAs (session : Session σ) (aid : Aid) : Except CardError Unit × Session σ :=
  match session.install with
  | none => (.error (.registry .notInstalling), session)
  | some scope =>
    match scope.registered with
    | some existing => (.error (.registry (.alreadyRegistered existing)), session)
    | none =>
      if (session.platform.contexts.findByAid aid.bytes).isSome then
        (.error (.registry (.duplicateAid aid)), session)
      else
        (.ok (), { session.withContexts (session.platform.contexts.bind session.context aid) with
          install := some { scope with registered := some aid } })

/-- Registers the applet under the identifier that the installer gave. -/
def register (session : Session σ) : Except CardError Unit × Session σ :=
  match session.install with
  | none => (.error (.registry .notInstalling), session)
  | some scope => session.registerAs scope.params.instanceAid

/-- Registers the applet under the identifier that stands in some bytes. -/
def registerSlice (session : Session σ) (bytes : List UInt8) (offset length : Nat) :
    Except CardError Unit × Session σ :=
  match Aid.ofSlice bytes offset length with
  | .error error => (.error (.aid error), session)
  | .ok aid => session.registerAs aid

/-! ### Sharing -/

/-- Offers an array of the session's own context to others. -/
def offer (session : Session σ) (array : ArrayRef) (parameter : UInt8) (client : Option Aid) :
    Except CardError Unit × Session σ :=
  match session.platform.store.heap.lookup array.id with
  | .error error => (.error (.memory error), session)
  | .ok region =>
    if region.owner ≠ session.context then
      (.error (.memory (.securityViolation session.context region.owner)), session)
    else
      (.ok (), session.withContexts
        (session.platform.contexts.offer session.context parameter array client))

/-- Takes an array that another applet offers to this one, and with it the right to use it. -/
def shared (session : Session σ) (server : Aid) (parameter : UInt8) :
    Option ArrayRef × Session σ :=
  let contexts := session.platform.contexts
  let offered := do
    let context ← contexts.findByAid server.bytes
    contexts.lookupExport context parameter (contexts.aidOf session.context)
  match offered with
  | none => (none, session)
  | some array =>
    let store := session.platform.store
    match store.heap.grant array.id session.context with
    | .error _ => (none, session)
    | .ok heap => (some array, session.withStore { store with heap })

/-! ### The services -/

/-- The ending of a service that always answers. -/
def answered (outcome : α × Session σ) : Ending α × Session σ :=
  (.value outcome.1, outcome.2)

/-- Answers a service. Only an allocation can crash. -/
def answer : (service : Service σ) → Session σ → Ending service.Answer × Session σ
  | .ownAid, session => answered (session.platform.contexts.aidOf session.context, session)
  | .ownContext, session => answered (session.context, session)
  | .ownChannel, session => answered (session.frame.channel, session)
  | .isSelecting, session => answered (session.frame.selecting, session)
  | .findAid bytes, session =>
    answered ((session.platform.contexts.findByAid bytes).bind session.platform.contexts.aidOf,
      session)
  | .register, session => answered session.register
  | .registerSlice bytes offset length, session =>
    answered (session.registerSlice bytes offset length)
  | .allocate lifetime kind length, session => session.allocate lifetime kind length
  | .available lifetime, session =>
    answered (session.platform.store.heap.available lifetime, session)
  | .lengthOf array, session =>
    answered (((session.platform.store.heap.lookup array.id).map (·.length)).mapError .memory,
      session)
  | .lifetimeOf array, session =>
    answered (((session.platform.store.heap.lookup array.id).map (·.lifetime)).mapError .memory,
      session)
  | .get kind array index, session =>
    answered ((session.platform.store.heap.get kind session.context array index).mapError .memory,
      session)
  | .set kind array index value, session =>
    answered (session.ofMemory
      (session.platform.store.set kind session.context array index value))
  | .read array offset length, session =>
    answered ((session.platform.store.heap.read session.context array offset length).mapError
      .memory, session)
  | .write array offset bytes, session =>
    answered (session.ofMemory (session.platform.store.write session.context array offset bytes))
  | .fill array offset length value, session =>
    answered (session.ofMemory
      (session.platform.store.fill session.context array offset length value))
  | .begin, session => answered (session.ofTransaction session.platform.store.begin)
  | .commit, session => answered (session.ofTransaction session.platform.store.commit)
  | .abort, session => answered (session.ofTransaction session.platform.store.abort)
  | .depth, session => answered (session.platform.store.transaction.depth, session)
  | .commitCapacity, session =>
    answered (session.platform.store.transaction.journal.capacity, session)
  | .unusedCommitCapacity, session =>
    answered (session.platform.store.transaction.journal.remaining, session)
  | .offer array parameter client, session => answered (session.offer array parameter client)
  | .shared server parameter, session => answered (session.shared server parameter)
  | .host, session => answered (session.host, session)
  | .setHost host, session => answered ((), { session with host })

/-- Answers a call of the code that processes a command. -/
def answerProcess : (call : (processCalls σ).Call) → Session σ × Exchange →
    Ending ((processCalls σ).Answer call) × (Session σ × Exchange)
  | .inl service, (session, exchange) =>
    let outcome := answer service session
    (outcome.1, (outcome.2, exchange))
  | .inr call, (session, exchange) =>
    let outcome := call.answer exchange
    (.value outcome.1, (session, outcome.2))

end Session

end SmartCard
