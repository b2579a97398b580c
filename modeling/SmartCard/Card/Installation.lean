import SmartCard.Card.Selection

/-!
# Installation and removal

An installation runs a factory in a fresh context. If the factory fails or does not register the
applet, every array of the new context is freed and the context is removed. Removing an applet
deselects it everywhere, lets it run code once more, and then frees its context in the same way.
-/

set_option autoImplicit false
set_option relaxedAutoImplicit false

namespace SmartCard.Card

variable {σ : Type}

/-- The text of a crash that gives none. -/
def unknownCrash : String := "<unknown panic>"

/-- The outcome of code that may fail or crash, a crash being one more failure. -/
def outcome {α : Type} : Ending (Except CardError α) → Except CardError α
  | .value result => result
  | .crash text => .error (.uncaught (text.getD unknownCrash))

/-- Frees the arrays of a context and removes it. -/
def discardContext (card : Card σ) (context : ContextId) : Card σ :=
  { card with platform := {
      store := { card.platform.store with
        heap := card.platform.store.heap.releaseOwnedBy context }
      contexts := card.platform.contexts.remove context } }

/-- The parameters of an installation that may begin: there is room, the identifier is free, and
the data are not too long. -/
def admitInstall (card : Card σ) (aid : Aid) (data : List UInt8) :
    Except RegistryError InstallParams :=
  if card.registry.isFull then .error (.registryFull card.registry.capacity)
  else if (card.platform.contexts.findByAid aid.bytes).isSome then .error (.duplicateAid aid)
  else match InstallParams.ofData? aid data with
    | none => .error (.installDataTooLong data.length)
    | some params => .ok params

/-- Runs a factory in a fresh context: the applet built with the identifier that it registered, and
the card after it, with no transaction open. -/
def build (card : Card σ) (context : ContextId) (params : InstallParams) (factory : Factory σ) :
    Except CardError (Aid × Applet σ) × Card σ :=
  let (ending, session) := (factory params).run.run Session.answer
    ⟨⟨context, 0, false⟩, card.platform, card.host, some ⟨params, none⟩⟩
  let card := { card with platform := session.platform, host := session.host }
  let built := do
    let applet ← outcome ending
    match session.install.bind (·.registered) with
    | some aid => .ok (aid, applet)
    | none => .error (.registry .notRegistered)
  (built, card.settle)

/-- Installs an applet and says in which context. -/
def install (card : Card σ) (aid : Aid) (data : List UInt8) (factory : Factory σ) :
    Except CardError ContextId × Card σ :=
  match card.admitInstall aid data with
  | .error error => (.error (.registry error), card)
  | .ok params =>
    match card.platform.contexts.create with
    | none => (.error (.registry .contextsExhausted), card)
    | some (context, contexts) =>
      let prepared := { card with platform := { card.platform with contexts } }
      match prepared.build context params factory with
      | (.error error, failed) => (.error error, failed.discardContext context)
      | (.ok (registered, applet), built) =>
        match built.registry.insert ⟨registered, context, params, applet⟩ with
        | .error error => (.error (.registry error), built.discardContext context)
        | .ok registry => (.ok context, { built with registry })

/-- Installs an applet by the name of its class. -/
def installClass (card : Card σ) (catalog : Catalog σ) (className : String) (aid : Aid)
    (data : List UInt8) : Except CardError ContextId × Card σ :=
  match catalog.find? className with
  | none => (.error (.registry (.unknownClass className)), card)
  | some factory => card.install aid data factory

/-- Installs the applets of some requests in order and gives the identifiers asked for. The first
failure ends it; what was installed before stays. -/
def installRequests (card : Card σ) (catalog : Catalog σ) :
    List AppletRequest → Except CardError (List Aid) × Card σ
  | [] => (.ok [], card)
  | request :: rest =>
    match request.readAid, request.readParams with
    | .ok aid, .ok data =>
      match card.installClass catalog request.className aid data with
      | (.error error, card) => (.error error, card)
      | (.ok _, card) =>
        let (installed, card) := installRequests card catalog rest
        (installed.map (aid :: ·), card)
    | _, _ => (.error (.registry .malformedInstallParams), card)

/-- Installs the applets that the configuration lists. -/
def installConfigured (card : Card σ) (catalog : Catalog σ) :
    Except CardError (List Aid) × Card σ :=
  card.installRequests catalog card.config.applets

/-- Removes an applet with all that it owns. -/
def uninstall (card : Card σ) (aid : Aid) : Except CardError Unit × Card σ :=
  match card.registry.find? aid.bytes with
  | none => (.error (.registry (.unknownAid aid)), card)
  | some entry =>
    let context := entry.context
    let deselected := (card.channels.channelsOf context).foldl Card.deselect card
    let told := (deselected.activate ⟨context, 0, false⟩ entry.applet.uninstall).2
    let settled := told.settle
    let removed := { settled with registry := settled.registry.remove context }
    (.ok (), removed.discardContext context)

end SmartCard.Card
