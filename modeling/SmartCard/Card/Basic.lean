import SmartCard.Applet.Session
import SmartCard.Card.Registry
import SmartCard.Channel
import SmartCard.Config.Reader

/-!
# Cards

A card is all state of one simulated card: memory, contexts, applets and channels. `activate` is
the one place where applet code runs outside the processing of a command. It does not undo a
transaction that the code leaves open; every caller does that with `settle`.
-/

set_option autoImplicit false
set_option relaxedAutoImplicit false

namespace SmartCard

structure Card (σ : Type) where
  config : Config
  atr : List UInt8
  platform : Platform
  registry : Registry σ
  channels : ChannelTable
  /-- The world outside the card, as far as applet code reports to it. -/
  host : σ

namespace Card

variable {σ α : Type}

/-- A powered-up card with nothing installed. -/
def ofConfig (config : Config) (host : σ) : Except ConfigError (Card σ) :=
  match config.validate, config.readAtr with
  | .error fault, _ => .error (.invalid fault)
  | .ok (), .error fault => .error (.invalid fault)
  | .ok (), .ok atr =>
    .ok {
      config := config
      atr := atr
      platform := ⟨.empty config.quotas config.commitCapacity, .initial⟩
      registry := .empty config.maxApplets
      channels := .initial config.logicalChannels
      host := host }

/-! ### Looking at a card -/

/-- The identifier of the applet selected on a channel. -/
def activeAid (card : Card σ) (channel : Nat) : Option Aid := do
  let context ← card.channels.selected channel
  let entry ← card.registry.inContext? context
  return entry.aid

/-- The identifiers of the installed applets, the oldest first. -/
def applets (card : Card σ) : List Aid :=
  card.registry.aids

/-- The open channels, in order. -/
def openChannels (card : Card σ) : List Nat :=
  card.channels.openChannels

/-- The bytes left of each quota. -/
def availableMemory (card : Card σ) : PerLifetime :=
  .ofFn card.platform.store.heap.available

/-- How many transactions are open. -/
def transactionDepth (card : Card σ) : Nat :=
  card.platform.store.transaction.depth

/-- How many tears there have been. -/
def tearsFired (card : Card σ) : Nat :=
  card.platform.store.transaction.tear.fired

/-! ### Small changes -/

/-- The card with its store put through a function. -/
def mapStore (card : Card σ) (change : Store → Store) : Card σ :=
  { card with platform := { card.platform with store := change card.platform.store } }

/-- The card with its heap put through a function. -/
def mapHeap (card : Card σ) (change : Heap → Heap) : Card σ :=
  card.mapStore fun store ↦ { store with heap := change store.heap }

/-- The card with its tear injector put through a function. -/
def mapTear (card : Card σ) (change : TearInjector → TearInjector) : Card σ :=
  card.mapStore fun store ↦
    { store with transaction := { store.transaction with tear := change store.transaction.tear } }

/-- Lets `writes` more persistent writes through and tears the next one. -/
def armTear (card : Card σ) (writes : Nat) : Card σ :=
  card.mapTear (·.arm writes)

/-- Lets all writes through. -/
def disarmTear (card : Card σ) : Card σ :=
  card.mapTear (·.disarm)

/-- Undoes whatever transaction is open. -/
def settle (card : Card σ) : Card σ :=
  { card with platform := card.platform.settle }

/-- Notes which context's applet is selected on a channel. -/
def setSelected (card : Card σ) (channel : Nat) (context : Option ContextId) : Card σ :=
  { card with channels := card.channels.setSelected channel context }

/-- Forgets what a context's applet loses when it is deselected. -/
def clearOnDeselect (card : Card σ) (context : ContextId) : Card σ :=
  card.mapHeap (·.clearOnDeselect context)

/-! ### Running applet code -/

/-- Runs applet code in a frame. -/
def activate (card : Card σ) (frame : Frame) (program : Program (services σ) α) :
    Ending α × Card σ :=
  let (ending, session) := program.run Session.answer ⟨frame, card.platform, card.host, none⟩
  (ending, { card with platform := session.platform, host := session.host })

/-- Runs code in the context of an installed applet, to look at its memory. A transaction left open
is undone, except by a crash, which stops whoever asked. -/
def inspect (card : Card σ) (aid : Aid) (program : Program (services σ) α) :
    Option (Ending α) × Card σ :=
  match card.registry.find? aid.bytes with
  | none => (none, card)
  | some entry =>
    match card.activate ⟨entry.context, 0, false⟩ program with
    | (.value value, card) => (some (.value value), card.settle)
    | (.crash text, card) => (some (.crash text), card)

/-! ### Reset -/

/-- Takes the power away and gives it back: the open transaction is undone, transient memory is
forgotten, and only the basic channel is open, with nothing selected. No applet code runs. -/
def reset (card : Card σ) : Card σ :=
  let settled := card.settle.mapHeap (·.clearOnReset)
  { settled with channels := settled.channels.reset }

end Card

end SmartCard
