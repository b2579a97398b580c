import SmartCard.Error
import SmartCard.Program

/-!
# What applet code can ask the card for

Each service names what it needs and has an answer of a fixed type. The code does not say who it
is: the card answers for the context in which the code runs. Besides the card's services there are
two that concern the host, the world outside the card that test applets report to: no rule of the
card depends on it, and neither a reset nor an undone transaction touches it.
-/

set_option autoImplicit false
set_option relaxedAutoImplicit false

namespace SmartCard

inductive Service (σ : Type) where
  | ownAid
  | ownContext
  | ownChannel
  | isSelecting
  | findAid (bytes : List UInt8)
  | register
  | registerSlice (bytes : List UInt8) (offset length : Nat)
  | allocate (lifetime : Lifetime) (kind : ElementKind) (length : Nat)
  | available (lifetime : Lifetime)
  | lengthOf (array : ArrayRef)
  | lifetimeOf (array : ArrayRef)
  | get (kind : ElementKind) (array : ArrayRef) (index : Nat)
  | set (kind : ElementKind) (array : ArrayRef) (index : Nat) (value : kind.Value)
  | read (array : ArrayRef) (offset length : Nat)
  | write (array : ArrayRef) (offset : Nat) (bytes : List UInt8)
  | fill (array : ArrayRef) (offset length : Nat) (value : UInt8)
  | begin
  | commit
  | abort
  | depth
  | commitCapacity
  | unusedCommitCapacity
  | offer (array : ArrayRef) (parameter : UInt8) (client : Option Aid)
  | shared (server : Aid) (parameter : UInt8)
  | host
  | setHost (host : σ)

namespace Service

variable {σ : Type}

/-- The type of a service's answer. -/
@[reducible]
def Answer : Service σ → Type
  | .ownAid => Option Aid
  | .ownContext => ContextId
  | .ownChannel => Nat
  | .isSelecting => Bool
  | .findAid _ => Option Aid
  | .register => Except CardError Unit
  | .registerSlice _ _ _ => Except CardError Unit
  | .allocate _ _ _ => Except CardError ArrayRef
  | .available _ => Nat
  | .lengthOf _ => Except CardError Nat
  | .lifetimeOf _ => Except CardError Lifetime
  | .get kind _ _ => Except CardError kind.Value
  | .set _ _ _ _ => Except CardError Unit
  | .read _ _ _ => Except CardError (List UInt8)
  | .write _ _ _ => Except CardError Unit
  | .fill _ _ _ _ => Except CardError Unit
  | .begin => Except CardError Unit
  | .commit => Except CardError Unit
  | .abort => Except CardError Unit
  | .depth => Nat
  | .commitCapacity => Nat
  | .unusedCommitCapacity => Nat
  | .offer _ _ _ => Except CardError Unit
  | .shared _ _ => Option ArrayRef
  | .host => σ
  | .setHost _ => Unit

end Service

/-- The calls open to all applet code. -/
abbrev services (σ : Type) : Interface :=
  ⟨Service σ, Service.Answer⟩

/-- The calls on the exchange, open to the code that processes a command. -/
inductive ExchangeCall where
  | look
  | receive
  | receiveMore (offset : Nat)
  | turn (chaining : Bool)
  | announce (length : Nat)
  | send (offset length : Nat)
  | sendFrom (source : List UInt8) (offset length : Nat)
  | announceAndSend (offset length : Nat)
  | poke (offset : Nat) (bytes : List UInt8)
  deriving DecidableEq

namespace ExchangeCall

/-- The type of a call's answer. -/
@[reducible]
def Answer : ExchangeCall → Type
  | .look => Exchange
  | .receive => Except CardError Nat
  | .receiveMore _ => Except CardError Nat
  | .turn _ => Except CardError Nat
  | .announce _ => Except CardError Unit
  | .send _ _ => Except CardError Unit
  | .sendFrom _ _ _ => Except CardError Unit
  | .announceAndSend _ _ => Except CardError Unit
  | .poke _ _ => Unit

/-- The failure of an exchange as a failure of applet code. -/
def failing {α : Type} (answered : Except ExchangeError α × Exchange) :
    Except CardError α × Exchange :=
  (answered.1.mapError .exchange, answered.2)

/-- Answers a call. -/
def answer : (call : ExchangeCall) → Exchange → call.Answer × Exchange
  | .look, exchange => (exchange, exchange)
  | .receive, exchange => failing exchange.receive
  | .receiveMore offset, exchange => failing (exchange.receiveMore offset)
  | .turn chaining, exchange => failing (exchange.turn chaining)
  | .announce length, exchange => failing (exchange.announce length)
  | .send offset length, exchange => failing (exchange.send offset length)
  | .sendFrom source offset length, exchange => failing (exchange.sendFrom source offset length)
  | .announceAndSend offset length, exchange => failing (exchange.announceAndSend offset length)
  | .poke offset bytes, exchange => ((), exchange.poke offset bytes)

end ExchangeCall

/-- The calls on the exchange as an interface. -/
abbrev exchangeCalls : Interface :=
  ⟨ExchangeCall, ExchangeCall.Answer⟩

/-- The calls open to the code that processes a command. -/
abbrev processCalls (σ : Type) : Interface :=
  (services σ).sum exchangeCalls

end SmartCard
