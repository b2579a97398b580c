import SmartCard.Transaction.Error

/-!
# Tears

A card can lose power between any two persistent writes. Once armed with a number, the injector
lets that many writes through, refuses the next one before it reaches memory, and is disarmed.
-/

set_option autoImplicit false
set_option relaxedAutoImplicit false

namespace SmartCard

structure TearInjector where
  /-- How many more writes come through before the tear, `none` when disarmed. -/
  remaining : Option Nat
  /-- How many tears there have been. -/
  fired : Nat
  deriving DecidableEq, Repr

namespace TearInjector

/-- A disarmed injector that has never fired. -/
def idle : TearInjector :=
  ⟨none, 0⟩

/-- Lets `writes` more writes through and tears the next one. -/
def arm (injector : TearInjector) (writes : Nat) : TearInjector :=
  { injector with remaining := some writes }

/-- Lets all writes through. -/
def disarm (injector : TearInjector) : TearInjector :=
  { injector with remaining := none }

/-- Whether a tear is to come. -/
def isArmed (injector : TearInjector) : Bool :=
  injector.remaining.isSome

/-- One persistent write: the injector after it, and whether the write comes through. -/
def pass (injector : TearInjector) : Except TransactionError Unit × TearInjector :=
  match injector.remaining with
  | none => (.ok (), injector)
  | some 0 => (.error .torn, ⟨none, injector.fired + 1⟩)
  | some (writes + 1) => (.ok (), { injector with remaining := some writes })

end TearInjector

end SmartCard
