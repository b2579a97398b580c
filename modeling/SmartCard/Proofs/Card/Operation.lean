import SmartCard.Card.Dispatch
import SmartCard.Card.Installation

/-!
# Every state of a card

A card is reached from one powered up by operations from outside, in any order, with any applets
(`Card.Reachable`). An operation may free the arrays of a context in the end (`Card.lost`).
-/

set_option autoImplicit false
set_option relaxedAutoImplicit false

namespace SmartCard

/-- What the world outside can do to a card. -/
inductive Card.Operation (σ : Type) : Type 1 where
  | transmit (raw : List UInt8)
  | select (aid : Aid) (channel : Nat)
  | deselect (channel : Nat)
  | openChannel (origin : Nat) (requested : Option Nat)
  | closeChannel (channel : Nat)
  | install (aid : Aid) (data : List UInt8) (factory : Factory σ)
  | uninstall (aid : Aid)
  | inspect {α : Type} (aid : Aid) (program : Program (services σ) α)
  | reset
  | armTear (writes : Nat)
  | disarmTear
  | setHost (host : σ)

namespace Card

variable {σ : Type}

/-- The card after an operation. -/
def next (card : Card σ) : Operation σ → Card σ
  | .transmit raw => (card.transmit raw).2
  | .select aid channel => (card.select aid channel).2
  | .deselect channel => card.deselect channel
  | .openChannel origin requested => (card.openChannel origin requested).2
  | .closeChannel channel => (card.closeChannel channel).2
  | .install aid data factory => (card.install aid data factory).2
  | .uninstall aid => (card.uninstall aid).2
  | .inspect aid program => (card.inspect aid program).2
  | .reset => card.reset
  | .armTear writes => card.armTear writes
  | .disarmTear => card.disarmTear
  | .setHost host => { card with host }

/-- A card powered up is as its configuration says, with nothing installed. -/
theorem eq_of_ofConfig {config : Config} {host : σ} {card : Card σ}
    (hcard : Card.ofConfig config host = .ok card) :
    ∃ atr, config.readAtr = .ok atr ∧ card = {
      config := config
      atr := atr
      platform := ⟨.empty config.quotas config.commitCapacity, .initial⟩
      registry := .empty config.maxApplets
      channels := .initial config.logicalChannels
      host := host } := by
  unfold Card.ofConfig at hcard
  split at hcard
  · cases hcard
  · cases hcard
  case h_3 atr _ hatr => exact ⟨atr, hatr, (Except.ok.inj hcard).symm⟩

/-- Whether an operation comes back to whoever asked for it. Only code that looks at an applet's
memory may crash through. -/
def Returns (card : Card σ) : Operation σ → Prop
  | .inspect aid program => ∀ text, (card.inspect aid program).1 ≠ some (.crash text)
  | _ => True

/-- The cards that operations lead to. -/
inductive Reachable : Card σ → Prop where
  | ofConfig {config : Config} {host : σ} {card : Card σ}
    (hcard : Card.ofConfig config host = .ok card) : Reachable card
  | next {card : Card σ} (hcard : Reachable card) {operation : Operation σ}
    (hreturns : card.Returns operation) : Reachable (card.next operation)

/-! ### What an operation loses -/

/-- The context of an installation that fails after it has begun. -/
def installLost (card : Card σ) (aid : Aid) (data : List UInt8) (factory : Factory σ) :
    Option ContextId :=
  match card.admitInstall aid data, (card.install aid data factory).1 with
  | .ok _, .error _ => card.platform.contexts.create.map (·.1)
  | _, _ => none

/-- The context whose arrays an operation frees in the end: that of an installation that failed, or
of the applet removed. -/
def lost (card : Card σ) : Operation σ → Option ContextId
  | .install aid data factory => card.installLost aid data factory
  | .uninstall aid => (card.registry.find? aid.bytes).map (·.context)
  | _ => none

end Card

end SmartCard
