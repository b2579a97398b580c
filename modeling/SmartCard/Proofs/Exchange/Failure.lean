import SmartCard.Proofs.Exchange.Phase

/-!
# Calls that fail

A call that fails leaves the exchange as it was. There is one exception. Code that asks in one go
for a response to be announced and sent, from a range that lies in the buffer but is longer than
may be announced, finds the exchange turned although nothing is announced
(`Exchange.failure_undone_iff`): the range is looked at before the exchange turns, the length only
afterwards.
-/

set_option autoImplicit false
set_option relaxedAutoImplicit false

namespace SmartCard

namespace Exchange

/-- A call that turns an exchange without success has changed it. -/
theorem IsSound.turned_ne {exchange : Exchange} (hsound : exchange.IsSound)
    (hready : exchange.isReady = true) :
    ({ exchange with phase := .outgoing } : Exchange) ≠ exchange := by
  intro hsame
  have hphase : Phase.outgoing = exchange.phase := congrArg phase hsame
  obtain ⟨-, hincoming, -⟩ := hsound.of_isReady hready
  rw [← hphase] at hincoming
  exact Bool.noConfusion hincoming

/-- On every exchange that calls lead to, a call that fails leaves the exchange as it was unless it
asks in one go for a response that is longer than may be announced; such a call turns the exchange
and changes nothing else. -/
theorem failure_undone_iff (command : Command) (bufferSize : Nat) (selecting : Bool)
    (calls : List ExchangeCall) (call : ExchangeCall) {error : CardError}
    (hfails : (reached command bufferSize selecting calls).failure? call = some error) :
    ((reached command bufferSize selecting calls).next call =
        reached command bufferSize selecting calls ↔
      ¬ (reached command bufferSize selecting calls).Overreaches call) ∧
    ((reached command bufferSize selecting calls).Overreaches call →
      (reached command bufferSize selecting calls).next call =
        { reached command bufferSize selecting calls with phase := .outgoing } ∧
      ∃ length, error = .exchange
        (.badLength length (reached command bufferSize selecting calls).maxOutgoing)) := by
  have hsound := isSound_reached command bufferSize selecting calls
  have heffect := effect_answer hsound call
  generalize reached command bufferSize selecting calls = exchange at *
  generalize exchange.next call = after at *
  rw [hfails] at heffect
  cases heffect with
  | failed _ hwithin => exact ⟨iff_of_true rfl hwithin, fun hover ↦ absurd hover hwithin⟩
  | overreached hover =>
    exact ⟨iff_of_false (hsound.turned_ne hover.1) (not_not.mpr hover), fun _ ↦ ⟨rfl, _, rfl⟩⟩

/-- The theorem where the length is too long for a short command. -/
theorem failure_undone_iff_overlong :
    (reached (.plain 0x10 none) defaultBufferSize false []).failure? (.announceAndSend 0 257) =
        some (.exchange (.badLength 257 256)) ∧
      ¬ (reached (.plain 0x10 none) defaultBufferSize false []).next (.announceAndSend 0 257) =
        reached (.plain 0x10 none) defaultBufferSize false [] := by
  have hfails : (reached (.plain 0x10 none) defaultBufferSize false []).failure?
      (.announceAndSend 0 257) = some (.exchange (.badLength 257 256)) := by
    decide +kernel
  obtain ⟨hundone, -⟩ := failure_undone_iff (.plain 0x10 none) defaultBufferSize false []
    (.announceAndSend 0 257) hfails
  refine ⟨hfails, fun hsame ↦ hundone.mp hsame ⟨?_, ?_, ?_⟩⟩ <;> decide +kernel

/-- A call may fail and have an effect: the exchange turns to a response that is not announced. -/
theorem overlong_answer_turns :
    ∃ command, Command.parse [0x00, 0x10, 0x00, 0x00] true = .ok command ∧
      (reached command defaultBufferSize false []).failure? (.announceAndSend 0 257) =
        some (.exchange (.badLength 257 256)) ∧
      (reached command defaultBufferSize false []).phase = .initial ∧
      ((reached command defaultBufferSize false []).next (.announceAndSend 0 257)).phase =
        .outgoing :=
  ⟨.plain 0x10 none, by decide +kernel⟩

end Exchange

end SmartCard
