import SmartCard.Proofs.Exchange.Phase

/-!
# The response of an exchange

Calls on an exchange announce a length, once, and send bytes. What a single call adds to the
response, announces and forbids can be read off the exchange before it (`Exchange.sent`,
`Exchange.announcement?`, `Exchange.unchains`). An exchange recounts the calls that have led to it
(`Exchange.Recounts`): its response is all that they have sent, its announced length the one that
they have announced, and whether it may be chained is what they have asked for. Together with what
the phase tells this bounds the response and says how the exchange ends (`Exchange.IsAccounted`).
-/

set_option autoImplicit false
set_option relaxedAutoImplicit false

namespace SmartCard

/-- The length that a call is about to announce. -/
def ExchangeCall.length? : ExchangeCall → Option Nat
  | .announce length => some length
  | .announceAndSend _ length => some length
  | _ => none

namespace Exchange

/-! ### What a call tells -/

/-- The bytes that a call sends, taken from where they stand when it is made. A call that fails
sends none. -/
def sent (exchange : Exchange) (call : ExchangeCall) : List UInt8 :=
  (exchange.failure? call).elim (exchange.named call) fun _ ↦ []

/-- The length that a call announces, if it does not fail. -/
def announcement? (exchange : Exchange) (call : ExchangeCall) : Option Nat :=
  (exchange.failure? call).elim call.length? fun _ ↦ none

/-- Whether a call forbids the response to be chained, and does not fail. -/
def unchains (exchange : Exchange) (call : ExchangeCall) : Bool :=
  (exchange.failure? call).elim (call == .turn false) fun _ ↦ false

section Step

variable {exchange : Exchange} (hsound : exchange.IsSound) (call : ExchangeCall)

include hsound

/-- The response grows by what a call sends. -/
theorem IsSound.response_next :
    (exchange.next call).response = exchange.response ++ exchange.sent call := by
  have heffect := effect_answer hsound call
  unfold sent
  generalize exchange.failure? call = failure? at heffect ⊢
  generalize exchange.next call = after at heffect ⊢
  cases heffect with
  | sent => rfl
  | answered hready =>
    obtain ⟨-, -, hsilent⟩ := hsound.of_isReady hready
    exact (congrArg (· ++ _) (hsound.response_eq_nil hsilent)).symm
  | failed | overreached | looked | received | receivedMore | turned | announced | poked =>
    exact (List.append_nil _).symm

/-- Chaining is forbidden from the call on that forbids it. -/
theorem IsSound.unchained_next :
    (exchange.next call).unchained = (exchange.unchained || exchange.unchains call) := by
  have heffect := effect_answer hsound call
  unfold unchains
  generalize exchange.failure? call = failure? at heffect ⊢
  generalize exchange.next call = after at heffect ⊢
  cases heffect with
  | @turned chaining =>
    cases chaining <;> rfl
  | sent hcall =>
    obtain ⟨source, offset, length, rfl | rfl⟩ := hcall <;> exact (Bool.or_false _).symm
  | failed | overreached | looked | received | receivedMore | announced | answered | poked =>
    exact (Bool.or_false _).symm

/-- A length is announced where none was before. -/
theorem IsSound.next_of_announcement? {length : Nat}
    (hannounces : exchange.announcement? call = some length) :
    exchange.phase.isAnnounced = false ∧ (exchange.next call).phase.isAnnounced = true ∧
      (exchange.next call).announced = length := by
  have heffect := effect_answer hsound call
  unfold announcement? at hannounces
  generalize exchange.failure? call = failure? at heffect hannounces
  generalize exchange.next call = after at heffect ⊢
  cases heffect with
  | @announced requested hphase =>
    obtain rfl : requested = length := Option.some.inj hannounces
    refine ⟨?_, ?_, rfl⟩
    · rw [hphase]
      rfl
    · dsimp only
      split <;> rfl
  | answered hready =>
    obtain ⟨-, -, hsilent⟩ := hsound.of_isReady hready
    exact ⟨hsilent, rfl, Option.some.inj hannounces⟩
  | sent hcall =>
    obtain ⟨source, offset, length, rfl | rfl⟩ := hcall <;>
      exact absurd hannounces.symm (Option.some_ne_none _)
  | failed | overreached | looked | received | receivedMore | turned | poked =>
    exact absurd hannounces.symm (Option.some_ne_none _)

/-- A call that announces nothing leaves what is announced. -/
theorem IsSound.next_of_announcement?_eq_none (hsilent : exchange.announcement? call = none) :
    (exchange.next call).phase.isAnnounced = exchange.phase.isAnnounced ∧
      (exchange.next call).announced = exchange.announced := by
  have heffect := effect_answer hsound call
  unfold announcement? at hsilent
  generalize exchange.failure? call = failure? at heffect hsilent
  generalize exchange.next call = after at heffect ⊢
  cases heffect with
  | failed | looked | poked => exact ⟨rfl, rfl⟩
  | overreached hoverreaches =>
    obtain ⟨-, -, hbefore⟩ := hsound.of_isReady hoverreaches.1
    exact ⟨hbefore.symm, rfl⟩
  | turned hready =>
    obtain ⟨-, -, hbefore⟩ := hsound.of_isReady hready
    exact ⟨hbefore.symm, rfl⟩
  | received hphase =>
    refine ⟨(isAnnounced_receiveAt exchange _).trans ?_, rfl⟩
    rw [hphase]
    rfl
  | receivedMore hphase =>
    refine ⟨(isAnnounced_receiveAt exchange _).trans ?_, rfl⟩
    rw [hphase]
    rfl
  | sent hcall hphase =>
    refine ⟨?_, rfl⟩
    rw [Phase.isAnnounced_of_isSending hphase]
    unfold sending
    dsimp only
    split <;> rfl
  | announced | answered => exact absurd hsilent (Option.some_ne_none _)

/-- An exchange that has turned to its response stays so. -/
theorem IsSound.isOutgoing_next (houtgoing : exchange.phase.isOutgoing = true) :
    (exchange.next call).phase.isOutgoing = true := by
  have heffect := effect_answer hsound call
  generalize exchange.failure? call = failure? at heffect
  generalize exchange.next call = after at heffect ⊢
  cases heffect with
  | failed | looked | poked => exact houtgoing
  | overreached | turned | answered => rfl
  | received hphase | receivedMore hphase =>
    rw [hphase] at houtgoing
    exact Bool.noConfusion houtgoing
  | announced =>
    dsimp only
    split <;> rfl
  | sent =>
    unfold sending
    dsimp only
    split <;> rfl

/-- Nothing is sent or announced once all is sent, and the exchange stays so. -/
theorem IsSound.next_of_full (hfull : exchange.phase = .fullOutgoing) :
    exchange.next call = { exchange with buffer := (exchange.next call).buffer } := by
  have heffect := effect_answer hsound call
  generalize exchange.failure? call = failure? at heffect
  generalize exchange.next call = after at heffect ⊢
  have hready : exchange.isReady ≠ true := by
    unfold isReady
    rw [hfull]
    exact Bool.false_ne_true
  cases heffect with
  | failed | looked | poked => rfl
  | overreached hoverreaches => exact absurd hoverreaches.1 hready
  | turned hturned | answered hturned => exact absurd hturned hready
  | received hphase | receivedMore hphase | announced hphase =>
    exact Phase.noConfusion (hfull.symm.trans hphase)
  | sent _ hphase =>
    rw [hfull] at hphase
    exact Bool.noConfusion hphase

end Step

/-! ### What calls have led to -/

/-- Whether the exchange of a command is what the calls before have made of it. -/
structure Recounts (command : Command) (history : List (Exchange × ExchangeCall))
    (exchange : Exchange) : Prop where
  command_eq : exchange.command = command
  sound : exchange.IsSound
  response_eq : exchange.response = history.flatMap fun step ↦ step.1.sent step.2
  announced_eq : ∀ step ∈ history, ∀ length, step.1.announcement? step.2 = some length →
    exchange.phase.isAnnounced = true ∧ exchange.announced = length
  exists_of_isAnnounced : exchange.phase.isAnnounced = true →
    ∃ step ∈ history, step.1.announcement? step.2 = some exchange.announced
  unchained_iff : exchange.unchained = true ↔ ∃ step ∈ history, step.1.unchains step.2 = true

/-- A fresh exchange has no calls to recount. -/
theorem recounts_start (command : Command) (bufferSize : Nat) (selecting : Bool) :
    (start command bufferSize selecting).Recounts command [] where
  command_eq := rfl
  sound := isSound_start command bufferSize selecting
  response_eq := rfl
  announced_eq := fun _ hstep ↦ absurd hstep List.not_mem_nil
  exists_of_isAnnounced := Bool.noConfusion
  unchained_iff := ⟨Bool.noConfusion, fun ⟨_, hstep, _⟩ ↦ absurd hstep List.not_mem_nil⟩

section Run

variable {command : Command} {history : List (Exchange × ExchangeCall)} {exchange : Exchange}

/-- One more call. -/
theorem Recounts.next (hrecounts : exchange.Recounts command history) (call : ExchangeCall) :
    (exchange.next call).Recounts command (history ++ [(exchange, call)]) := by
  have hsound := hrecounts.sound
  have hcommand := (effect_answer hsound call).command_eq.trans hrecounts.command_eq
  refine ⟨hcommand, hsound.next call, ?_, fun step hstep length hannounces ↦ ?_,
    fun hannounced ↦ ?_, ?_⟩
  · rw [hsound.response_next, hrecounts.response_eq, List.flatMap_append, List.flatMap_singleton]
  · obtain hbefore | hlast := List.mem_append.mp hstep
    · -- a length announced before is not announced again
      obtain ⟨hannounced, hlength⟩ := hrecounts.announced_eq step hbefore length hannounces
      cases hcall : exchange.announcement? call with
      | none =>
        obtain ⟨hphase, hstays⟩ := hsound.next_of_announcement?_eq_none call hcall
        exact ⟨hphase.trans hannounced, hstays.trans hlength⟩
      | some other =>
        obtain ⟨hsilent, -⟩ := hsound.next_of_announcement? call hcall
        exact absurd hannounced (Bool.eq_false_iff.mp hsilent)
    · obtain rfl := List.mem_singleton.mp hlast
      exact (hsound.next_of_announcement? call hannounces).2
  · cases hcall : exchange.announcement? call with
    | none =>
      obtain ⟨hphase, hstays⟩ := hsound.next_of_announcement?_eq_none call hcall
      obtain ⟨step, hstep, hannounces⟩ :=
        hrecounts.exists_of_isAnnounced (hphase.symm.trans hannounced)
      exact ⟨step, List.mem_append_left _ hstep, hstays ▸ hannounces⟩
    | some length =>
      obtain ⟨-, -, rfl⟩ := hsound.next_of_announcement? call hcall
      exact ⟨(exchange, call), List.mem_append_right _ List.mem_cons_self, hcall⟩
  · rw [hsound.unchained_next, Bool.or_eq_true, hrecounts.unchained_iff]
    constructor
    · rintro (⟨step, hstep, hunchains⟩ | hunchains)
      · exact ⟨step, List.mem_append_left _ hstep, hunchains⟩
      · exact ⟨(exchange, call), List.mem_append_right _ List.mem_cons_self, hunchains⟩
    · rintro ⟨step, hstep, hunchains⟩
      obtain hbefore | hlast := List.mem_append.mp hstep
      · exact .inl ⟨step, hbefore, hunchains⟩
      · obtain rfl := List.mem_singleton.mp hlast
        exact .inr hunchains

/-- Any number of calls. -/
theorem Recounts.foldl (hrecounts : exchange.Recounts command history)
    (calls : List ExchangeCall) :
    (calls.foldl Exchange.next exchange).Recounts command (history ++ exchange.along calls) := by
  induction calls generalizing history exchange with
  | nil => exact (List.append_nil history).symm ▸ hrecounts
  | cons call rest ih =>
    rw [along, List.append_cons]
    exact ih (hrecounts.next call)

end Run

/-! ### Bounds -/

/-- What holds of the exchange of a command after calls, as far as its response is concerned. -/
structure IsAccounted (command : Command) (history : List (Exchange × ExchangeCall))
    (exchange : Exchange) : Prop where
  response_eq : exchange.response = history.flatMap fun step ↦ step.1.sent step.2
  announced_eq : ∀ step ∈ history, ∀ length, step.1.announcement? step.2 = some length →
    exchange.phase.isAnnounced = true ∧ exchange.announced = length
  exists_of_isAnnounced : exchange.phase.isAnnounced = true →
    ∃ step ∈ history, step.1.announcement? step.2 = some exchange.announced
  response_le : exchange.response.length ≤ exchange.announced
  announced_le : exchange.announced ≤
    if command.extended then maxExtendedOutgoing else maxShortOutgoing
  accepted_le : (∃ step ∈ history, step.1.unchains step.2 = true) →
    exchange.announced ≤ command.accepted
  full_iff : exchange.phase.isAnnounced = true →
    (exchange.phase = .fullOutgoing ↔ exchange.response.length = exchange.announced)
  full_stays : exchange.phase = .fullOutgoing → ∀ call,
    exchange.next call = { exchange with buffer := (exchange.next call).buffer }
  outgoing_stays : exchange.phase.isOutgoing = true → ∀ call,
    (exchange.next call).phase.isOutgoing = true
  received_eq : exchange.phase.isOutgoing = true → exchange.received = command.data.length
  finish_eq : exchange.finish =
    if exchange.response.length < exchange.announced then
      .error (.incomplete exchange.announced exchange.response.length)
    else .ok exchange.response

section Bounds

variable {command : Command} {history : List (Exchange × ExchangeCall)} {exchange : Exchange}

/-- No more may be announced than a response to the command can have, and without chaining no more
than its sender accepts. -/
theorem maxOutgoing_le (exchange : Exchange) :
    exchange.maxOutgoing ≤
      (if exchange.command.extended then maxExtendedOutgoing else maxShortOutgoing) ∧
    (exchange.unchained = true → exchange.maxOutgoing ≤ exchange.command.accepted) := by
  unfold maxOutgoing
  dsimp only
  generalize (if exchange.command.extended then maxExtendedOutgoing else maxShortOutgoing) = limit
  cases exchange.unchained with
  | false => exact ⟨Nat.le_refl _, Bool.noConfusion⟩
  | true => exact ⟨Nat.min_le_left _ _, fun _ ↦ Nat.min_le_right _ _⟩

/-- An exchange is done unless bytes are owed. -/
theorem IsSound.finish_eq (hsound : exchange.IsSound) :
    exchange.finish =
      if exchange.response.length < exchange.announced then
        .error (.incomplete exchange.announced exchange.response.length)
      else .ok exchange.response := by
  have hsilent := hsound.silent
  have hle := hsound.response_le
  have hfull := hsound.full_iff
  unfold finish
  cases hphase : exchange.phase with
  | initial | partialIncoming | fullIncoming | outgoing =>
    rw [hphase] at hsilent
    rw [if_neg (by rw [hsilent rfl]; exact Nat.not_lt_zero _)]
  | outgoingLengthKnown | partialOutgoing =>
    rw [hphase] at hfull
    have hne : exchange.response.length ≠ exchange.announced := fun heq ↦
      Phase.noConfusion ((hfull rfl).mpr heq)
    rw [if_pos (Nat.lt_of_le_of_ne hle hne)]
  | fullOutgoing =>
    rw [hphase] at hfull
    rw [if_neg (Nat.not_lt.mpr (Nat.le_of_eq ((hfull rfl).mp rfl).symm))]

/-- What calls have led to is bounded as the phase tells. -/
theorem Recounts.isAccounted (hrecounts : exchange.Recounts command history) :
    exchange.IsAccounted command history where
  response_eq := hrecounts.response_eq
  announced_eq := hrecounts.announced_eq
  exists_of_isAnnounced := hrecounts.exists_of_isAnnounced
  response_le := hrecounts.sound.response_le
  announced_le := hrecounts.command_eq ▸
    Nat.le_trans hrecounts.sound.announced_le exchange.maxOutgoing_le.1
  accepted_le := fun hunchains ↦ hrecounts.command_eq ▸
    Nat.le_trans hrecounts.sound.announced_le
      (exchange.maxOutgoing_le.2 (hrecounts.unchained_iff.mpr hunchains))
  full_iff := hrecounts.sound.full_iff
  full_stays := fun hfull call ↦ hrecounts.sound.next_of_full call hfull
  outgoing_stays := fun houtgoing call ↦ hrecounts.sound.isOutgoing_next call houtgoing
  received_eq := fun houtgoing ↦ hrecounts.command_eq ▸
    hrecounts.sound.received_of_isOutgoing houtgoing
  finish_eq := hrecounts.sound.finish_eq

end Bounds

end Exchange

end SmartCard
