import SmartCard.Proofs.Applet.Receiving

/-!
# What the calls on an exchange do

Code makes any calls on an exchange, in any order, and a call may fail. What a single call can do is
said once (`Exchange.effect_answer`): it fails and changes nothing, or it does its work, or it asks
for the whole response to be announced and sent, has the announcement refused, and leaves the
exchange turned.

That a response announced and sent in one go is never refused for being too long for its own
announcement holds because nothing has been sent before the exchange turns. This is one of the facts
that the phase tells about the counts of an exchange (`Exchange.IsSound`); every call keeps them,
so they hold of every exchange that calls lead to (`Exchange.isSound_reached`).
-/

set_option autoImplicit false
set_option relaxedAutoImplicit false

namespace SmartCard

/-! ### Phases -/

namespace Phase

/-- Whether the exchange has turned to its response. -/
def isOutgoing : Phase → Bool
  | .initial | .partialIncoming | .fullIncoming => false
  | .outgoing | .outgoingLengthKnown | .partialOutgoing | .fullOutgoing => true

/-- Whether the length of the response has been announced. -/
def isAnnounced : Phase → Bool
  | .outgoingLengthKnown | .partialOutgoing | .fullOutgoing => true
  | _ => false

/-- Whether bytes announced may be sent. -/
def isSending : Phase → Bool
  | .outgoingLengthKnown | .partialOutgoing => true
  | _ => false

theorem isAnnounced_of_isSending {phase : Phase} (hsending : phase.isSending = true) :
    phase.isAnnounced = true := by
  cases phase <;> first | rfl | exact Bool.noConfusion hsending

theorem isOutgoing_of_isAnnounced {phase : Phase} (hannounced : phase.isAnnounced = true) :
    phase.isOutgoing = true := by
  cases phase <;> first | rfl | exact Bool.noConfusion hannounced

end Phase

/-! ### Calls -/

namespace ExchangeCall

/-- The failure that an outcome is, if it is one. -/
def errorOf {ε α : Type} : Except ε α → Option ε
  | .error error => some error
  | .ok _ => none

/-- The failure that an answer to a call is, if it is one. -/
def failureIn : (call : ExchangeCall) → call.Answer → Option CardError
  | .look, _ => none
  | .receive, answer => errorOf answer
  | .receiveMore _, answer => errorOf answer
  | .turn _, answer => errorOf answer
  | .announce _, answer => errorOf answer
  | .send _ _, answer => errorOf answer
  | .sendFrom _ _ _, answer => errorOf answer
  | .announceAndSend _ _, answer => errorOf answer
  | .poke _ _, _ => none

end ExchangeCall

namespace Exchange

/-- The exchange after a call. -/
def next (exchange : Exchange) (call : ExchangeCall) : Exchange :=
  (call.answer exchange).2

/-- How a call fails, if it does. -/
def failure? (exchange : Exchange) (call : ExchangeCall) : Option CardError :=
  call.failureIn (call.answer exchange).1

/-- The exchange that calls on a fresh one lead to. -/
def reached (command : Command) (bufferSize : Nat) (selecting : Bool)
    (calls : List ExchangeCall) : Exchange :=
  calls.foldl next (start command bufferSize selecting)

/-- Calls, each with the exchange before it. -/
def along : Exchange → List ExchangeCall → List (Exchange × ExchangeCall)
  | _, [] => []
  | exchange, call :: rest => (exchange, call) :: along (exchange.next call) rest

/-- The bytes that a call names to be sent. -/
def named (exchange : Exchange) : ExchangeCall → List UInt8
  | .send offset length => SmartCard.segment offset length exchange.buffer.toList
  | .announceAndSend offset length => SmartCard.segment offset length exchange.buffer.toList
  | .sendFrom source offset length => SmartCard.segment offset length source
  | _ => []

/-- The exchange with some bytes sent. -/
def sending (exchange : Exchange) (bytes : List UInt8) : Exchange :=
  { exchange with
    response := exchange.response ++ bytes
    phase := if (exchange.response ++ bytes).length = exchange.announced then .fullOutgoing
      else .partialOutgoing }

/-! ### What the phase tells -/

/-- What the phase of an exchange tells about its counts, whatever calls have led there. -/
structure IsSound (exchange : Exchange) : Prop where
  length_le : minBufferSize ≤ exchange.buffer.length
  received_le : exchange.received ≤ exchange.command.data.length
  fresh : exchange.phase = .initial → exchange.received = 0
  missing : exchange.phase = .partialIncoming → exchange.received < exchange.command.data.length
  complete : exchange.phase ≠ .initial → exchange.phase ≠ .partialIncoming →
    exchange.received = exchange.command.data.length
  silent : exchange.phase.isAnnounced = false → exchange.announced = 0
  announced_le : exchange.announced ≤ exchange.maxOutgoing
  response_le : exchange.response.length ≤ exchange.announced
  full_iff : exchange.phase.isAnnounced = true →
    (exchange.phase = .fullOutgoing ↔ exchange.response.length = exchange.announced)

/-- A fresh exchange is sound. -/
theorem isSound_start (command : Command) (bufferSize : Nat) (selecting : Bool) :
    (start command bufferSize selecting).IsSound where
  length_le := length_start command bufferSize selecting
  received_le := Nat.zero_le _
  fresh := fun _ ↦ rfl
  missing := Phase.noConfusion
  complete := fun hinitial ↦ absurd rfl hinitial
  silent := fun _ ↦ rfl
  announced_le := Nat.zero_le _
  response_le := Nat.le_refl _
  full_iff := Bool.noConfusion

section IsSound

variable {exchange : Exchange}

/-- Before a length is announced nothing is sent. -/
theorem IsSound.response_eq_nil (hsound : exchange.IsSound)
    (hsilent : exchange.phase.isAnnounced = false) : exchange.response = [] := by
  have hle := hsound.response_le
  rw [hsound.silent hsilent] at hle
  exact List.length_eq_zero_iff.mp (Nat.le_zero.mp hle)

/-- An exchange that has turned has received all data. -/
theorem IsSound.received_of_isOutgoing (hsound : exchange.IsSound)
    (houtgoing : exchange.phase.isOutgoing = true) :
    exchange.received = exchange.command.data.length := by
  refine hsound.complete ?_ ?_ <;> intro hphase <;> rw [hphase] at houtgoing <;>
    exact Bool.noConfusion houtgoing

/-- An exchange that may turn has received all data and announced nothing. -/
theorem IsSound.of_isReady (hsound : exchange.IsSound) (hready : exchange.isReady = true) :
    exchange.received = exchange.command.data.length ∧ exchange.phase.isOutgoing = false ∧
      exchange.phase.isAnnounced = false := by
  unfold isReady at hready
  cases hphase : exchange.phase with
  | initial =>
    rw [hphase] at hready
    rw [hsound.fresh hphase, List.isEmpty_iff.mp hready]
    exact ⟨rfl, rfl, rfl⟩
  | fullIncoming =>
    refine ⟨hsound.complete ?_ ?_, rfl, rfl⟩
    · rw [hphase]
      exact Phase.noConfusion
    · rw [hphase]
      exact Phase.noConfusion
  | partialIncoming | outgoing | outgoingLengthKnown | partialOutgoing | fullOutgoing =>
    rw [hphase] at hready
    exact Bool.noConfusion hready

end IsSound

/-! ### The effect of a call -/

/-- Whether a call asks in one go for a response that is longer than may be announced, and nothing
else is wrong with it. -/
def Overreaches (exchange : Exchange) : ExchangeCall → Prop
  | .announceAndSend offset length => exchange.isReady = true ∧
      offset + length ≤ exchange.buffer.length ∧ exchange.maxOutgoing < length
  | _ => False

/-- What a call does: how it fails, if it does, and the exchange after it. -/
inductive Effect (exchange : Exchange) : ExchangeCall → Option CardError → Exchange → Prop where
  | failed {call : ExchangeCall} (error : CardError) (hwithin : ¬ exchange.Overreaches call) :
    Effect exchange call (some error) exchange
  | overreached {offset length : Nat}
    (hoverreaches : exchange.Overreaches (.announceAndSend offset length)) :
    Effect exchange (.announceAndSend offset length)
      (some (.exchange (.badLength length exchange.maxOutgoing)))
      { exchange with phase := .outgoing }
  | looked : Effect exchange .look none exchange
  | received (hphase : exchange.phase = .initial) :
    Effect exchange .receive none (exchange.receiveAt exchange.command.dataOffset)
  | receivedMore {offset : Nat} (hphase : exchange.phase = .partialIncoming)
    (hoffset : offset < exchange.buffer.length) :
    Effect exchange (.receiveMore offset) none (exchange.receiveAt offset)
  | turned {chaining : Bool} (hready : exchange.isReady = true) :
    Effect exchange (.turn chaining) none
      { exchange with phase := .outgoing, unchained := exchange.unchained || !chaining }
  | announced {length : Nat} (hphase : exchange.phase = .outgoing)
    (hlength : length ≤ exchange.maxOutgoing) :
    Effect exchange (.announce length) none
      { exchange with
        announced := length
        phase := if length = 0 then .fullOutgoing else .outgoingLengthKnown }
  | sent {call : ExchangeCall} (hcall : ∃ source offset length,
      call = .send offset length ∨ call = .sendFrom source offset length)
    (hphase : exchange.phase.isSending = true)
    (hlength : exchange.response.length + (exchange.named call).length ≤ exchange.announced) :
    Effect exchange call none (exchange.sending (exchange.named call))
  | answered {offset length : Nat} (hready : exchange.isReady = true)
    (hlength : length ≤ exchange.maxOutgoing)
    (hnamed : (exchange.named (.announceAndSend offset length)).length = length) :
    Effect exchange (.announceAndSend offset length) none
      { exchange with
        phase := .fullOutgoing
        announced := length
        response := exchange.named (.announceAndSend offset length) }
  | poked {offset : Nat} {bytes : List UInt8} {buffer : Runs UInt8}
    (hbuffer : buffer.length = exchange.buffer.length) :
    Effect exchange (.poke offset bytes) none { exchange with buffer }

section Effect

variable (exchange : Exchange)

/-- Bytes are sent while some are owed, from a range that is there, and not more than announced;
otherwise nothing is. -/
theorem sendSegment_cases (operation : Operation) (source : Runs UInt8) (offset length : Nat) :
    (∃ error, exchange.sendSegment operation source offset length = (.error error, exchange)) ∨
      exchange.phase.isSending = true ∧
        (SmartCard.segment offset length source.toList).length = length ∧
        exchange.response.length + length ≤ exchange.announced ∧
        exchange.sendSegment operation source offset length =
          (.ok (), exchange.sending (SmartCard.segment offset length source.toList)) := by
  unfold sendSegment
  by_cases hphase : exchange.phase ≠ .outgoingLengthKnown ∧ exchange.phase ≠ .partialOutgoing
  · rw [if_pos hphase]
    exact .inl ⟨_, rfl⟩
  rw [if_neg hphase]
  by_cases hrange : source.length < offset + length
  · rw [if_pos hrange]
    exact .inl ⟨_, rfl⟩
  rw [if_neg hrange]
  by_cases hoverrun : exchange.announced < exchange.response.length + length
  · rw [if_pos hoverrun]
    exact .inl ⟨_, rfl⟩
  rw [if_neg hoverrun]
  refine .inr ⟨?_, length_segment ?_, Nat.not_lt.mp hoverrun, ?_⟩
  · rw [not_and_or, not_not, not_not] at hphase
    obtain hphase | hphase := hphase <;> rw [hphase] <;> rfl
  · rw [Runs.length_toList]
    exact Nat.not_lt.mp hrange
  · unfold sending
    rw [Runs.toList_segment]

variable {exchange} (hsound : exchange.IsSound)

include hsound

/-- A response announced and sent in one go is sent whole, unless it may not be announced. -/
theorem announceAndSend_cases (offset length : Nat) :
    Effect exchange (.announceAndSend offset length)
      (exchange.failure? (.announceAndSend offset length))
      (exchange.next (.announceAndSend offset length)) := by
  change Effect exchange _
    (ExchangeCall.errorOf (ExchangeCall.failing (exchange.announceAndSend offset length)).1)
    (ExchangeCall.failing (exchange.announceAndSend offset length)).2
  unfold announceAndSend
  by_cases hrange : exchange.buffer.length < offset + length
  · rw [if_pos hrange]
    exact .failed _ fun hover ↦ Nat.not_le.mpr hrange hover.2.1
  rw [if_neg hrange]
  unfold turn
  by_cases hready : exchange.isReady = true
  swap
  · rw [if_neg hready]
    exact .failed _ fun hover ↦ hready hover.1
  rw [if_pos hready]
  have hturned : ({ exchange with
      phase := .outgoing, unchained := exchange.unchained || !true } : Exchange) =
      { exchange with phase := .outgoing } := by
    rw [Bool.not_true, Bool.or_false]
  dsimp only
  rw [hturned]
  unfold announce
  by_cases hlong : exchange.maxOutgoing < length
  · have hmax : ({ exchange with phase := .outgoing } : Exchange).maxOutgoing < length := hlong
    rw [if_neg (not_not.mpr rfl), if_pos hmax]
    exact .overreached ⟨hready, Nat.not_lt.mp hrange, hlong⟩
  have hmax : ¬ ({ exchange with phase := .outgoing } : Exchange).maxOutgoing < length := hlong
  rw [if_neg (not_not.mpr rfl), if_neg hmax]
  obtain ⟨-, -, hsilent⟩ := hsound.of_isReady hready
  have hnone := hsound.response_eq_nil hsilent
  have hbytes : (SmartCard.segment offset length exchange.buffer.toList).length = length := by
    refine length_segment ?_
    rw [Runs.length_toList]
    exact Nat.not_lt.mp hrange
  have hanswered := @Effect.answered exchange offset length hready (Nat.not_lt.mp hlong) hbytes
  dsimp only
  by_cases hempty : length = 0
  · -- nothing is left to send once no bytes are announced
    have hresponse : exchange.named (.announceAndSend offset length) = exchange.response := by
      rw [hnone]
      exact List.length_eq_zero_iff.mp (hbytes.trans hempty)
    rw [if_pos hempty, if_pos hempty]
    rw [hresponse] at hanswered
    exact hanswered
  · rw [if_neg hempty, if_neg hempty]
    set announced : Exchange :=
      { exchange with phase := .outgoingLengthKnown, announced := length } with hannounced
    have hfits : announced.response.length + length ≤ announced.announced := by
      rw [hannounced]
      dsimp only
      rw [hnone, List.length_nil, Nat.zero_add]
    have hsent : announced.send offset length =
        (.ok (), announced.sending (SmartCard.segment offset length exchange.buffer.toList)) := by
      unfold send sendSegment sending
      rw [if_neg fun hphase ↦ hphase.1 rfl, if_neg hrange, if_neg (Nat.not_lt.mpr hfits),
        Runs.toList_segment]
    rw [hsent]
    have hfull : announced.sending (SmartCard.segment offset length exchange.buffer.toList) =
        { exchange with
          phase := .fullOutgoing
          announced := length
          response := exchange.named (.announceAndSend offset length) } := by
      unfold sending
      rw [hannounced]
      dsimp only
      rw [hnone, List.nil_append, if_pos hbytes]
      rfl
    rw [hfull]
    exact hanswered

/-- All that a call can do. -/
theorem effect_answer (call : ExchangeCall) :
    Effect exchange call (exchange.failure? call) (exchange.next call) := by
  cases call with
  | look => exact .looked
  | receive =>
    change Effect exchange _ (ExchangeCall.errorOf (ExchangeCall.failing exchange.receive).1)
      (ExchangeCall.failing exchange.receive).2
    unfold receive
    by_cases hphase : exchange.phase = .initial
    · rw [if_pos hphase]
      exact .received hphase
    · rw [if_neg hphase]
      exact .failed _ id
  | receiveMore offset =>
    change Effect exchange _
      (ExchangeCall.errorOf (ExchangeCall.failing (exchange.receiveMore offset)).1)
      (ExchangeCall.failing (exchange.receiveMore offset)).2
    unfold receiveMore
    by_cases hphase : exchange.phase ≠ .partialIncoming
    · rw [if_pos hphase]
      exact .failed _ id
    rw [if_neg hphase]
    by_cases hoffset : exchange.buffer.length ≤ offset
    · rw [if_pos hoffset]
      exact .failed _ id
    · rw [if_neg hoffset]
      exact .receivedMore (not_not.mp hphase) (Nat.not_le.mp hoffset)
  | turn chaining =>
    change Effect exchange _
      (ExchangeCall.errorOf (ExchangeCall.failing (exchange.turn chaining)).1)
      (ExchangeCall.failing (exchange.turn chaining)).2
    unfold turn
    by_cases hready : exchange.isReady = true
    · rw [if_pos hready]
      exact .turned hready
    · rw [if_neg hready]
      exact .failed _ id
  | announce length =>
    change Effect exchange _
      (ExchangeCall.errorOf (ExchangeCall.failing (exchange.announce length)).1)
      (ExchangeCall.failing (exchange.announce length)).2
    unfold announce
    by_cases hphase : exchange.phase ≠ .outgoing
    · rw [if_pos hphase]
      exact .failed _ id
    rw [if_neg hphase]
    by_cases hlong : exchange.maxOutgoing < length
    · rw [if_pos hlong]
      exact .failed _ id
    · rw [if_neg hlong]
      exact .announced (not_not.mp hphase) (Nat.not_lt.mp hlong)
  | send offset length =>
    change Effect exchange _
      (ExchangeCall.errorOf (ExchangeCall.failing (exchange.send offset length)).1)
      (ExchangeCall.failing (exchange.send offset length)).2
    unfold send
    obtain ⟨error, hfails⟩ | ⟨hphase, hbytes, hfits, hsends⟩ :=
      exchange.sendSegment_cases .send exchange.buffer offset length
    · rw [hfails]
      exact .failed _ id
    · rw [hsends]
      refine .sent ⟨[], offset, length, .inl rfl⟩ hphase ?_
      rw [named, hbytes]
      exact hfits
  | sendFrom source offset length =>
    change Effect exchange _
      (ExchangeCall.errorOf (ExchangeCall.failing (exchange.sendFrom source offset length)).1)
      (ExchangeCall.failing (exchange.sendFrom source offset length)).2
    unfold sendFrom
    obtain ⟨error, hfails⟩ | ⟨hphase, hbytes, hfits, hsends⟩ :=
      exchange.sendSegment_cases .sendFrom (.ofList source) offset length
    · rw [hfails]
      exact .failed _ id
    · rw [hsends]
      rw [Runs.toList_ofList] at hbytes ⊢
      refine .sent ⟨source, offset, length, .inr rfl⟩ hphase ?_
      rw [named, hbytes]
      exact hfits
  | announceAndSend offset length => exact announceAndSend_cases hsound offset length
  | poke offset bytes =>
    change Effect exchange _ none (exchange.poke offset bytes)
    unfold poke
    by_cases hfits : offset + bytes.length ≤ exchange.buffer.length
    · rw [if_pos hfits]
      refine .poked (Runs.length_overwrite ?_)
      rw [Runs.length_ofList]
      exact hfits
    · rw [if_neg hfits]
      exact .poked rfl

end Effect

/-! ### What every call keeps -/

/-- No call changes the command. -/
theorem Effect.command_eq {exchange : Exchange} {call : ExchangeCall}
    {failure? : Option CardError} {after : Exchange}
    (heffect : Effect exchange call failure? after) : after.command = exchange.command := by
  cases heffect <;> rfl

/-- An exchange that has just received data has announced nothing. -/
theorem isAnnounced_receiveAt (exchange : Exchange) (offset : Nat) :
    (exchange.receiveAt offset).phase.isAnnounced = false := by
  unfold receiveAt
  dsimp only
  split <;> rfl

namespace IsSound

variable {exchange : Exchange} (hsound : exchange.IsSound)

include hsound

/-- Receiving a piece of data keeps the counts right. -/
theorem receiveAt {offset : Nat} (hoffset : offset ≤ exchange.buffer.length)
    (hsilent : exchange.phase.isAnnounced = false) : (exchange.receiveAt offset).IsSound := by
  have hpiece := exchange.length_nextChunk offset
  have hreceived : (exchange.receiveAt offset).received =
      exchange.received + (exchange.nextChunk offset).length := rfl
  have hphase : (exchange.receiveAt offset).phase =
      if (exchange.receiveAt offset).received = exchange.command.data.length then .fullIncoming
      else .partialIncoming := rfl
  have hle := hsound.received_le
  refine ⟨?_, ?_, ?_, ?_, ?_, fun _ ↦ hsound.silent hsilent, hsound.announced_le,
    hsound.response_le, fun hannounced ↦ ?_⟩
  · rw [length_receiveAt hoffset]
    exact hsound.length_le
  · rw [hreceived]
    change _ ≤ exchange.command.data.length
    omega
  · rw [hphase]
    split <;> exact Phase.noConfusion
  · rw [hphase]
    split
    · exact Phase.noConfusion
    · intro _
      rw [hreceived] at *
      change _ < exchange.command.data.length
      omega
  · rw [hphase]
    split
    case isTrue hall => exact fun _ _ ↦ hall
    case isFalse => exact fun _ hpartial ↦ absurd rfl hpartial
  · rw [isAnnounced_receiveAt] at hannounced
    exact Bool.noConfusion hannounced

/-- Turning to the response keeps the counts right. -/
theorem turned (unchained : Bool) (hready : exchange.isReady = true) :
    ({ exchange with phase := .outgoing, unchained } : Exchange).IsSound := by
  obtain ⟨hreceived, -, hsilent⟩ := hsound.of_isReady hready
  have hnone := hsound.silent hsilent
  refine ⟨hsound.length_le, hsound.received_le, Phase.noConfusion, Phase.noConfusion,
    fun _ _ ↦ hreceived, fun _ ↦ hnone, ?_, hsound.response_le, Bool.noConfusion⟩
  dsimp only
  rw [hnone]
  exact Nat.zero_le _

/-- What a call does to a sound exchange leaves it sound. -/
theorem of_effect {call : ExchangeCall} {failure? : Option CardError} {after : Exchange}
    (heffect : Effect exchange call failure? after) : after.IsSound := by
  cases heffect with
  | failed | looked => exact hsound
  | overreached hoverreaches => exact hsound.turned exchange.unchained hoverreaches.1
  | received hphase =>
    have hoffset := Nat.lt_of_lt_of_le (dataOffset_lt exchange.command) hsound.length_le
    refine hsound.receiveAt (Nat.le_of_lt hoffset) ?_
    rw [hphase]
    rfl
  | receivedMore hphase hoffset =>
    refine hsound.receiveAt (Nat.le_of_lt hoffset) ?_
    rw [hphase]
    rfl
  | turned hready => exact hsound.turned _ hready
  | @announced length hphase hlength =>
    have hreceived : exchange.received = exchange.command.data.length := by
      refine hsound.received_of_isOutgoing ?_
      rw [hphase]
      rfl
    have hnone : exchange.response = [] := by
      refine hsound.response_eq_nil ?_
      rw [hphase]
      rfl
    refine ⟨hsound.length_le, hsound.received_le, ?_, ?_, fun _ _ ↦ hreceived, ?_, hlength, ?_, ?_⟩
    all_goals dsimp only
    · split <;> exact Phase.noConfusion
    · split <;> exact Phase.noConfusion
    · split <;> exact Bool.noConfusion
    · rw [hnone]
      exact Nat.zero_le _
    · rw [hnone, List.length_nil]
      split
      case isTrue hzero => exact fun _ ↦ ⟨fun _ ↦ hzero.symm, fun _ ↦ rfl⟩
      case isFalse hzero => exact fun _ ↦ ⟨Phase.noConfusion, fun heq ↦ absurd heq.symm hzero⟩
  | sent _ hphase hlength =>
    have hreceived := hsound.received_of_isOutgoing
      (Phase.isOutgoing_of_isAnnounced (Phase.isAnnounced_of_isSending hphase))
    refine ⟨hsound.length_le, hsound.received_le, ?_, ?_, fun _ _ ↦ hreceived, ?_,
      hsound.announced_le, ?_, ?_⟩
    all_goals unfold sending; dsimp only
    · split <;> exact Phase.noConfusion
    · split <;> exact Phase.noConfusion
    · split <;> exact Bool.noConfusion
    · rw [List.length_append]
      exact hlength
    · split
      case isTrue hall => exact fun _ ↦ ⟨fun _ ↦ hall, fun _ ↦ rfl⟩
      case isFalse hall => exact fun _ ↦ ⟨Phase.noConfusion, fun heq ↦ absurd heq hall⟩
  | answered hready hlength hnamed =>
    obtain ⟨hreceived, -, -⟩ := hsound.of_isReady hready
    exact ⟨hsound.length_le, hsound.received_le, Phase.noConfusion, Phase.noConfusion,
      fun _ _ ↦ hreceived, Bool.noConfusion, hlength, Nat.le_of_eq hnamed,
      fun _ ↦ ⟨fun _ ↦ hnamed, fun _ ↦ rfl⟩⟩
  | poked hbuffer =>
    refine ⟨?_, hsound.received_le, hsound.fresh, hsound.missing, hsound.complete, hsound.silent,
      hsound.announced_le, hsound.response_le, hsound.full_iff⟩
    dsimp only
    rw [hbuffer]
    exact hsound.length_le

/-- Every call leaves a sound exchange sound. -/
theorem next (call : ExchangeCall) : (exchange.next call).IsSound :=
  hsound.of_effect (effect_answer hsound call)

end IsSound

/-- So does every run of calls. -/
theorem isSound_foldl {exchange : Exchange} (hsound : exchange.IsSound)
    (calls : List ExchangeCall) : (calls.foldl Exchange.next exchange).IsSound := by
  induction calls generalizing exchange with
  | nil => exact hsound
  | cons call rest ih => exact ih (hsound.next call)

/-- Whatever calls lead to is sound. -/
theorem isSound_reached (command : Command) (bufferSize : Nat) (selecting : Bool)
    (calls : List ExchangeCall) : (reached command bufferSize selecting calls).IsSound :=
  isSound_foldl (isSound_start command bufferSize selecting) calls

end Exchange

end SmartCard
