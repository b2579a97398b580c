import SmartCard.Proofs.Applet.Receiving

/-!
# Answering a command

Code may answer once it has received all data of the command, or at once if there are none
(`Exchange.Awaits`). What it then sends as its whole response is what the exchange ends with, as
long as it is no longer than the longest response to a short command (`Session.handle_respond`).
Code that answers before it has received the data fails (`Session.handle_respond_of_pending`).
-/

set_option autoImplicit false
set_option relaxedAutoImplicit false

namespace SmartCard

variable {σ : Type} {exchange : Exchange} {command : Command}

namespace Exchange

/-- Whether an exchange awaits the response: all data are received, and nothing is sent yet. -/
structure Awaits (exchange : Exchange) : Prop where
  isReady : exchange.isReady = true
  response_eq : exchange.response = []
  chained : exchange.unchained = false

/-- Without data an exchange awaits the response from the start. -/
theorem awaits_start (hempty : command.data = []) (bufferSize : Nat) (selecting : Bool) :
    (start command bufferSize selecting).Awaits where
  isReady := List.isEmpty_iff.mpr hempty
  response_eq := rfl
  chained := rfl

/-- With data it does when all of them are received. -/
theorem Receiving.awaits (hreceiving : exchange.Receiving command)
    (hall : exchange.received = command.data.length) : exchange.Awaits where
  isReady := by
    rw [Exchange.isReady, hreceiving.phase_eq, if_pos hall]
  response_eq := hreceiving.response_eq
  chained := hreceiving.chained

/-- The length of a response that answers a short command may be announced for any command. -/
theorem maxShortOutgoing_le (hchained : exchange.unchained = false) :
    maxShortOutgoing ≤ exchange.maxOutgoing := by
  unfold maxOutgoing
  rw [hchained, if_neg Bool.false_ne_true]
  split <;> decide

/-- The whole response may be sent at once when its length has been announced. -/
theorem sendFrom_all {bytes : List UInt8} (hphase : exchange.phase = .outgoingLengthKnown)
    (hresponse : exchange.response = []) (hannounced : exchange.announced = bytes.length) :
    exchange.sendFrom bytes 0 bytes.length =
      (.ok (), { exchange with response := bytes, phase := .fullOutgoing }) := by
  have hwhole : ((Runs.ofList bytes).segment 0 bytes.length).toList = bytes := by
    rw [Runs.toList_segment, Runs.toList_ofList]
    exact List.take_length
  rw [sendFrom, sendSegment, hphase, hresponse, hwhole, hannounced, Runs.length_ofList,
    if_neg (by decide), if_neg (by omega), if_neg (by simp), List.nil_append]
  dsimp only
  rw [if_pos rfl]

end Exchange

/-- An exchange that awaits the response ends with the one that code sends. -/
theorem Session.handle_respond (session : Session σ) (hawaits : exchange.Awaits)
    {bytes : List UInt8} (hlength : bytes.length ≤ Exchange.maxShortOutgoing) :
    ∃ left : Exchange, session.handle exchange (Code.respond bytes) =
      (.value (.ok ()), session, left) ∧ left.finish = .ok bytes := by
  set turned := { exchange with phase := .outgoing, unchained := exchange.unchained || !true }
    with hturned
  have hturn : session.handle exchange (Code.turn true : Handler σ Nat) =
      (.value (.ok exchange.command.accepted), session, turned) := by
    change (Ending.value (ExchangeCall.failing (exchange.turn true)).1, session,
      (ExchangeCall.failing (exchange.turn true)).2) = _
    rw [Exchange.turn, if_pos hawaits.isReady]
    rfl
  have hroom : ¬ turned.maxOutgoing < bytes.length := by
    refine Nat.not_lt.mpr (Nat.le_trans hlength (Exchange.maxShortOutgoing_le ?_))
    rw [hturned, hawaits.chained]
    rfl
  set announced := { turned with
    announced := bytes.length
    phase := if bytes.length = 0 then .fullOutgoing else .outgoingLengthKnown } with hannounced
  have hannounce : session.handle turned (Code.announce bytes.length : Handler σ Unit) =
      (.value (.ok ()), session, announced) := by
    change (Ending.value (ExchangeCall.failing (turned.announce bytes.length)).1, session,
      (ExchangeCall.failing (turned.announce bytes.length)).2) = _
    rw [Exchange.announce, if_neg (not_not.mpr rfl), if_neg hroom]
    rfl
  unfold Code.respond
  rw [handle_bind hturn, handle_bind hannounce]
  cases bytes with
  | nil =>
    refine ⟨announced, rfl, ?_⟩
    have hresponse : announced.response = [] := hawaits.response_eq
    have hphase : announced.phase = .fullOutgoing := rfl
    rw [Exchange.finish, hphase, hresponse]
  | cons byte rest =>
    have hsend : session.handle announced
        (Code.sendFrom (byte :: rest) 0 (byte :: rest).length : Handler σ Unit) =
        (.value (.ok ()), session,
          { announced with response := byte :: rest, phase := .fullOutgoing }) := by
      change (Ending.value (ExchangeCall.failing
          (announced.sendFrom (byte :: rest) 0 (byte :: rest).length)).1, session,
        (ExchangeCall.failing (announced.sendFrom (byte :: rest) 0 (byte :: rest).length)).2) = _
      rw [@Exchange.sendFrom_all announced (byte :: rest) rfl hawaits.response_eq rfl]
      rfl
    exact ⟨_, hsend, rfl⟩

/-- While data wait to be received nothing can be sent. -/
theorem Session.handle_respond_of_pending (session : Session σ) (hdata : command.data ≠ [])
    (bufferSize : Nat) (bytes : List UInt8) :
    ∃ error left, error.statusWord = .unknown ∧
      session.handle (Exchange.start command bufferSize false) (Code.respond bytes) =
        (.value (.error error), session, left) := by
  set started := Exchange.start command bufferSize false
  have hpending : started.isReady = false :=
    Bool.eq_false_iff.mpr fun hready ↦ hdata (List.isEmpty_iff.mp hready)
  have hturn : session.handle started (Code.turn true : Handler σ Nat) =
      (.value (.error (.exchange (started.illegal .turn))), session, started) := by
    change (Ending.value (ExchangeCall.failing (started.turn true)).1, session,
      (ExchangeCall.failing (started.turn true)).2) = _
    rw [Exchange.turn, hpending, if_neg Bool.false_ne_true, if_pos rfl]
    rfl
  exact ⟨_, _, rfl, handle_bind_of_error hturn _⟩

end SmartCard
