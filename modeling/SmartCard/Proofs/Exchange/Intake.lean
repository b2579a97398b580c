import SmartCard.Proofs.Command.Layout
import SmartCard.Proofs.Exchange.Phase

/-!
# Data coming in

A fresh exchange shows the front of the command as it was written: the header and the length bytes
(`Command.Written.take_lead`). The data behind them come into the buffer piece by piece, each as
long as what is missing and the room behind its place allow. What one receiving call does is said
once (`Exchange.Receives`); from this the pieces that calls have brought, in order and whatever else
is called in between, are the data as far as they are received
(`Exchange.IsSound.take_append_flatMap`). So the code that asks for pieces until none is missing
ends, and has the data of the command (`Exchange.data_received_in_order`).
-/

set_option autoImplicit false
set_option relaxedAutoImplicit false

namespace SmartCard

/-! ### The front of a command -/

namespace Command

/-- How many bytes stand in front of the data in a layout: the header and the length bytes. -/
def Layout.lead : Layout → Nat
  | .bare => 4
  | .expecting | .sending | .sendingExpecting => 5
  | .extendedExpecting | .extendedSending | .extendedSendingExpecting => 7

section Written

variable {layout : Layout} {raw : List UInt8} {command : Command}

theorem Written.length_lead (hwritten : Written layout raw command) :
    (command.header ++ command.lengthField).length = layout.lead := by
  cases hwritten with
  | bare | expecting | extendedExpecting => rfl
  | sending _ _ _ _ hdata | sendingExpecting _ _ _ _ hdata | extendedSending _ _ _ _ hdata
  | extendedSendingExpecting _ _ _ _ hdata =>
    simp [header, lengthField, wideBytes, hdata, Layout.lead]

/-- In front of the data stand the header and the length bytes of the command. -/
theorem Written.take_lead (hwritten : Written layout raw command) :
    raw.take layout.lead = command.header ++ command.lengthField := by
  rw [← hwritten.encode_eq, encode, List.take_left' hwritten.length_lead]

/-- Behind these bytes stand the data. -/
theorem Written.segment_lead (hwritten : Written layout raw command) :
    segment layout.lead command.data.length raw = command.data := by
  cases hwritten with
  | bare | expecting | extendedExpecting => rfl
  | sending | extendedSending => simp [segment, Layout.lead]
  | sendingExpecting | extendedSendingExpecting => simp [segment, Layout.lead]

end Written

end Command

/-! ### One receiving call -/

/-- How many bytes of data a call says to have received. -/
def ExchangeCall.countIn : (call : ExchangeCall) → call.Answer → Option Nat
  | .receive, answer => answer.toOption
  | .receiveMore _, answer => answer.toOption
  | _, _ => none

namespace Exchange

/-- Where a call puts data of the command, if it is one that receives them. -/
def place? (exchange : Exchange) : ExchangeCall → Option Nat
  | .receive => some exchange.command.dataOffset
  | .receiveMore offset => some offset
  | _ => none

/-- How many bytes of data a call brings, if it succeeds in receiving them. -/
def count? (exchange : Exchange) (call : ExchangeCall) : Option Nat :=
  call.countIn (call.answer exchange).1

/-- The bytes that stand where a call has put data of the command. -/
def brought (exchange : Exchange) (call : ExchangeCall) : List UInt8 :=
  segment ((exchange.place? call).getD 0) ((exchange.count? call).getD 0)
    (exchange.next call).buffer.toList

/-- What a call does that puts the next `count` bytes of data at `offset`. -/
structure Moves (before : Exchange) (offset count : Nat) (after : Exchange) : Prop where
  count_eq : count =
    min (before.command.data.length - before.received) (before.buffer.length - offset)
  fits : offset + count ≤ before.buffer.length
  inside : segment offset count after.buffer.toList =
    segment before.received count before.command.data
  outside : ∀ position, position < offset ∨ offset + count ≤ position →
    after.buffer.toList[position]? = before.buffer.toList[position]?
  received_eq : after.received = before.received + count
  received_le : after.received ≤ before.command.data.length
  phase_eq : after.phase =
    if after.received = before.command.data.length then .fullIncoming else .partialIncoming
  rest_eq : after = { before with
    buffer := after.buffer, phase := after.phase, received := after.received }

/-- What a call does that asks for data to be put at `offset`: it fails and changes nothing, or it
moves the next bytes, and at least one unless it is the first such call. -/
structure Receives (before : Exchange) (call : ExchangeCall) (offset : Nat) : Prop where
  failed : before.count? call = none → before.next call = before
  succeeded : ∀ count, before.count? call = some count →
    before.Moves offset count (before.next call)
  count_pos : ∀ count, before.count? call = some count → call = .receiveMore offset → 0 < count

section Step

variable {exchange : Exchange}

/-- A call that receives no data leaves those received as they are. -/
theorem Effect.received_eq {call : ExchangeCall} {failure? : Option CardError} {after : Exchange}
    (heffect : Effect exchange call failure? after) (hplace : exchange.place? call = none) :
    after.received = exchange.received := by
  cases heffect with
  | received | receivedMore => exact absurd hplace (Option.some_ne_none _)
  | failed | overreached | looked | turned | announced | sent | answered | poked => rfl

/-- Receiving at a place of the buffer moves as many bytes as there are to move. -/
theorem moves_receiveAt (hreceived : exchange.received ≤ exchange.command.data.length)
    {offset : Nat} (hoffset : offset ≤ exchange.buffer.length) :
    exchange.Moves offset (exchange.nextChunk offset).length (exchange.receiveAt offset) := by
  have hpiece := exchange.length_nextChunk offset
  have hfits : offset + (exchange.nextChunk offset).length ≤ exchange.buffer.length := by omega
  have hlist : (exchange.receiveAt offset).buffer.toList =
      overwrite offset (exchange.nextChunk offset) exchange.buffer.toList := by
    rw [receiveAt]
    dsimp only
    rw [Runs.toList_overwrite, Runs.toList_ofList]
  have hrange : offset + (exchange.nextChunk offset).length ≤ exchange.buffer.toList.length := by
    rw [Runs.length_toList]
    exact hfits
  refine ⟨hpiece, hfits, ?_, fun position hposition ↦ ?_, rfl, ?_, rfl, rfl⟩
  · rw [hlist, segment_overwrite hrange, hpiece]
    rfl
  · rw [hlist, getElem?_overwrite hrange, if_neg (by omega)]
  · change exchange.received + _ ≤ _
    omega

variable (hsound : exchange.IsSound)

include hsound

/-- A receiving call fails and changes nothing, or it receives at its place. -/
theorem IsSound.receiving_cases {call : ExchangeCall} {offset : Nat}
    (hplace : exchange.place? call = some offset) :
    (exchange.count? call = none ∧ exchange.next call = exchange) ∨
      offset < exchange.buffer.length ∧
        (call = .receiveMore offset → exchange.phase = .partialIncoming) ∧
        exchange.count? call = some (exchange.nextChunk offset).length ∧
        exchange.next call = exchange.receiveAt offset := by
  cases call with
  | receive =>
    obtain rfl : exchange.command.dataOffset = offset := Option.some.inj hplace
    have hstart := Nat.lt_of_lt_of_le (dataOffset_lt exchange.command) hsound.length_le
    change ((ExchangeCall.failing exchange.receive).1.toOption = none ∧
      (ExchangeCall.failing exchange.receive).2 = exchange) ∨ _ ∧ _ ∧
      (ExchangeCall.failing exchange.receive).1.toOption = _ ∧
      (ExchangeCall.failing exchange.receive).2 = _
    unfold receive
    by_cases hphase : exchange.phase = .initial
    · rw [if_pos hphase]
      exact .inr ⟨hstart, ExchangeCall.noConfusion, rfl, rfl⟩
    · rw [if_neg hphase]
      exact .inl ⟨rfl, rfl⟩
  | receiveMore place =>
    obtain rfl : place = offset := Option.some.inj hplace
    change ((ExchangeCall.failing (exchange.receiveMore place)).1.toOption = none ∧
      (ExchangeCall.failing (exchange.receiveMore place)).2 = exchange) ∨ _ ∧ _ ∧
      (ExchangeCall.failing (exchange.receiveMore place)).1.toOption = _ ∧
      (ExchangeCall.failing (exchange.receiveMore place)).2 = _
    unfold receiveMore
    by_cases hphase : exchange.phase ≠ .partialIncoming
    · rw [if_pos hphase]
      exact .inl ⟨rfl, rfl⟩
    rw [if_neg hphase]
    by_cases hoffset : exchange.buffer.length ≤ place
    · rw [if_pos hoffset]
      exact .inl ⟨rfl, rfl⟩
    · rw [if_neg hoffset]
      exact .inr ⟨Nat.not_le.mp hoffset, fun _ ↦ not_not.mp hphase, rfl, rfl⟩
  | look | turn | announce | send | sendFrom | announceAndSend | poke =>
    exact absurd hplace.symm (Option.some_ne_none offset)

/-- What a receiving call does. -/
theorem IsSound.receives {call : ExchangeCall} {offset : Nat}
    (hplace : exchange.place? call = some offset) : exchange.Receives call offset := by
  obtain ⟨hcount, hnext⟩ | ⟨hoffset, hphase, hcount, hnext⟩ := hsound.receiving_cases hplace
  · refine ⟨fun _ ↦ hnext, fun count hsome ↦ ?_, fun count hsome ↦ ?_⟩ <;>
    · rw [hcount] at hsome
      exact absurd hsome.symm (Option.some_ne_none count)
  · refine ⟨fun hnone ↦ ?_, fun count hsome ↦ ?_, fun count hsome hmore ↦ ?_⟩
    · rw [hcount] at hnone
      exact absurd hnone (Option.some_ne_none _)
    · obtain rfl := Option.some.inj (hcount.symm.trans hsome)
      rw [hnext]
      exact moves_receiveAt hsound.received_le (Nat.le_of_lt hoffset)
    · obtain rfl := Option.some.inj (hcount.symm.trans hsome)
      have hmissing := hsound.missing (hphase hmore)
      rw [length_nextChunk]
      omega

/-- What a call has brought continues the data received before. -/
theorem IsSound.take_append_brought (call : ExchangeCall) :
    exchange.command.data.take exchange.received ++ exchange.brought call =
      exchange.command.data.take (exchange.next call).received := by
  cases hplace : exchange.place? call with
  | none =>
    have hcount : exchange.count? call = none := by
      cases call with
      | receive | receiveMore => exact absurd hplace (Option.some_ne_none _)
      | _ => rfl
    rw [brought, hcount, (effect_answer hsound call).received_eq hplace]
    exact List.append_nil _
  | some offset =>
    have hreceives := hsound.receives hplace
    rw [brought, hplace]
    cases hcount : exchange.count? call with
    | none =>
      rw [hreceives.failed hcount]
      exact List.append_nil _
    | some count =>
      have hmoves := hreceives.succeeded count hcount
      rw [Option.getD_some, Option.getD_some, hmoves.inside, hmoves.received_eq, segment,
        ← List.take_add]

end Step

/-! ### Many calls -/

/-- What calls have brought continues the data received before. -/
theorem IsSound.take_append_flatMap {exchange : Exchange} (hsound : exchange.IsSound)
    (calls : List ExchangeCall) :
    exchange.command.data.take exchange.received ++
        (exchange.along calls).flatMap (fun step ↦ step.1.brought step.2) =
      exchange.command.data.take (calls.foldl Exchange.next exchange).received := by
  induction calls generalizing exchange with
  | nil => exact List.append_nil _
  | cons call rest ih =>
    rw [along, List.flatMap_cons, ← List.append_assoc, hsound.take_append_brought,
      ← (effect_answer hsound call).command_eq, ih (hsound.next call)]
    rfl

/-- Every exchange that calls come upon is sound. -/
theorem IsSound.of_mem_along {exchange : Exchange} (hsound : exchange.IsSound)
    {calls : List ExchangeCall} {step : Exchange × ExchangeCall}
    (hstep : step ∈ exchange.along calls) : step.1.IsSound := by
  induction calls generalizing exchange with
  | nil => exact absurd hstep List.not_mem_nil
  | cons call rest ih =>
    obtain rfl | hrest := List.mem_cons.mp hstep
    · exact hsound
    · exact ih (hsound.next call) hrest

/-- The buffer of a fresh exchange begins with the front of the command. -/
theorem toList_start (command : Command) (bufferSize : Nat) (selecting : Bool) :
    (start command bufferSize selecting).buffer.toList =
      command.header ++ command.lengthField ++ List.replicate
        (max bufferSize minBufferSize - (command.header ++ command.lengthField).length) 0 := by
  rw [start]
  dsimp only
  rw [Runs.toList_overwrite, Runs.toList_replicate, Runs.toList_ofList, overwrite, List.take_zero,
    List.nil_append, Nat.zero_add, List.drop_replicate]

/-- The buffer of a fresh exchange begins with the header and the length bytes as they were written.
Whatever calls are made, every call that receives data moves the next bytes to its place and touches
no other, and the pieces that stood where they were put are, one after the other, the data as far
as they are received. So the code that receives all data ends, and finds the data that were
written. -/
theorem data_received_in_order {raw : List UInt8} {allowed : Bool} {command : Command}
    (hparse : Command.parse raw allowed = .ok command) (bufferSize : Nat) (selecting : Bool) :
    (∃ layout, Command.Written layout raw command ∧
      (start command bufferSize selecting).buffer.toList = raw.take layout.lead ++
        List.replicate (max bufferSize minBufferSize - layout.lead) 0 ∧
      segment layout.lead command.data.length raw = command.data) ∧
    (∀ calls : List ExchangeCall,
      (∀ step ∈ (start command bufferSize selecting).along calls, ∀ offset,
        step.1.place? step.2 = some offset → step.1.Receives step.2 offset) ∧
      ((start command bufferSize selecting).along calls).flatMap
          (fun step ↦ step.1.brought step.2) =
        command.data.take (reached command bufferSize selecting calls).received) ∧
    ∀ {σ : Type} (session : Session σ), ∃ left : Exchange,
      left.received = command.data.length ∧ left.phase = .fullIncoming ∧
      session.handle (start command bufferSize selecting) Code.receiveAll =
        (.value (.ok command.data), session, left) ∧
      ∀ calls, command.data.length ≤ calls →
        session.handle (start command bufferSize selecting)
            (Code.receive >>= fun chunk ↦ Code.collect command.dataOffset calls chunk []) =
          (.value (.ok command.data), session, left) := by
  have hsound := isSound_start command bufferSize selecting
  refine ⟨?_, fun calls ↦ ⟨fun step hstep offset hplace ↦ ?_, ?_⟩, fun session ↦ ?_⟩
  · obtain ⟨layout, hwritten, -⟩ := Command.written_of_parse hparse
    refine ⟨layout, hwritten, ?_, hwritten.segment_lead⟩
    rw [toList_start, hwritten.take_lead, hwritten.length_lead]
  · exact (hsound.of_mem_along hstep).receives hplace
  · exact hsound.take_append_flatMap calls
  · obtain ⟨left, hleft, hcomplete, hreceived, hends⟩ :=
      session.handle_receiveAll command bufferSize selecting
    refine ⟨left, hcomplete, ?_, hreceived, hends⟩
    rw [hleft.phase_eq, if_pos hcomplete]

/-- The theorem where 256 bytes come through the smallest buffer in three pieces. -/
theorem data_received_in_order_in_threes :
    ∃ command, Command.parse ([0x00, 0x10, 0x00, 0x00, 0x00, 0x01, 0x00] ++
        (List.range 256).map UInt8.ofNat) true = .ok command ∧
      command.data = (List.range 256).map UInt8.ofNat ∧
      ((start command 0 false).along [.receive, .receiveMore 100, .receiveMore 33]).flatMap
        (fun step ↦ step.1.brought step.2) = command.data := by
  have hparse : Command.parse ([0x00, 0x10, 0x00, 0x00, 0x00, 0x01, 0x00] ++
      (List.range 256).map UInt8.ofNat) true =
      .ok ⟨0x00, 0x10, 0x00, 0x00, (List.range 256).map UInt8.ofNat, none, true⟩ := by
    decide +kernel
  obtain ⟨-, hcalls, -⟩ := data_received_in_order hparse 0 false
  refine ⟨_, hparse, rfl, (hcalls _).2.trans (List.take_of_length_le ?_)⟩
  decide +kernel

end Exchange

end SmartCard
