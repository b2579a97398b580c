import SmartCard.Proofs.Applet.Transaction

/-!
# Receiving the data of a command

The buffer of an exchange may be smaller than the data of the command, so code receives them piece
by piece. Every piece has at least one byte as long as data are missing, for the buffer always
reaches beyond the place where data go. So `Code.receiveAll` gives the data of the command, all and
in order, whatever the size of the buffer; it touches nothing but the exchange, and an exchange that
ends after it has an empty response (`Session.handle_receiveAll`).
-/

set_option autoImplicit false
set_option relaxedAutoImplicit false

namespace SmartCard

variable {σ α β : Type}

/-! ### Running code that processes a command -/

/-- Code that makes no call on the exchange leaves it as it is. -/
theorem Program.run_extend (program : Program (services σ) α) (session : Session σ)
    (exchange : Exchange) :
    (program.extend : Program (processCalls σ) α).run Session.answerProcess (session, exchange) =
      ((program.run Session.answer session).1, (program.run Session.answer session).2,
        exchange) := by
  induction program generalizing session with
  | done value => rfl
  | crash text => rfl
  | call service next ih =>
    have hhandle : Session.answerProcess (.inl service) (session, exchange) =
        ((Session.answer service session).1, (Session.answer service session).2, exchange) := rfl
    rw [extend, run.eq_def, run]
    dsimp only
    rw [hhandle]
    generalize Session.answer service session = outcome
    obtain ⟨answer | text, after⟩ := outcome
    · exact ih answer after
    · rfl

namespace Session

variable {session after : Session σ} {exchange left : Exchange}

/-- Runs the code that processes a command in a session. -/
def handle (session : Session σ) (exchange : Exchange) (code : Handler σ α) :
    Ending (Except CardError α) × Session σ × Exchange :=
  code.run.run answerProcess (session, exchange)

/-- Code that comes after other code runs if that succeeds. -/
theorem handle_bind {code : Handler σ α} {value : α}
    (hcode : session.handle exchange code = (.value (.ok value), after, left))
    (next : α → Handler σ β) :
    session.handle exchange (code >>= next) = after.handle left (next value) := by
  change Program.run answerProcess (Program.bind code.run (ExceptT.bindCont next)) _ = _
  unfold handle at hcode
  rw [Program.run_bind, hcode]
  rfl

/-- Code that fails ends the code that it is part of. -/
theorem handle_bind_of_error {code : Handler σ α} {error : CardError}
    (hcode : session.handle exchange code = (.value (.error error), after, left))
    (next : α → Handler σ β) :
    session.handle exchange (code >>= next) = (.value (.error error), after, left) := by
  change Program.run answerProcess (Program.bind code.run (ExceptT.bindCont next)) _ = _
  unfold handle at hcode
  rw [Program.run_bind, hcode]
  rfl

/-- What code keeps of a session, followed by code that keeps it. -/
theorem preserves_bind {property : Session σ → Prop} {code : Handler σ α}
    {next : α → Handler σ β} (hcode : property (session.handle exchange code).2.1)
    (hnext : ∀ value after left, property after →
      property (after.handle left (next value)).2.1) :
    property (session.handle exchange (code >>= next)).2.1 := by
  change property (Program.run answerProcess (Program.bind code.run (ExceptT.bindCont next)) _).2.1
  unfold handle at hcode
  rw [Program.run_bind]
  generalize Program.run answerProcess code.run (session, exchange) = outcome at hcode
  obtain ⟨(error | value) | text, after, left⟩ := outcome
  · exact hcode
  · exact hnext value after left hcode
  · exact hcode

/-- Code that keeps the session, followed by code that keeps it. -/
theorem keeps_bind {code : Handler σ α} {next : α → Handler σ β}
    (hcode : (session.handle exchange code).2.1 = session)
    (hnext : ∀ value left, (session.handle left (next value)).2.1 = session) :
    (session.handle exchange (code >>= next)).2.1 = session :=
  preserves_bind hcode fun value after left (hsame : after = session) ↦
    (congrArg (fun kept : Session σ ↦ (kept.handle left (next value)).2.1) hsame).trans
      (hnext value left)

/-- A response is no matter of the session. -/
theorem keeps_respond (session : Session σ) (exchange : Exchange) (bytes : List UInt8) :
    (session.handle exchange (Code.respond bytes)).2.1 = session := by
  refine keeps_bind rfl fun _ left ↦ keeps_bind rfl fun _ left ↦ ?_
  split <;> rfl

/-- Code with the card's services leaves the exchange as it is. -/
theorem handle_lift (session : Session σ) (exchange : Exchange) (code : Hook σ α) :
    session.handle exchange (Code.lift code) =
      ((session.play code).1, (session.play code).2, exchange) :=
  code.run.run_extend session exchange

end Session

/-! ### Pieces of data -/

namespace Exchange

variable {exchange : Exchange} {offset : Nat}

/-- The header and the length bytes fit into the smallest buffer. -/
theorem length_start (command : Command) (bufferSize : Nat) (selecting : Bool) :
    minBufferSize ≤ (start command bufferSize selecting).buffer.length := by
  have hfield : command.lengthField.length ≤ 3 := by
    unfold Command.lengthField
    split
    · exact Nat.le_refl _
    · split
      · cases command.expected <;> simp
      · simp
  have hblank : (Runs.replicate (max bufferSize minBufferSize) (0 : UInt8)).length =
      max bufferSize minBufferSize := by
    rw [← Runs.length_toList, Runs.toList_replicate, List.length_replicate]
  have hmax : minBufferSize ≤ max bufferSize minBufferSize := Nat.le_max_right _ _
  have hprefix : (command.header ++ command.lengthField).length ≤ minBufferSize := by
    rw [List.length_append]
    exact Nat.le_trans (Nat.add_le_add_left hfield 4) (by decide)
  change _ ≤ (Runs.overwrite _ 0 _).length
  rw [Runs.length_overwrite, hblank]
  · exact hmax
  · rw [hblank, Runs.length_ofList, Nat.zero_add]
    exact Nat.le_trans hprefix hmax

/-- A piece is as long as the data missing and the place in the buffer allow. -/
theorem length_nextChunk (exchange : Exchange) (offset : Nat) :
    (exchange.nextChunk offset).length =
      min (exchange.command.data.length - exchange.received)
        (exchange.buffer.length - offset) := by
  rw [nextChunk, segment, List.length_take, List.length_drop]
  omega

theorem length_receiveAt (hoffset : offset ≤ exchange.buffer.length) :
    (exchange.receiveAt offset).buffer.length = exchange.buffer.length := by
  refine Runs.length_overwrite ?_
  rw [Runs.length_ofList, length_nextChunk]
  omega

/-- The piece received stands in the buffer. -/
theorem segment_receiveAt (hoffset : offset ≤ exchange.buffer.length) :
    ((exchange.receiveAt offset).buffer.segment offset
      (exchange.nextChunk offset).length).toList = exchange.nextChunk offset := by
  unfold receiveAt
  dsimp only
  rw [Runs.toList_segment, Runs.toList_overwrite, Runs.toList_ofList]
  refine segment_overwrite ?_
  rw [Runs.length_toList, length_nextChunk]
  omega

/-- A piece continues the data received before. -/
theorem take_append_nextChunk (exchange : Exchange) (offset : Nat) :
    exchange.command.data.take exchange.received ++ exchange.nextChunk offset =
      exchange.command.data.take (exchange.receiveAt offset).received := by
  rw [receiveAt]
  dsimp only
  rw [length_nextChunk, nextChunk, segment, ← List.take_add]

/-- Whether an exchange is on its way to have received the data of a command. -/
structure Receiving (exchange : Exchange) (command : Command) : Prop where
  command_eq : exchange.command = command
  length_le : minBufferSize ≤ exchange.buffer.length
  received_le : exchange.received ≤ command.data.length
  response_eq : exchange.response = []
  chained : exchange.unchained = false
  phase_eq : exchange.phase =
    if exchange.received = command.data.length then .fullIncoming else .partialIncoming

/-- Data go where the buffer has room. -/
theorem dataOffset_lt (command : Command) : command.dataOffset < minBufferSize := by
  unfold Command.dataOffset
  split <;> decide

theorem receiving_receiveAt (hlength : minBufferSize ≤ exchange.buffer.length)
    (hreceived : exchange.received ≤ exchange.command.data.length)
    (hresponse : exchange.response = []) (hchained : exchange.unchained = false) :
    (exchange.receiveAt exchange.command.dataOffset).Receiving exchange.command := by
  have hoffset : exchange.command.dataOffset ≤ exchange.buffer.length :=
    Nat.le_of_lt (Nat.lt_of_lt_of_le (dataOffset_lt exchange.command) hlength)
  constructor
  · rfl
  · rw [length_receiveAt hoffset]
    exact hlength
  · change exchange.received + _ ≤ _
    rw [length_nextChunk]
    omega
  · exact hresponse
  · exact hchained
  · rfl

/-- An exchange that has received data has nothing to answer yet. -/
theorem Receiving.finish_eq {command : Command} (hreceiving : exchange.Receiving command) :
    exchange.finish = .ok [] := by
  unfold finish
  rw [hreceiving.phase_eq, hreceiving.response_eq]
  by_cases hall : exchange.received = command.data.length
  · rw [if_pos hall]
  · rw [if_neg hall]

end Exchange

/-! ### All data -/

namespace Session

variable {exchange : Exchange} {command : Command}

/-- What the code that collects data has found so far continues to all data, in the same way for
every number of calls that is large enough. -/
theorem handle_collect (session : Session σ) (hreceiving : exchange.Receiving command)
    {chunk : Nat} {collected : List UInt8}
    (hcollected : collected ++ (exchange.buffer.segment command.dataOffset chunk).toList =
      command.data.take exchange.received) :
    ∃ left : Exchange, left.Receiving command ∧ left.received = command.data.length ∧
      ∀ calls, command.data.length - exchange.received ≤ calls →
        session.handle exchange (Code.collect command.dataOffset calls chunk collected) =
          (.value (.ok command.data), session, left) := by
  -- every piece has at least one byte, so the bytes that are missing become fewer
  induction hmissing : command.data.length - exchange.received using Nat.strong_induction_on
    generalizing exchange chunk collected with | _ missing ih =>
  have hlook : session.handle exchange (Code.look : Handler σ Exchange) =
      (.value (.ok exchange), session, exchange) := rfl
  have hcommand := hreceiving.command_eq
  have hreceived := hreceiving.received_le
  by_cases hall : exchange.received = command.data.length
  · refine ⟨exchange, hreceiving, hall, fun calls _ ↦ ?_⟩
    rw [Code.collect, handle_bind hlook]
    dsimp only
    rw [hcollected, hcommand, hall, List.take_length, if_pos (Nat.le_refl _)]
    rfl
  subst hcommand
  have hoffset := Exchange.dataOffset_lt exchange.command
  have hlength := hreceiving.length_le
  have hphase : exchange.phase = .partialIncoming := by
    rw [hreceiving.phase_eq, if_neg hall]
  have hreceive : exchange.receiveMore exchange.command.dataOffset =
      (.ok (exchange.nextChunk exchange.command.dataOffset).length,
        exchange.receiveAt exchange.command.dataOffset) := by
    unfold Exchange.receiveMore
    rw [if_neg (not_not.mpr hphase), if_neg (by omega)]
  have hmore : session.handle exchange
      (Code.receiveMore exchange.command.dataOffset : Handler σ Nat) =
      (.value (.ok (exchange.nextChunk exchange.command.dataOffset).length), session,
        exchange.receiveAt exchange.command.dataOffset) := by
    change (Ending.value (ExchangeCall.failing (exchange.receiveMore _)).1, session,
      (ExchangeCall.failing (exchange.receiveMore _)).2) = _
    rw [hreceive]
    rfl
  have hnext := Exchange.receiving_receiveAt hlength hreceived hreceiving.response_eq
    hreceiving.chained
  have hgrows : (exchange.receiveAt exchange.command.dataOffset).received =
      exchange.received + (exchange.nextChunk exchange.command.dataOffset).length := rfl
  have hpiece := exchange.length_nextChunk exchange.command.dataOffset
  have hfound : exchange.command.data.take exchange.received ++
      ((exchange.receiveAt exchange.command.dataOffset).buffer.segment
        exchange.command.dataOffset
        (exchange.nextChunk exchange.command.dataOffset).length).toList =
      exchange.command.data.take (exchange.receiveAt exchange.command.dataOffset).received := by
    rw [Exchange.segment_receiveAt (by omega), Exchange.take_append_nextChunk]
  obtain ⟨left, hleft, hcomplete, hcollects⟩ := ih _ (by omega) hnext hfound rfl
  refine ⟨left, hleft, hcomplete, fun calls hcalls ↦ ?_⟩
  obtain ⟨calls, rfl⟩ := Nat.exists_eq_add_one_of_ne_zero (n := calls) (by omega)
  rw [Code.collect, handle_bind hlook]
  dsimp only
  rw [hcollected, if_neg (by rw [List.length_take]; omega), handle_bind hmore]
  exact hcollects calls (by omega)

/-- All data of a command are received, whatever the size of the buffer. The code that collects
them behind the first piece ends by itself: a larger number of calls makes no difference. -/
theorem handle_receiveAll (session : Session σ) (command : Command) (bufferSize : Nat)
    (selecting : Bool) :
    ∃ left : Exchange, left.Receiving command ∧ left.received = command.data.length ∧
      session.handle (Exchange.start command bufferSize selecting) Code.receiveAll =
        (.value (.ok command.data), session, left) ∧
      ∀ calls, command.data.length ≤ calls →
        session.handle (Exchange.start command bufferSize selecting)
            (Code.receive >>= fun chunk ↦ Code.collect command.dataOffset calls chunk []) =
          (.value (.ok command.data), session, left) := by
  set exchange := Exchange.start command bufferSize selecting with hstart
  have hlook : session.handle exchange (Code.look : Handler σ Exchange) =
      (.value (.ok exchange), session, exchange) := rfl
  have hlength := Exchange.length_start command bufferSize selecting
  rw [← hstart] at hlength
  have hoffset := Exchange.dataOffset_lt command
  have hreceive : session.handle exchange (Code.receive : Handler σ Nat) =
      (.value (.ok (exchange.nextChunk command.dataOffset).length), session,
        exchange.receiveAt command.dataOffset) := rfl
  have hreceiving : (exchange.receiveAt command.dataOffset).Receiving command :=
    Exchange.receiving_receiveAt hlength (Nat.zero_le _) rfl rfl
  obtain ⟨left, hleft, hcomplete, hcollects⟩ := @handle_collect σ _ command session hreceiving
    (exchange.nextChunk command.dataOffset).length [] (by
      rw [Exchange.segment_receiveAt (by omega)]
      exact exchange.take_append_nextChunk command.dataOffset)
  have hends : ∀ calls, command.data.length ≤ calls →
      session.handle exchange
          (Code.receive >>= fun chunk ↦ Code.collect command.dataOffset calls chunk []) =
        (.value (.ok command.data), session, left) := fun calls hcalls ↦ by
    rw [handle_bind hreceive]
    exact hcollects calls (Nat.le_trans (Nat.sub_le _ _) hcalls)
  refine ⟨left, hleft, hcomplete, ?_, hends⟩
  unfold Code.receiveAll
  rw [handle_bind hlook]
  exact hends command.data.length (Nat.le_refl _)

end Session

end SmartCard
