import SmartCard.Proofs.Card.Reception
import SmartCard.Proofs.Exchange.Outgoing

/-!
# Responses that may not be chained

The code that processes a command calls on its exchange in between the services that it asks for.
Its exchange recounts these calls (`Program.recounts_run`), so that what holds after any calls holds
when the code is done. If one of the calls has forbidden chaining, the response is no longer than
its sender accepts: it is answered whole or not at all, and nothing is left to wait on the channel
(`Card.responses_accounted`).
-/

set_option autoImplicit false
set_option relaxedAutoImplicit false

namespace SmartCard

variable {σ : Type}

/-! ### The calls of code on its exchange -/

/-- The call on the exchange, if a call of the code that processes a command is one, with the
exchange before it. -/
def Exchange.call? : (Session σ × Exchange) × (processCalls σ).Call →
    Option (Exchange × ExchangeCall)
  | (_, .inl _) => none
  | ((_, exchange), .inr call) => some (exchange, call)

/-- The exchange of the code that processes a command recounts the calls of the code. -/
theorem Program.recounts_run {α : Type} (program : Program (processCalls σ) α)
    (session : Session σ) {command : Command} {exchange : Exchange}
    {history : List (Exchange × ExchangeCall)} (hrecounts : exchange.Recounts command history) :
    (program.run Session.answerProcess (session, exchange)).2.2.Recounts command
      (history ++
        (program.calls Session.answerProcess (session, exchange)).filterMap Exchange.call?) := by
  refine @Program.calls_induction (processCalls σ) (Session σ × Exchange) _ Session.answerProcess
    (fun made state ↦ state.2.Recounts command (history ++ made.filterMap Exchange.call?))
    (fun made request state hmade ↦ ?_) program [] (session, exchange) ?_
  · rw [List.filterMap_append, ← List.append_assoc]
    cases request with
    | inl service => exact (List.append_nil _).symm ▸ hmade
    | inr call => exact hmade.next call
  · exact (List.append_nil history).symm ▸ hrecounts

namespace Card

/-- The calls that the applet in a context makes on the exchange of a command, each with the
exchange before it. -/
def exchangeSteps (card : Card σ) (context : ContextId) (command : Command) (selecting : Bool) :
    List (Exchange × ExchangeCall) :=
  match card.registry.inContext? context with
  | none => []
  | some entry =>
    (entry.applet.process.run.calls Session.answerProcess
      (⟨⟨context, command.channel, selecting⟩, card.platform, card.host, none⟩,
        Exchange.start command card.config.bufferSize selecting)).filterMap Exchange.call?

variable {card : Card σ}

/-- The output of an applet is the response of an exchange after the applet's calls. -/
theorem exists_of_output? {context : ContextId} {command : Command} {selecting : Bool}
    {output : List UInt8} (houtput : card.output? context command selecting = some output) :
    ∃ left : Exchange,
      left.IsAccounted command (card.exchangeSteps context command selecting) ∧
      left.finish = .ok output := by
  unfold output? at houtput
  unfold exchangeSteps
  cases hfound : card.registry.inContext? context with
  | none =>
    rw [hfound] at houtput
    exact absurd houtput.symm (Option.some_ne_none output)
  | some entry =>
    rw [hfound] at houtput
    dsimp only at houtput ⊢
    have hrecounts := entry.applet.process.run.recounts_run
      ⟨⟨context, command.channel, selecting⟩, card.platform, card.host, none⟩
      (Exchange.recounts_start command card.config.bufferSize selecting)
    rw [List.nil_append] at hrecounts
    generalize Program.run Session.answerProcess entry.applet.process.run _ = ran
      at houtput hrecounts
    obtain ⟨ending, session, left⟩ := ran
    refine ⟨left, hrecounts.isAccounted, ?_⟩
    dsimp only at houtput
    cases hdone : outcome ending with
    | error error =>
      rw [hdone] at houtput
      exact absurd houtput.symm (Option.some_ne_none output)
    | ok done =>
      rw [hdone] at houtput
      dsimp only at houtput
      cases hfinish : left.finish with
      | error error =>
        rw [hfinish] at houtput
        exact absurd houtput.symm (Option.some_ne_none output)
      | ok sent =>
        rw [hfinish] at houtput
        exact congrArg Except.ok (Option.some.inj houtput)

/-- The output of an applet is all that its calls have sent, and it is no longer than the sender
accepts if one of them has forbidden chaining. -/
theorem output?_accounted {context : ContextId} {command : Command} {selecting : Bool}
    {output : List UInt8} (houtput : card.output? context command selecting = some output) :
    output = (card.exchangeSteps context command selecting).flatMap
        (fun step ↦ step.1.sent step.2) ∧
      ((∃ step ∈ card.exchangeSteps context command selecting, step.1.unchains step.2 = true) →
        output.length ≤ command.accepted) := by
  obtain ⟨left, haccounted, hfinish⟩ := exists_of_output? houtput
  have hresponse : left.response = output := by
    rw [haccounted.finish_eq] at hfinish
    split at hfinish
    · cases hfinish
    · exact Except.ok.inj hfinish
  rw [← hresponse]
  exact ⟨haccounted.response_eq, fun hunchains ↦
    Nat.le_trans haccounted.response_le (haccounted.accepted_le hunchains)⟩

/-- A command that an applet fails to handle is answered with a word, and nothing waits. -/
theorem transmit_of_output_eq_none {raw : List UInt8} {command : Command} {context : ContextId}
    {selecting : Bool} {routed : Card σ}
    (hparse : Command.parse raw card.config.extendedLength = .ok command)
    (hroute : card.route command = (.ok (.handled context selecting), routed))
    (houtput : routed.output? context command selecting = none) :
    (∃ word : StatusWord, (card.transmit raw).1 = word.toBytes) ∧
      (card.transmit raw).2.channels.pending command.channel = [] := by
  obtain ⟨-, -, hpending⟩ := route_handled hroute
  obtain ⟨⟨word, herror⟩, hchannels⟩ := routed.process_of_output_eq_none houtput
  have hdispatch : card.dispatch command =
      routed.process command.channel context command selecting := by
    rw [dispatch, hroute]
  rw [transmit_of_parse hparse, hdispatch, herror, hchannels]
  exact ⟨⟨word, rfl⟩, hpending⟩

/-- After any calls on the exchange of a command, failing ones and edits of the buffer among them,
its response is all that the calls have sent, as the bytes stood when they were sent; it is within
the length announced and that length within its limits; what is sent in full or has turned stays
so; and the exchange ends with its response unless bytes announced are owed. A command to an applet
that forbids chaining is therefore answered whole or with a bare word, and nothing waits on its
channel. -/
theorem responses_accounted :
    (∀ (command : Command) (bufferSize : Nat) (selecting : Bool) (calls : List ExchangeCall),
      (Exchange.reached command bufferSize selecting calls).IsAccounted command
        ((Exchange.start command bufferSize selecting).along calls)) ∧
    ∀ {σ : Type} {card routed : Card σ} {raw : List UInt8} {command : Command}
      {context : ContextId} {selecting : Bool},
      Command.parse raw card.config.extendedLength = .ok command →
      card.route command = (.ok (.handled context selecting), routed) →
      (∃ step ∈ routed.exchangeSteps context command selecting,
        step.1.unchains step.2 = true) →
      (card.transmit raw).2.channels.pending command.channel = [] ∧
        ((∃ word : StatusWord, (card.transmit raw).1 = word.toBytes) ∨
          (card.transmit raw).1 =
            (routed.exchangeSteps context command selecting).flatMap
              (fun step ↦ step.1.sent step.2) ++ StatusWord.noError.toBytes) := by
  refine ⟨fun command bufferSize selecting calls ↦ ?_,
    @fun σ card routed raw command context selecting hparse hroute hunchains ↦ ?_⟩
  · exact ((Exchange.recounts_start command bufferSize selecting).foldl calls).isAccounted
  cases houtput : routed.output? context command selecting with
  | none =>
    obtain ⟨hword, hpending⟩ := transmit_of_output_eq_none hparse hroute houtput
    exact ⟨hpending, .inl hword⟩
  | some output =>
    obtain ⟨hsent, hfits⟩ := output?_accounted houtput
    obtain ⟨hreply, -, hpending⟩ := transmit_of_handled hparse hroute houtput
    refine ⟨hpending.trans (List.drop_eq_nil_of_le (hfits hunchains)), .inr ?_⟩
    rw [hreply, replyTo, if_neg (Nat.not_lt.mpr (hfits hunchains)), ← hsent]

/-- A command to an applet that forbids chaining, tries to announce more than the sender accepts,
and then sends as much as it does accept. -/
theorem responses_accounted_unchained :
    let config : Config := { atr := "3B" }
    let powered : Card Unit := {
      config := config
      atr := [0x3B]
      platform := ⟨.empty config.quotas config.commitCapacity, .initial⟩
      registry := .empty config.maxApplets
      channels := .initial config.logicalChannels
      host := () }
    let aid : Aid := ⟨[0xA0, 0, 0, 0, 1], by decide, by decide⟩
    let factory : Factory Unit := fun _ ↦ do
      Code.register
      return { process := do
        let accepted ← Code.turn false
        tryCatch (Code.announce (accepted + 1)) fun _ ↦ Code.announce accepted
        Code.sendFrom [1, 2, 3] 0 accepted }
    let card := (powered.next (.install aid [] factory)).next (.select aid 0)
    let command : Command := ⟨0, 0x10, 0, 0, [], some 2, false⟩
    let raw : List UInt8 := [0, 0x10, 0, 0, 2]
    Command.parse raw card.config.extendedLength = .ok command ∧
      (card.transmit raw).1 = [1, 2, 0x90, 0x00] ∧
      (card.transmit raw).2.channels.pending command.channel = [] := by
  intro config powered aid factory card command raw
  have hparse : Command.parse raw card.config.extendedLength = .ok command := by decide +kernel
  have hroute : card.route command = (.ok (.handled ⟨1⟩ false), (card.route command).2) :=
    Prod.ext (by decide +kernel) rfl
  have hunchains : ∃ step ∈ (card.route command).2.exchangeSteps ⟨1⟩ command false,
      step.1.unchains step.2 = true := by
    decide +kernel
  exact ⟨hparse, by decide +kernel, (responses_accounted.2 hparse hroute hunchains).1⟩

end Card

end SmartCard
