import SmartCard.Proofs.Card.Stage

/-!
# Bytes that wait on a channel

What an operation does to a channel is one of three things (`Card.Treatment`): it leaves the channel
alone, it opens it, or it leaves it closed. Only a reset, a command on the channel and a call by
which the host takes the applet off it do anything else (`Card.treatment_next`), and the last of
these moves no bytes.

A command that reaches its channel takes the bytes. If it fetches them, what it does not accept goes
on waiting (`Card.transmit_of_fetches`). If an applet handles the command, it is the applet selected
on the channel (`Card.route_handled`), and what waits afterwards is what is not accepted of its
output (`Card.process_of_output`).
-/

set_option autoImplicit false
set_option relaxedAutoImplicit false

namespace SmartCard.Card

variable {σ : Type}

/-! ### What an operation does to a channel -/

/-- Whether an operation is a command on a channel that the card reads and does not turn away for
its class. -/
def isCommandOn (card : Card σ) (channel : Nat) : Operation σ → Bool
  | .transmit raw => (Command.parse raw card.config.extendedLength).toOption.any fun command ↦
      command.classByte != invalidClass && command.channel == channel
  | _ => false

theorem exists_of_isCommandOn {card : Card σ} {channel : Nat} {operation : Operation σ}
    (hcommand : card.isCommandOn channel operation = true) :
    ∃ raw command, operation = .transmit raw ∧
      Command.parse raw card.config.extendedLength = .ok command ∧
      command.classByte ≠ invalidClass ∧ command.channel = channel := by
  cases operation with
  | transmit raw =>
    rw [isCommandOn] at hcommand
    cases hparse : Command.parse raw card.config.extendedLength with
    | error word =>
      rw [hparse] at hcommand
      exact nomatch hcommand
    | ok command =>
      rw [hparse] at hcommand
      have hreaches : (command.classByte != invalidClass && command.channel == channel) = true :=
        hcommand
      rw [Bool.and_eq_true, bne_iff_ne, beq_iff_eq] at hreaches
      exact ⟨raw, command, rfl, hparse, hreaches.1, hreaches.2⟩
  | select | deselect | openChannel | closeChannel | install | uninstall | inspect | reset | armTear
  | disarmTear | setHost => exact Bool.noConfusion hcommand

/-- Whether an operation is a call by which the host takes applets off their channels. -/
def Operation.isRelease : Operation σ → Bool
  | .select _ _ | .deselect _ | .uninstall _ => true
  | _ => false

/-- What stages do to a channel: they leave it alone, they open it, or they leave it closed. -/
inductive Treatment (channel : Nat) (card : Card σ) (stages : List (Stage σ)) : Prop where
  | quiet (hbytes : ∀ stage ∈ stages, stage.movesBytes channel = false)
    (hseat : ∀ stage ∈ stages, stage.reseats channel = false)
  | opened (hshut : card.channels.isOpen channel = false)
    (hbytes : ∀ stage ∈ stages, stage.movesBytes channel = false)
  | closed (hshut : (stages.foldl perform card).channels.isOpen channel = false)

section Treatment

variable {channel : Nat} {card : Card σ} {stages : List (Stage σ)}

theorem Treatment.nil : Treatment channel card [] :=
  .quiet (List.forall_mem_nil _) (List.forall_mem_nil _)

/-- A stage that is not about the channel may come before. -/
theorem Treatment.cons {stage : Stage σ} (hbytes : stage.movesBytes channel = false)
    (hseat : stage.reseats channel = false) (htoggle : stage.toggles channel = false)
    (htreatment : Treatment channel (card.perform stage) stages) :
    Treatment channel card (stage :: stages) := by
  cases htreatment with
  | quiet hrest hseats =>
    exact .quiet (List.forall_mem_cons.mpr ⟨hbytes, hrest⟩)
      (List.forall_mem_cons.mpr ⟨hseat, hseats⟩)
  | opened hshut hrest =>
    rw [isOpen_perform htoggle] at hshut
    exact .opened hshut (List.forall_mem_cons.mpr ⟨hbytes, hrest⟩)
  | closed hshut => exact .closed hshut

/-- A stage that is not about the channel may come after. -/
theorem Treatment.snoc {stage : Stage σ} (hbytes : stage.movesBytes channel = false)
    (hseat : stage.reseats channel = false) (htoggle : stage.toggles channel = false)
    (htreatment : Treatment channel card stages) : Treatment channel card (stages ++ [stage]) := by
  cases htreatment with
  | quiet hrest hseats =>
    exact .quiet (List.forall_mem_append.mpr ⟨hrest, List.forall_mem_singleton.mpr hbytes⟩)
      (List.forall_mem_append.mpr ⟨hseats, List.forall_mem_singleton.mpr hseat⟩)
  | opened hshut hrest =>
    exact .opened hshut (List.forall_mem_append.mpr ⟨hrest, List.forall_mem_singleton.mpr hbytes⟩)
  | closed hshut =>
    refine .closed ?_
    rw [List.foldl_append]
    exact (isOpen_perform htoggle _).trans hshut

end Treatment

variable (card : Card σ)

theorem movesBytes_selectContextStages (channel moved : Nat) (context : ContextId) :
    ∀ stage ∈ card.selectContextStages moved context, stage.movesBytes channel = false := by
  intro stage hstage
  unfold selectContextStages at hstage
  cases hfound : card.registry.inContext? context with
  | none =>
    rw [hfound] at hstage
    exact absurd hstage List.not_mem_nil
  | some entry =>
    rw [hfound] at hstage
    dsimp only at hstage
    split at hstage
    · exact absurd hstage List.not_mem_nil
    · rcases List.mem_pair.mp hstage with rfl | rfl <;> rfl

theorem treatment_selectContext {channel moved : Nat} (hother : moved ≠ channel)
    (context : ContextId) : Treatment channel card (card.selectContextStages moved context) := by
  refine .quiet (card.movesBytes_selectContextStages channel moved context) ?_
  intro stage hstage
  unfold selectContextStages at hstage
  cases hfound : card.registry.inContext? context with
  | none =>
    rw [hfound] at hstage
    exact absurd hstage List.not_mem_nil
  | some entry =>
    rw [hfound] at hstage
    dsimp only at hstage
    split at hstage
    · exact absurd hstage List.not_mem_nil
    · rcases List.mem_pair.mp hstage with rfl | rfl <;> exact beq_false_of_ne hother

theorem treatment_openChannel (channel origin : Nat) (requested : Option Nat) :
    Treatment channel card (card.openChannelStages origin requested) := by
  unfold openChannelStages
  split
  · exact .nil
  cases hreserved : reserveChannel card.channels requested with
  | error word => exact .nil
  | ok reserved =>
    obtain ⟨moved, channels⟩ := reserved
    obtain ⟨rfl, -⟩ := reserveChannel_eq_ok hreserved
    have hclosed := isOpen_of_reserveChannel hreserved
    dsimp only
    generalize (if origin = 0 then none else _) = initial
    cases initial with
    | none =>
      exact .quiet (List.forall_mem_singleton.mpr rfl) (List.forall_mem_singleton.mpr rfl)
    | some context =>
      dsimp only
      set opened : Card σ := { card with channels := card.channels.markOpen moved }
      have hbytes := opened.movesBytes_selectContextStages channel moved context
      by_cases hother : moved = channel
      · subst hother
        cases (opened.selectContext moved context).1 with
        | ok done =>
          dsimp only
          rw [List.append_nil]
          exact .opened hclosed (List.forall_mem_cons.mpr ⟨rfl, hbytes⟩)
        | error word =>
          dsimp only
          by_cases hbasic : moved = 0
          · refine .opened hclosed (List.forall_mem_append.mpr
              ⟨List.forall_mem_cons.mpr ⟨rfl, hbytes⟩, List.forall_mem_singleton.mpr ?_⟩)
            rw [Stage.movesBytes, hbasic]
            rfl
          · refine .closed ?_
            rw [List.foldl_append]
            exact ChannelTable.isOpen_close_self _ hbasic
      · have hquiet := @Treatment.cons σ channel card _ (.reserve moved) rfl rfl
          (beq_false_of_ne hother) (opened.treatment_selectContext hother context)
        have hshut : (moved == channel && moved != 0) = false := by
          rw [beq_false_of_ne hother, Bool.false_and]
        cases (opened.selectContext moved context).1 with
        | ok done =>
          dsimp only
          rw [List.append_nil]
          exact hquiet
        | error word => exact hquiet.snoc hshut hshut hshut

theorem treatment_closeChannel (channel closed : Nat) :
    Treatment channel card (card.closeChannelStages closed) := by
  unfold closeChannelStages
  by_cases hrefused : closed = 0 ∨ (!card.channels.isOpen closed) = true
  · rw [if_pos hrefused]
    exact .nil
  rw [if_neg hrefused]
  by_cases hother : closed = channel
  · subst hother
    exact .closed (ChannelTable.isOpen_close_self _ fun hbasic ↦ hrefused (.inl hbasic))
  · have hshut : (closed == channel && closed != 0) = false := by
      rw [beq_false_of_ne hother, Bool.false_and]
    refine .cons rfl (beq_false_of_ne hother) rfl ?_
    exact .cons hshut hshut hshut .nil

theorem treatment_manageChannel (channel : Nat) (command : Command) :
    Treatment channel card (card.manageChannelStages command) := by
  unfold manageChannelStages
  dsimp only
  split
  · exact card.treatment_openChannel channel command.channel _
  split
  · exact card.treatment_closeChannel channel _
  · exact .nil

/-- A command on another channel. -/
theorem treatment_dispatch {channel : Nat} {command : Command}
    (hother : command.channel ≠ channel) :
    Treatment channel card (card.dispatchStages command) := by
  have hrouted : Treatment channel card (card.routeStages command) := by
    have hwait : ∀ bytes, (Stage.wait command.channel bytes : Stage σ).movesBytes channel = false :=
      fun _ ↦ beq_false_of_ne hother
    unfold routeStages
    dsimp only
    split
    · exact .nil
    split
    · exact .nil
    split
    · exact .cons (hwait _) rfl rfl .nil
    split
    · exact .cons (hwait _) rfl rfl (treatment_manageChannel _ channel command)
    split
    · refine .cons (hwait _) rfl rfl ?_
      unfold routeSelectionStages
      cases card.registry.resolve? command.data with
      | none => exact .nil
      | some entry => exact treatment_selectContext _ hother entry.context
    · exact .cons (hwait _) rfl rfl .nil
  unfold dispatchStages
  generalize (card.route command).1 = outcome
  obtain _ | _ | ⟨context, selecting⟩ := outcome
  · exact (List.append_nil _).symm ▸ hrouted
  · exact (List.append_nil _).symm ▸ hrouted
  · exact hrouted.snoc (beq_false_of_ne hother) rfl rfl

/-- Only a reset, a command on the channel and a call by which the host takes applets off their
channels do more to a channel than to leave it alone, to open it or to leave it closed. -/
theorem treatment_next {channel : Nat} {operation : Operation σ} (hreset : operation ≠ .reset)
    (hcommand : card.isCommandOn channel operation = false)
    (hrelease : operation.isRelease = false) :
    Treatment channel card (card.stages operation) := by
  cases operation with
  | transmit raw =>
    rw [isCommandOn] at hcommand
    rw [stages, transmitStages]
    cases hparse : Command.parse raw card.config.extendedLength with
    | error word => exact .nil
    | ok command =>
      rw [hparse] at hcommand
      dsimp only
      by_cases hinvalid : command.classByte = invalidClass
      · have hnothing : card.dispatchStages command = [] := by
          unfold dispatchStages routeStages route
          dsimp only
          rw [if_pos hinvalid, if_pos hinvalid]
          rfl
        rw [hnothing]
        exact .nil
      · refine card.treatment_dispatch fun hchannel ↦ ?_
        have hreaches :
            (command.classByte != invalidClass && command.channel == channel) = true := by
          rw [bne_iff_ne.mpr hinvalid, beq_iff_eq.mpr hchannel, Bool.true_and]
        exact Bool.eq_false_iff.mp hcommand hreaches
  | openChannel origin requested => exact card.treatment_openChannel channel origin requested
  | closeChannel closed => exact card.treatment_closeChannel channel closed
  | reset => exact absurd rfl hreset
  | select | deselect | uninstall => exact Bool.noConfusion hrelease
  | install | inspect | armTear | disarmTear | setHost => exact .cons rfl rfl rfl .nil

/-- The host takes applets off their channels without moving any bytes. -/
theorem movesBytes_of_isRelease {operation : Operation σ} (hrelease : operation.isRelease = true)
    (channel : Nat) : ∀ stage ∈ card.stages operation, stage.movesBytes channel = false := by
  cases operation with
  | select aid moved =>
    rw [stages, selectStages]
    cases card.registry.find? aid.bytes with
    | none => exact List.forall_mem_nil _
    | some entry =>
      dsimp only
      split
      · exact card.movesBytes_selectContextStages channel moved entry.context
      · exact List.forall_mem_nil _
  | deselect moved => exact List.forall_mem_singleton.mpr rfl
  | uninstall aid =>
    rw [stages, uninstallStages]
    cases card.registry.find? aid.bytes with
    | none => exact List.forall_mem_nil _
    | some entry =>
      refine List.forall_mem_append.mpr ⟨?_, List.forall_mem_singleton.mpr rfl⟩
      exact List.forall_mem_map.mpr fun _ _ ↦ rfl
  | transmit | openChannel | closeChannel | install | inspect | reset | armTear | disarmTear
  | setHost => exact Bool.noConfusion hrelease

/-! ### Bytes that go on waiting -/

variable {card}

/-- Bytes go on waiting in stages that are not about them. -/
theorem pending_foldl {stages : List (Stage σ)} {channel : Nat}
    (hbytes : ∀ stage ∈ stages, stage.movesBytes channel = false) :
    (stages.foldl perform card).channels.pending channel = card.channels.pending channel := by
  induction stages generalizing card with
  | nil => rfl
  | cons stage rest ih =>
    rw [List.forall_mem_cons] at hbytes
    exact (ih hbytes.2).trans (pending_perform hbytes.1 card)

/-- What is selected stays so in stages that are not about it. -/
theorem selected_foldl {stages : List (Stage σ)} {channel : Nat}
    (hseat : ∀ stage ∈ stages, stage.reseats channel = false) :
    (stages.foldl perform card).channels.selected channel = card.channels.selected channel := by
  induction stages generalizing card with
  | nil => rfl
  | cons stage rest ih =>
    rw [List.forall_mem_cons] at hseat
    exact (ih hseat.2).trans (selected_perform hseat.1 card)

/-- Bytes go on waiting on a channel that is still open, whatever is done but a reset and commands
on that channel. -/
theorem pending_next {channel : Nat} {operation : Operation σ} (hreset : operation ≠ .reset)
    (hcommand : card.isCommandOn channel operation = false)
    (hopen : (card.next operation).channels.isOpen channel = true) :
    (card.next operation).channels.pending channel = card.channels.pending channel := by
  rw [← foldl_stages] at hopen ⊢
  cases hrelease : operation.isRelease with
  | true => exact pending_foldl (card.movesBytes_of_isRelease hrelease channel)
  | false =>
    cases card.treatment_next hreset hcommand hrelease with
    | quiet hbytes _ => exact pending_foldl hbytes
    | opened _ hbytes => exact pending_foldl hbytes
    | closed hshut => exact absurd hopen (Bool.eq_false_iff.mp hshut)

/-! ### Commands on the channel -/

/-- The reply to a sender that accepts some number of bytes when others are there to be sent. -/
def replyTo (accepted : Nat) (waiting : List UInt8) : List UInt8 :=
  if accepted < waiting.length then
    waiting.take accepted ++ (StatusWord.bytesRemaining (waiting.drop accepted).length).toBytes
  else waiting ++ StatusWord.noError.toBytes

theorem reply_eq (channel : Nat) (output : List UInt8) (accepted : Nat) :
    (card.reply channel output accepted).1 = replyTo accepted output := by
  unfold reply replyTo
  split <;> rfl

/-- An applet that handles a command to the end answers with its output. -/
theorem process_of_output {context : ContextId} {command : Command} {selecting : Bool}
    {output : List UInt8} (houtput : card.output? context command selecting = some output) :
    (card.process command.channel context command selecting).1 =
      .ok (replyTo command.accepted output) := by
  unfold output? at houtput
  unfold process
  cases hfound : card.registry.inContext? context with
  | none =>
    rw [hfound] at houtput
    exact nomatch houtput
  | some entry =>
    rw [hfound] at houtput
    dsimp only at houtput ⊢
    generalize Program.run Session.answerProcess entry.applet.process.run _ = ran at houtput ⊢
    obtain ⟨ending, session, exchange⟩ := ran
    dsimp only at houtput ⊢
    cases hdone : outcome ending with
    | error error =>
      rw [hdone] at houtput
      exact nomatch houtput
    | ok done =>
      rw [hdone] at houtput
      dsimp only at houtput ⊢
      cases hfinish : exchange.finish with
      | error error =>
        rw [hfinish] at houtput
        exact nomatch houtput
      | ok sent =>
        rw [hfinish] at houtput
        obtain rfl := Option.some.inj houtput
        exact congrArg Except.ok (reply_eq _ _ _)

/-- An applet that accepts its selection on an open channel is selected there, and the bytes on the
channel are left alone. -/
theorem selectContext_eq_ok {channel : Nat} {context : ContextId} {after : Card σ}
    (hopen : card.channels.isOpen channel = true)
    (hselected : card.selectContext channel context = (.ok (), after)) :
    after.channels.selected channel = some context ∧
      after.channels.pending channel = card.channels.pending channel := by
  have hpending : after.channels.pending channel = card.channels.pending channel := by
    have hstages : (card.selectContextStages channel context).foldl perform card = after :=
      (card.foldl_selectContextStages channel context).trans (congrArg Prod.snd hselected)
    rw [← hstages]
    exact pending_foldl (card.movesBytes_selectContextStages channel channel context)
  refine ⟨?_, hpending⟩
  cases hfound : card.registry.inContext? context with
  | none =>
    unfold selectContext at hselected
    rw [hfound] at hselected
    exact nomatch hselected
  | some entry =>
    cases hbusy : card.isBusy channel entry with
    | true =>
      rw [selectContext_of_isBusy hfound hbusy] at hselected
      exact nomatch hselected
    | false =>
      rw [selectContext_eq hfound hbusy] at hselected
      obtain ⟨-, rfl⟩ := mem_of_inContext? hfound
      have hchannels := (card.deselect channel).channels_seat channel entry
      rw [hselected] at hchannels
      rw [hchannels, channels_deselect]
      refine ChannelTable.selected_setSelected_self ?_ _
      rw [ChannelTable.isOpen_setSelected]
      exact hopen

/-- Only the applet selected on an open channel handles a command there, and no bytes wait then. -/
theorem route_handled {command : Command} {context : ContextId} {selecting : Bool}
    {routed : Card σ} (hroute : card.route command = (.ok (.handled context selecting), routed)) :
    routed.channels.isOpen command.channel = true ∧
      routed.channels.selected command.channel = some context ∧
      routed.channels.pending command.channel = [] := by
  unfold route at hroute
  dsimp only at hroute
  by_cases hinvalid : command.classByte = invalidClass
  · rw [if_pos hinvalid] at hroute
    exact nomatch hroute
  rw [if_neg hinvalid] at hroute
  by_cases hshut : (!card.channels.isOpen command.channel) = true
  · rw [if_pos hshut] at hroute
    exact nomatch hroute
  rw [if_neg hshut] at hroute
  have hopen : card.channels.isOpen command.channel = true := by
    rw [Bool.not_eq_true', Bool.not_eq_false] at hshut
    exact hshut
  set taken : Card σ := { card with channels := card.channels.setPending command.channel [] }
  have htaken : taken.channels.pending command.channel = [] :=
    ChannelTable.pending_setPending_self hopen []
  have hstill : taken.channels.isOpen command.channel = true :=
    (ChannelTable.isOpen_setPending _ _ _ _).trans hopen
  have hselected : ∀ {missing}, taken.routeSelected command.channel missing =
      .ok (.handled context selecting) →
        taken.channels.selected command.channel = some context := by
    intro missing hrouted
    unfold routeSelected at hrouted
    cases hfound : taken.channels.selected command.channel with
    | none =>
      rw [hfound] at hrouted
      exact nomatch hrouted
    | some found =>
      rw [hfound] at hrouted
      injection hrouted with hhandled
      injection hhandled with hcontext
      rw [hcontext]
  split at hroute
  · exact nomatch hroute
  split at hroute
  · generalize manageChannel _ command = managed at hroute
    obtain ⟨_ | response, after⟩ := managed <;> exact nomatch hroute
  split at hroute
  · unfold routeSelection at hroute
    cases hresolved : taken.registry.resolve? command.data with
    | none =>
      rw [hresolved] at hroute
      obtain ⟨hrouted, rfl⟩ := Prod.mk.inj hroute
      exact ⟨hstill, hselected hrouted, htaken⟩
    | some entry =>
      rw [hresolved] at hroute
      dsimp only at hroute
      cases hentered : taken.selectContext command.channel entry.context with
      | mk outcome after =>
        rw [hentered] at hroute
        obtain _ | done := outcome
        · exact nomatch hroute
        · obtain ⟨hhandled, rfl⟩ := Prod.mk.inj hroute
          injection hhandled with hhandled
          injection hhandled with hcontext
          obtain ⟨hseated, hpending⟩ := selectContext_eq_ok hstill hentered
          have hafter := taken.isOpen_selectContext command.channel command.channel entry.context
          rw [hentered] at hafter
          exact ⟨hafter.trans hstill, hcontext ▸ hseated, hpending.trans htaken⟩
  · obtain ⟨hrouted, rfl⟩ := Prod.mk.inj hroute
    exact ⟨hstill, hselected hrouted, htaken⟩

/-- What an applet sends to a command and the sender does not accept waits on the channel. -/
theorem transmit_of_handled {raw : List UInt8} {command : Command} {context : ContextId}
    {selecting : Bool} {routed : Card σ} {output : List UInt8}
    (hparse : Command.parse raw card.config.extendedLength = .ok command)
    (hroute : card.route command = (.ok (.handled context selecting), routed))
    (houtput : routed.output? context command selecting = some output) :
    (card.transmit raw).1 = replyTo command.accepted output ∧
      (card.transmit raw).2.channels.isOpen command.channel = true ∧
      (card.transmit raw).2.channels.pending command.channel = output.drop command.accepted := by
  obtain ⟨hopen, -, hpending⟩ := route_handled hroute
  have hreply := process_of_output houtput
  have hchannels := routed.channels_process context command selecting
  rw [houtput, Option.elim_some] at hchannels
  have htransmit : card.transmit raw = (replyTo command.accepted output,
      (routed.process command.channel context command selecting).2) := by
    unfold transmit dispatch
    rw [hparse]
    dsimp only
    rw [hroute]
    dsimp only
    generalize routed.process command.channel context command selecting = processed at hreply ⊢
    obtain ⟨response, after⟩ := processed
    obtain rfl := hreply
    rfl
  rw [htransmit]
  refine ⟨rfl, ?_⟩
  rw [hchannels]
  by_cases hshort : command.accepted < output.length
  · rw [if_pos hshort, ChannelTable.isOpen_setPending]
    exact ⟨hopen, ChannelTable.pending_setPending_self hopen _⟩
  · rw [if_neg hshort, List.drop_eq_nil_of_le (Nat.not_lt.mp hshort)]
    exact ⟨hopen, hpending⟩

/-- A command of the card's own is of the industry-wide class. -/
theorem classByte_ne_invalid {command : Command} {instruction : UInt8}
    (hinstruction : isInstruction command instruction = true) :
    command.classByte ≠ invalidClass := by
  intro hinvalid
  rw [isInstruction, Command.isInterindustry, hinvalid] at hinstruction
  exact Bool.noConfusion hinstruction

theorem isInstruction_of_ne {command : Command} {other : UInt8}
    (hother : command.instruction ≠ other) : isInstruction command other = false := by
  rw [isInstruction, beq_false_of_ne hother, Bool.and_false]

/-- A command of the card's own is of one instruction only. -/
theorem isInstruction_eq_false {command : Command} {instruction other : UInt8}
    (hinstruction : isInstruction command instruction = true) (hother : instruction ≠ other) :
    isInstruction command other = false := by
  have hsame := eq_of_beq (Bool.and_eq_true_iff.mp hinstruction).2
  exact isInstruction_of_ne (hsame.symm ▸ hother)

/-- Bytes that wait are fetched; those that the sender does not accept go on waiting. -/
theorem transmit_of_fetches {raw : List UInt8} {command : Command}
    (hparse : Command.parse raw card.config.extendedLength = .ok command)
    (hfetch : isInstruction command Command.getResponseInstruction = true)
    (hopen : card.channels.isOpen command.channel = true)
    (hpending : card.channels.pending command.channel ≠ []) :
    card.transmit raw = (replyTo command.accepted (card.channels.pending command.channel),
      card.perform (.wait command.channel
        ((card.channels.pending command.channel).drop command.accepted))) := by
  have hvalid := classByte_ne_invalid hfetch
  have hshut : ¬(!card.channels.isOpen command.channel) = true := by
    rw [hopen]
    exact Bool.false_ne_true
  have hwaits : (isInstruction command Command.getResponseInstruction &&
      !(card.channels.pending command.channel).isEmpty) = true := by
    rw [hfetch, Bool.true_and, Bool.not_eq_true', List.isEmpty_eq_false_iff]
    exact hpending
  unfold transmit dispatch route
  rw [hparse]
  dsimp only
  rw [if_neg hvalid, if_neg hshut, if_pos hwaits, reply_eq, reply_taken]
  rfl

end SmartCard.Card
