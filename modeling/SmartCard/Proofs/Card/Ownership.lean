import SmartCard.Proofs.Card.Coherence
import SmartCard.Proofs.Card.Waiting

/-!
# Whose bytes wait

Bytes that wait on a channel should be what is left of an output of the applet selected there, and
the applet should not have left the channel since it sent them (`Card.Owned`). Commands keep it so,
and so does all else that is done to a card, except the calls by which the host takes applets off
their channels: these leave the bytes where they are. So bytes are owned throughout a run exactly if
the host takes no applet off a channel on which bytes wait (`Card.waiting_owned_iff`), and otherwise
they outlive even the removal of the applet (`Card.output_outlives_applet`).
-/

set_option autoImplicit false
set_option relaxedAutoImplicit false

namespace SmartCard.Card

variable {σ : Type}

/-- Whether the bytes that wait on a channel are what is left of an output of the applet selected
there, and nothing has happened since then but that bytes were fetched and other channels were
dealt with. -/
inductive Owned (history : List (Card σ × Stage σ)) (card : Card σ) (channel : Nat) : Prop where
  | sent {before later : List (Card σ × Stage σ)} {made : Card σ} {context : ContextId}
    {command : Command} {selecting : Bool} {output : List UInt8}
    (hhistory : history = before ++ (made, .handle context command selecting) :: later)
    (hchannel : command.channel = channel)
    (houtput : made.output? context command selecting = some output)
    (hleft : card.channels.pending channel <:+ output)
    (hkept : ∀ scene ∈ later, (scene.1.perform scene.2).channels.pending channel <:+
      scene.1.channels.pending channel)
    (hstays : ∀ scene ∈ later, scene.2.reseats channel = false)
    (hselected : card.channels.selected channel = some context)

/-! ### Bytes that stay owned -/

section Owned

variable {card : Card σ} {history : List (Card σ × Stage σ)} {channel : Nat}
  {stages : List (Stage σ)}

/-- Bytes that are only ever taken from the front are the end of those there were. -/
theorem pending_foldl_suffix
    (hkept : ∀ scene ∈ along card stages, (scene.1.perform scene.2).channels.pending channel <:+
      scene.1.channels.pending channel) :
    (stages.foldl perform card).channels.pending channel <:+ card.channels.pending channel := by
  induction stages generalizing card with
  | nil => exact List.suffix_rfl
  | cons stage rest ih =>
    rw [along, List.forall_mem_cons] at hkept
    exact (ih hkept.2).trans hkept.1

/-- Bytes stay owned while they are only fetched. -/
theorem Owned.keep (howned : Owned history card channel)
    (hkept : ∀ scene ∈ along card stages, (scene.1.perform scene.2).channels.pending channel <:+
      scene.1.channels.pending channel)
    (hseat : ∀ stage ∈ stages, stage.reseats channel = false) :
    Owned (history ++ along card stages) (stages.foldl perform card) channel := by
  obtain ⟨rfl, hchannel, houtput, hleft, hbefore, hstays, hselected⟩ := howned
  refine .sent (by rw [List.append_assoc, List.cons_append]) hchannel houtput
    ((pending_foldl_suffix hkept).trans hleft) (List.forall_mem_append.mpr ⟨hbefore, hkept⟩) ?_ ?_
  · refine List.forall_mem_append.mpr ⟨hstays, fun scene hscene ↦ ?_⟩
    exact hseat scene.2 (mem_of_mem_along hscene)
  · exact (selected_foldl hseat).trans hselected

/-- Bytes stay owned in stages that are not about the channel. -/
theorem Owned.quiet (howned : Owned history card channel)
    (hbytes : ∀ stage ∈ stages, stage.movesBytes channel = false)
    (hseat : ∀ stage ∈ stages, stage.reseats channel = false) :
    Owned (history ++ along card stages) (stages.foldl perform card) channel := by
  refine howned.keep (fun scene hscene ↦ ?_) hseat
  rw [pending_perform (hbytes scene.2 (mem_of_mem_along hscene))]

end Owned

/-! ### Calls of the host -/

/-- The host takes an applet off a channel just when the applet leaves it first. -/
theorem reseats_of_isRelease {card : Card σ} {operation : Operation σ} {channel : Nat}
    (hrelease : operation.isRelease = true) (hstays : .leave channel ∉ card.stages operation) :
    ∀ stage ∈ card.stages operation, stage.reseats channel = false := by
  cases operation with
  | select aid moved =>
    rw [stages, selectStages] at hstays ⊢
    cases hfound : card.registry.find? aid.bytes with
    | none => exact List.forall_mem_nil _
    | some entry =>
      rw [hfound] at hstays
      dsimp only at hstays ⊢
      by_cases hopen : card.channels.isOpen moved = true
      · rw [if_pos hopen] at hstays ⊢
        unfold selectContextStages at hstays ⊢
        cases hentry : card.registry.inContext? entry.context with
        | none => exact List.forall_mem_nil _
        | some entered =>
          rw [hentry] at hstays
          dsimp only at hstays ⊢
          cases hbusy : card.isBusy moved entered with
          | true => exact List.forall_mem_nil _
          | false =>
            rw [hbusy] at hstays
            have hother : moved ≠ channel := by
              rintro rfl
              exact hstays List.mem_cons_self
            exact List.forall_mem_cons.mpr ⟨beq_false_of_ne hother,
              List.forall_mem_singleton.mpr (beq_false_of_ne hother)⟩
      · rw [if_neg hopen]
        exact List.forall_mem_nil _
  | deselect moved =>
    have hother : moved ≠ channel := by
      rintro rfl
      exact hstays List.mem_cons_self
    exact List.forall_mem_singleton.mpr (beq_false_of_ne hother)
  | uninstall aid =>
    rw [stages, uninstallStages] at hstays ⊢
    cases hfound : card.registry.find? aid.bytes with
    | none => exact List.forall_mem_nil _
    | some entry =>
      rw [hfound] at hstays
      refine List.forall_mem_append.mpr ⟨?_, List.forall_mem_singleton.mpr rfl⟩
      refine List.forall_mem_map.mpr fun moved hmoved ↦ beq_false_of_ne ?_
      rintro rfl
      exact hstays (List.mem_append_left _ (List.mem_map_of_mem hmoved))
  | transmit | openChannel | closeChannel | install | inspect | reset | armTear | disarmTear
  | setHost => exact Bool.noConfusion hrelease

/-! ### Commands on the channel -/

/-- A command that fetches nothing drops what waits, before anything else is done with it. -/
theorem pending_route {card : Card σ} {command : Command}
    (hvalid : command.classByte ≠ invalidClass)
    (hopen : card.channels.isOpen command.channel = true)
    (hdrops : ¬(isInstruction command Command.getResponseInstruction &&
      !(card.channels.pending command.channel).isEmpty) = true) :
    (card.route command).2.channels.isOpen command.channel = false ∨
      (card.route command).2.channels.pending command.channel = [] := by
  have hshut : ¬(!card.channels.isOpen command.channel) = true := by
    rw [hopen]
    exact Bool.false_ne_true
  have htaken : (card.perform (.wait command.channel [])).channels.pending command.channel = [] :=
    ChannelTable.pending_setPending_self hopen []
  rw [← foldl_routeStages]
  unfold routeStages
  dsimp only
  rw [if_neg hvalid, if_neg hshut, if_neg hdrops]
  by_cases hmanage : isInstruction command Command.manageChannelInstruction = true
  · rw [if_pos hmanage]
    cases treatment_manageChannel (card.perform (.wait command.channel [])) command.channel
      command with
    | quiet hbytes _ => exact .inr ((pending_foldl hbytes).trans htaken)
    | opened _ hbytes => exact .inr ((pending_foldl hbytes).trans htaken)
    | closed hclosed => exact .inl hclosed
  · rw [if_neg hmanage]
    refine .inr ?_
    by_cases hselect : (isInstruction command Command.selectInstruction &&
        command.p1 == selectByName) = true
    · rw [if_pos hselect, List.foldl_cons]
      unfold routeSelectionStages
      cases Registry.resolve? _ command.data with
      | none => exact htaken
      | some entry =>
        refine (pending_foldl ?_).trans htaken
        exact movesBytes_selectContextStages _ command.channel command.channel entry.context
    · rw [if_neg hselect]
      exact htaken

/-- A command that fetches does nothing else. -/
theorem dispatchStages_of_fetches {card : Card σ} {command : Command}
    (hvalid : command.classByte ≠ invalidClass)
    (hopen : card.channels.isOpen command.channel = true)
    (hfetch : (isInstruction command Command.getResponseInstruction &&
      !(card.channels.pending command.channel).isEmpty) = true) :
    card.dispatchStages command =
      [.wait command.channel ((card.channels.pending command.channel).drop command.accepted)] := by
  have hshut : ¬(!card.channels.isOpen command.channel) = true := by
    rw [hopen]
    exact Bool.false_ne_true
  unfold dispatchStages routeStages route
  dsimp only
  rw [if_neg hvalid, if_neg hshut, if_pos hfetch, if_neg hvalid, if_neg hshut, if_pos hfetch]
  rfl

/-- A command on a closed channel does nothing. -/
theorem dispatchStages_of_closed {card : Card σ} {command : Command}
    (hshut : card.channels.isOpen command.channel = false) : card.dispatchStages command = [] := by
  have hnot : (!card.channels.isOpen command.channel) = true := by
    rw [hshut]
    rfl
  unfold dispatchStages routeStages route
  dsimp only
  rw [if_pos hnot, if_pos hnot]
  split <;> rfl

/-- After a command on an open channel whatever waits there is owned. -/
theorem owned_dispatch {card : Card σ} {history : List (Card σ × Stage σ)} {command : Command}
    (hvalid : command.classByte ≠ invalidClass)
    (hopen : card.channels.isOpen command.channel = true)
    (howned : card.channels.pending command.channel ≠ [] → Owned history card command.channel)
    (hstill : (card.dispatch command).2.channels.isOpen command.channel = true)
    (hwaiting : (card.dispatch command).2.channels.pending command.channel ≠ []) :
    Owned (history ++ along card (card.dispatchStages command)) (card.dispatch command).2
      command.channel := by
  by_cases hfetch : (isInstruction command Command.getResponseInstruction &&
      !(card.channels.pending command.channel).isEmpty) = true
  · have hthere : card.channels.pending command.channel ≠ [] := by
      rw [Bool.and_eq_true, Bool.not_eq_true', List.isEmpty_eq_false_iff] at hfetch
      exact hfetch.2
    rw [← foldl_dispatchStages, dispatchStages_of_fetches hvalid hopen hfetch]
    refine (howned hthere).keep (List.forall_mem_singleton.mpr ?_)
      (List.forall_mem_singleton.mpr rfl)
    rw [perform, ChannelTable.pending_setPending_self hopen]
    exact List.drop_suffix command.accepted _
  · have hdropped := pending_route hvalid hopen hfetch
    have hstages : card.dispatchStages command = card.routeStages command ++ _ := rfl
    unfold dispatch at hstill hwaiting ⊢
    rw [hstages, along_append, foldl_routeStages, ← List.append_assoc]
    cases hroute : card.route command with
    | mk outcome routed =>
      rw [hroute] at hdropped hstill hwaiting
      obtain _ | _ | ⟨context, selecting⟩ := outcome
      · exact absurd (hdropped.resolve_left (ne_false_of_eq_true hstill)) hwaiting
      · exact absurd (hdropped.resolve_left (ne_false_of_eq_true hstill)) hwaiting
      · obtain ⟨hopen, hselected, hpending⟩ := route_handled hroute
        dsimp only at hwaiting ⊢
        have hchannels := routed.channels_process context command selecting
        cases houtput : routed.output? context command selecting with
        | none =>
          rw [houtput] at hchannels
          rw [hchannels] at hwaiting
          exact absurd hpending hwaiting
        | some output =>
          rw [houtput, Option.elim_some] at hchannels
          refine .sent rfl rfl houtput ?_ (List.forall_mem_nil _) (List.forall_mem_nil _) ?_
          · rw [hchannels]
            by_cases hshort : command.accepted < output.length
            · rw [if_pos hshort, ChannelTable.pending_setPending_self hopen]
              exact List.drop_suffix command.accepted output
            · rw [if_neg hshort, hpending]
              exact List.nil_suffix
          · rw [hchannels]
            split
            · exact (ChannelTable.selected_setPending _ _ _ _).trans hselected
            · exact hselected

/-! ### Runs -/

/-- A closed channel of a card that coheres has no bytes waiting. -/
theorem Coheres.pending_of_closed {card : Card σ} {config : Config} (hcoheres : card.Coheres config)
    {channel : Nat} (hshut : card.channels.isOpen channel = false) :
    card.channels.pending channel = [] :=
  (hcoheres.isOrderly.closed_empty channel hshut).2

/-- Every operation leaves the bytes owned that wait, if it takes no applet off a channel on which
bytes wait. -/
theorem owned_next {card : Card σ} {config : Config} {history : List (Card σ × Stage σ)}
    {operation : Operation σ} (hcoheres : card.Coheres config)
    (howned : ∀ channel, card.channels.pending channel ≠ [] → Owned history card channel)
    (hrelease : operation.isRelease = true → ∀ channel, .leave channel ∈ card.stages operation →
      card.channels.pending channel = [])
    {channel : Nat} (hwaiting : (card.next operation).channels.pending channel ≠ []) :
    Owned (history ++ along card (card.stages operation)) (card.next operation) channel := by
  have hafter := hcoheres.course (card.course_next operation)
  have hopen : (card.next operation).channels.isOpen channel = true := by
    by_contra hshut
    exact hwaiting (hafter.pending_of_closed (Bool.eq_false_iff.mpr hshut))
  by_cases hreset : operation = .reset
  · subst hreset
    exact absurd (ChannelTable.pending_initial _ channel) hwaiting
  cases hcommand : card.isCommandOn channel operation with
  | true =>
    obtain ⟨raw, command, rfl, hparse, hvalid, rfl⟩ := exists_of_isCommandOn hcommand
    rw [← foldl_stages, stages, transmitStages, hparse] at hopen hwaiting ⊢
    dsimp only at hopen hwaiting ⊢
    rw [foldl_dispatchStages] at hopen hwaiting ⊢
    by_cases hbefore : card.channels.isOpen command.channel = true
    · exact owned_dispatch hvalid hbefore (howned command.channel) hopen hwaiting
    · have hclosed := Bool.eq_false_iff.mpr hbefore
      rw [← foldl_dispatchStages, dispatchStages_of_closed hclosed] at hwaiting
      exact absurd (hcoheres.pending_of_closed hclosed) hwaiting
  | false =>
    have hpending := pending_next hreset hcommand hopen
    rw [hpending] at hwaiting
    rw [← foldl_stages]
    cases hcall : operation.isRelease with
    | true =>
      refine (howned channel hwaiting).quiet (card.movesBytes_of_isRelease hcall channel) ?_
      exact reseats_of_isRelease hcall fun hleft ↦ hwaiting (hrelease hcall channel hleft)
    | false =>
      cases card.treatment_next hreset hcommand hcall with
      | quiet hbytes hseat => exact (howned channel hwaiting).quiet hbytes hseat
      | opened hshut _ => exact absurd (hcoheres.pending_of_closed hshut) hwaiting
      | closed hshut =>
        rw [foldl_stages] at hshut
        exact absurd hopen (Bool.eq_false_iff.mp hshut)

/-- On a card powered up nothing waits. -/
theorem pending_ofConfig {config : Config} {host : σ} {card : Card σ}
    (hcard : Card.ofConfig config host = .ok card) (channel : Nat) :
    card.channels.pending channel = [] := by
  obtain ⟨atr, -, rfl⟩ := eq_of_ofConfig hcard
  exact ChannelTable.pending_initial config.logicalChannels channel

/-- Bytes that were there before an applet was taken off their channel are not owned after it. -/
theorem not_owned_of_left {card : Card σ} {history : List (Card σ × Stage σ)}
    {stages : List (Stage σ)} {channel : Nat} (hleft : .leave channel ∈ stages)
    (hbytes : ∀ stage ∈ stages, stage.movesBytes channel = false) {after : Card σ} :
    ¬Owned (history ++ along card stages) after channel := by
  rintro ⟨hhistory, rfl, -, -, -, hstays, -⟩
  rename_i before later made context command selecting output
  -- the exchange is no part of the last stages, so all of these come later
  have hbefore : ∀ others, along card stages ≠
      others ++ (made, .handle context command selecting) :: later := by
    intro others hsplit
    have hscene : (made, Stage.handle context command selecting) ∈ along card stages :=
      hsplit ▸ List.mem_append_right others List.mem_cons_self
    have hmoves := hbytes _ (mem_of_mem_along hscene)
    rw [Stage.movesBytes, BEq.rfl] at hmoves
    exact Bool.noConfusion hmoves
  rcases List.append_eq_append_iff.mp hhistory with ⟨others, -, hsplit⟩ | ⟨others, -, hsplit⟩
  · exact hbefore others hsplit
  · cases others with
    | nil => exact hbefore [] hsplit.symm
    | cons scene others =>
      obtain ⟨-, rfl⟩ := List.cons.inj hsplit
      rw [← map_snd_along card stages] at hleft
      obtain ⟨left, hmem, hstage⟩ := List.mem_map.mp hleft
      have hstill := hstays left (List.mem_append_right others hmem)
      rw [hstage, Stage.reseats, BEq.rfl] at hstill
      exact Bool.noConfusion hstill

/-- Bytes are owned throughout a run of operations exactly if the host takes no applet off a channel
on which bytes wait. -/
theorem waiting_owned_iff {config : Config} {host : σ} {card : Card σ}
    (hcard : Card.ofConfig config host = .ok card) (operations : List (Operation σ)) :
    (∀ before later, operations = before ++ later → ∀ channel,
      (before.foldl next card).channels.pending channel ≠ [] →
        Owned (scenes card before) (before.foldl next card) channel) ↔
    ∀ before operation later, operations = before ++ operation :: later →
      operation.isRelease = true → ∀ channel,
        .leave channel ∈ (before.foldl next card).stages operation →
          (before.foldl next card).channels.pending channel = [] := by
  have hscenes : ∀ before (operation : Operation σ), scenes card (before ++ [operation]) =
      scenes card before ++ along (before.foldl next card)
        ((before.foldl next card).stages operation) := by
    intro before operation
    rw [scenes_append, scenes, scenes, List.append_nil]
  have hnext : ∀ before (operation : Operation σ), (before ++ [operation]).foldl next card =
      (before.foldl next card).next operation := fun before operation ↦ List.foldl_append
  constructor
  · intro howned before operation later hsplit hrelease channel hleft
    by_contra hwaiting
    have hbytes := (before.foldl next card).movesBytes_of_isRelease hrelease channel
    rw [List.append_cons] at hsplit
    have hafter := howned _ _ hsplit channel
    rw [hscenes, hnext, ← foldl_stages, pending_foldl hbytes] at hafter
    exact not_owned_of_left hleft hbytes (hafter hwaiting)
  · intro hrelease before
    induction before using List.reverseRecOn with
    | nil => exact fun _ _ channel hwaiting ↦ absurd (pending_ofConfig hcard channel) hwaiting
    | append_singleton before operation ih =>
      intro later hsplit channel hwaiting
      rw [List.append_assoc, List.singleton_append] at hsplit
      rw [hscenes, hnext]
      rw [hnext] at hwaiting
      exact owned_next ((Coheres.ofConfig hcard).foldl before) (ih _ hsplit)
        (hrelease before operation later hsplit) hwaiting

/-- The host deselects an applet that has sent half of its output. -/
theorem waiting_owned_iff_deselecting :
    let config : Config := { atr := "3B" }
    let card : Card Unit := {
      config := config
      atr := [0x3B]
      platform := ⟨.empty config.quotas config.commitCapacity, .initial⟩
      registry := .empty config.maxApplets
      channels := .initial config.logicalChannels
      host := () }
    let aid : Aid := ⟨[0xA0, 0, 0, 0, 1], by decide, by decide⟩
    let factory : Factory Unit := fun _ ↦ do
      Code.register
      return { process := Code.respond [1, 2, 3, 4] }
    let begun : List (Operation Unit) :=
      [.install aid [] factory, .select aid 0, .transmit [0, 0x10, 0, 0, 2]]
    Card.ofConfig config () = .ok card ∧
      ¬∀ before later, begun ++ [.deselect 0] = before ++ later → ∀ channel,
        (before.foldl next card).channels.pending channel ≠ [] →
          Owned (scenes card before) (before.foldl next card) channel := by
  intro config card aid factory begun
  have hvalid : config.validate = .ok () := by decide
  have hatr : config.readAtr = .ok [0x3B] := by decide
  have hpowered : Card.ofConfig config () = .ok card := by rw [Card.ofConfig, hvalid, hatr]
  have hwaits : (begun.foldl next card).channels.pending 0 = [3, 4] := by decide +kernel
  refine ⟨hpowered, fun howned ↦ ?_⟩
  have hempty := (waiting_owned_iff hpowered (begun ++ [.deselect 0])).mp howned begun
    (.deselect 0) [] rfl rfl 0 List.mem_cons_self
  exact List.cons_ne_nil _ _ (hwaits.symm.trans hempty)

/-- An applet that has sent half of its output is removed by the host: the bytes that wait belong to
no applet, and the rest of the output is delivered all the same. -/
theorem output_outlives_applet :
    let config : Config := { atr := "3B" }
    let card : Card Unit := {
      config := config
      atr := [0x3B]
      platform := ⟨.empty config.quotas config.commitCapacity, .initial⟩
      registry := .empty config.maxApplets
      channels := .initial config.logicalChannels
      host := () }
    let aid : Aid := ⟨[0xA0, 0, 0, 0, 1], by decide, by decide⟩
    let factory : Factory Unit := fun _ ↦ do
      Code.register
      return { process := Code.respond [1, 2, 3, 4] }
    let operations : List (Operation Unit) :=
      [.install aid [] factory, .select aid 0, .transmit [0, 0x10, 0, 0, 2], .uninstall aid]
    let after := operations.foldl next card
    Card.ofConfig config () = .ok card ∧ after.applets = [] ∧
      (after.channels.pending 0 = [3, 4] ∧ ¬Owned (scenes card operations) after 0) ∧
      (after.transmit [0, 0xC0, 0, 0, 0]).1 = [3, 4, 0x90, 0x00] := by
  intro config card aid factory operations after
  have hvalid : config.validate = .ok () := by decide
  have hatr : config.readAtr = .ok [0x3B] := by decide
  have hpowered : Card.ofConfig config () = .ok card := by rw [Card.ofConfig, hvalid, hatr]
  have hnobody : after.channels.selected 0 = none := by decide +kernel
  refine ⟨hpowered, by decide +kernel, ⟨by decide +kernel, ?_⟩, by decide +kernel⟩
  rintro ⟨-, -, -, -, -, -, hselected⟩
  exact Option.some_ne_none _ (hselected.symm.trans hnobody)

end SmartCard.Card
