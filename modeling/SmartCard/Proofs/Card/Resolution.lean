import SmartCard.Proofs.Card.Handling
import SmartCard.Proofs.Card.Removal

/-!
# Which applet a selection names

The applets installed on a card are those that its history has enrolled and not withdrawn since, in
the order of their installation (`Card.entries_eq_standing`), because a withdrawn context is retired
and nothing is enrolled in it again.

A selection names the applet whose whole identifier it gives, or else the oldest whose identifier
begins with what it gives (`Registry.resolve?_of_bytes`, `Registry.resolve?_of_start`). If it names
an applet, the card tries to select this one and no other (`Card.Attempts`), and if it names none,
no selection moves and the command goes to the applet selected already (`Card.Passes`).
`Card.selections_resolved` says so for every history of a card.
-/

set_option autoImplicit false
set_option relaxedAutoImplicit false

namespace SmartCard

/-! ### What a registry finds -/

namespace Registry

variable {σ : Type} {registry : Registry σ} {entry : Registration σ} {bytes : List UInt8}

/-- An applet is found by its whole identifier, whatever the others are called. -/
theorem resolve?_of_bytes (hdistinct : registry.aids.Nodup) (hentry : entry ∈ registry.entries)
    (hbytes : entry.aid.bytes = bytes) : registry.resolve? bytes = some entry := by
  unfold resolve? find?
  cases hfound : registry.entries.find? (·.aid.bytes == bytes) with
  | none =>
    exact absurd (beq_iff_eq.mpr hbytes) (List.find?_eq_none.mp hfound entry hentry)
  | some found =>
    have hnamed := List.find?_some hfound
    have hsame := Aid.ext_bytes ((eq_of_beq hnamed).trans hbytes.symm)
    rw [List.inj_on_of_nodup_map hdistinct (List.mem_of_find?_eq_some hfound) hentry hsame]
    rfl

theorem startsWith_iff {aid : Aid} :
    aid.startsWith bytes = true ↔ 5 ≤ bytes.length ∧ bytes <+: aid.bytes := by
  rw [Aid.startsWith, Bool.and_eq_true, decide_eq_true_iff, List.isPrefixOf_iff_prefix]

theorem find?_eq_none_iff :
    registry.find? bytes = none ↔ ∀ entry ∈ registry.entries, entry.aid.bytes ≠ bytes := by
  simp only [find?, List.find?_eq_none, beq_iff_eq]

/-- Without an applet that has the bytes as its whole identifier, the oldest is found of those whose
identifier begins with them. -/
theorem resolve?_of_start (hnone : ∀ entry ∈ registry.entries, entry.aid.bytes ≠ bytes)
    (hlength : 5 ≤ bytes.length) (hstart : ∃ entry ∈ registry.entries, bytes <+: entry.aid.bytes) :
    ∃ earlier entry later, registry.entries = earlier ++ entry :: later ∧
      bytes <+: entry.aid.bytes ∧ (∀ other ∈ earlier, ¬bytes <+: other.aid.bytes) ∧
      registry.resolve? bytes = some entry := by
  rw [resolve?, find?_eq_none_iff.mpr hnone, Option.none_or]
  cases hfound : registry.entries.find? (·.aid.startsWith bytes) with
  | none =>
    obtain ⟨entry, hentry, hbytes⟩ := hstart
    exact absurd (startsWith_iff.mpr ⟨hlength, hbytes⟩) (List.find?_eq_none.mp hfound entry hentry)
  | some entry =>
    obtain ⟨hbytes, earlier, later, hsplit, hearlier⟩ := List.find?_eq_some_iff_append.mp hfound
    refine ⟨earlier, entry, later, hsplit, (startsWith_iff.mp hbytes).2,
      fun other hother hbegins ↦ ?_, rfl⟩
    have hearly := hearlier other hother
    rw [startsWith_iff.mpr ⟨hlength, hbegins⟩] at hearly
    cases hearly

theorem resolve?_eq_none_iff : registry.resolve? bytes = none ↔
    ∀ entry ∈ registry.entries,
      entry.aid.bytes ≠ bytes ∧ (5 ≤ bytes.length → ¬bytes <+: entry.aid.bytes) := by
  rw [resolve?, Option.or_eq_none_iff, find?_eq_none_iff, List.find?_eq_none, ← forall₂_and]
  simp only [startsWith_iff, not_and]

end Registry

namespace Card

variable {σ : Type} {card : Card σ} {config : Config}

/-! ### The history of the registry -/

/-- The applet that an operation installs, as it is registered, if it succeeds in that. -/
def enrols? (card : Card σ) : Operation σ → Option (Registration σ)
  | .install aid data factory =>
    (card.install aid data factory).1.toOption.bind
      (card.install aid data factory).2.registry.inContext?
  | _ => none

/-- The context of the applet that an operation removes. -/
def withdraws? (card : Card σ) : Operation σ → Option ContextId
  | .uninstall aid => (card.registry.find? aid.bytes).map (·.context)
  | _ => none

/-- The applets that a run installs, in the order of their installation. -/
def enrolled (card : Card σ) : List (Operation σ) → List (Registration σ)
  | [] => []
  | operation :: rest => (card.enrols? operation).toList ++ (card.next operation).enrolled rest

/-- The contexts of the applets that a run removes. -/
def withdrawn (card : Card σ) : List (Operation σ) → List ContextId
  | [] => []
  | operation :: rest => (card.withdraws? operation).toList ++ (card.next operation).withdrawn rest

/-- The applets that a run installs and does not remove, in the order of their installation. -/
def standing (card : Card σ) (operations : List (Operation σ)) : List (Registration σ) :=
  (card.enrolled operations).filter fun entry ↦ entry.context ∉ card.withdrawn operations

/-- Whether a stage may change which applets are installed. -/
def Stage.enlists : Stage σ → Bool
  | .install _ _ _ | .expel _ => true
  | _ => false

theorem registry_perform {stage : Stage σ} (hkeeps : stage.enlists = false) (card : Card σ) :
    (card.perform stage).registry = card.registry := by
  cases stage with
  | leave channel => exact card.registry_deselect channel
  | enter channel entry => exact card.registry_seat channel entry
  | handle context command selecting =>
    exact card.registry_process command.channel context command selecting
  | inspect aid program => exact card.registry_inspect aid program
  | install | expel => cases hkeeps
  | wait | reserve | shut | reset | adjust | tell => rfl

theorem registry_foldl_perform {stages : List (Stage σ)}
    (hkeeps : ∀ stage ∈ stages, stage.enlists = false) (card : Card σ) :
    (stages.foldl perform card).registry = card.registry := by
  induction stages generalizing card with
  | nil => rfl
  | cons stage rest ih =>
    obtain ⟨hfirst, hrest⟩ := List.forall_mem_cons.mp hkeeps
    exact (ih hrest _).trans (registry_perform hfirst card)

/-- Operations other than installations and removals change nothing about which applets are
installed. -/
theorem registry_next {operation : Operation σ}
    (hinstall : ∀ aid data factory, operation ≠ .install aid data factory)
    (huninstall : ∀ aid, operation ≠ .uninstall aid) :
    (card.next operation).registry = card.registry := by
  rw [← foldl_stages]
  refine registry_foldl_perform (fun stage hstage ↦ ?_) card
  cases comprises_of_mem hstage with
  | routing hrouting =>
    cases stage with
    | wait | reserve | shut | leave | enter => rfl
    | _ => cases hrouting
  | install aid data factory => exact absurd rfl (hinstall aid data factory)
  | @expel aid entry hfound => exact absurd rfl (huninstall aid)
  | handle | inspect | reset | armTear | disarmTear | setHost => rfl

/-- A context that is retired is the context of no applet installed later. -/
theorem Retired.not_enrolled {context : ContextId} (hretired : card.Retired context)
    (operations : List (Operation σ)) :
    ∀ entry ∈ card.enrolled operations, entry.context ≠ context := by
  induction operations generalizing card with
  | nil => exact List.forall_mem_nil _
  | cons operation rest ih =>
    have hnext := hretired.course (course_next card operation)
    refine List.forall_mem_append.mpr ⟨fun entry hentry ↦ ?_, ih hnext⟩
    cases operation with
    | install aid data factory =>
      obtain ⟨context, -, hfound⟩ := Option.bind_eq_some_iff.mp (Option.mem_toList.mp hentry)
      exact hnext.not_registered entry (mem_of_inContext? hfound).1
    | _ => cases hentry

/-- An operation adds the applet that it enrols behind the others, and takes away the one that it
withdraws, whose context is then retired. -/
theorem Coheres.entries_next (hcoheres : card.Coheres config) (operation : Operation σ) :
    (card.next operation).registry.entries =
        (card.registry.entries ++ (card.enrols? operation).toList).filter
          (fun entry ↦ entry.context ∉ (card.withdraws? operation).toList) ∧
      ∀ context ∈ (card.withdraws? operation).toList,
        (card.next operation).Retired context := by
  have hnext := hcoheres.course (course_next card operation)
  have hstays : (card.next operation).registry = card.registry →
      card.enrols? operation = none → card.withdraws? operation = none →
      (card.next operation).registry.entries =
          (card.registry.entries ++ (card.enrols? operation).toList).filter
            (fun entry ↦ entry.context ∉ (card.withdraws? operation).toList) ∧
        ∀ context ∈ (card.withdraws? operation).toList,
          (card.next operation).Retired context := by
    intro hregistry henrols hwithdraws
    rw [hregistry, henrols, hwithdraws]
    simp
  cases operation with
  | install aid data factory =>
    rcases hcoheres.install_cases aid data factory with
      ⟨error, h⟩ | ⟨params, context, contexts, -, ⟨error, h⟩ | ⟨entry, rfl, -, h⟩⟩
    · exact hstays (by rw [next, h]) (by rw [enrols?, h]; rfl) rfl
    · exact hstays (by rw [next, h]; rfl) (by rw [enrols?, h]; rfl) rfl
    · have henrols : card.enrols? (.install aid data factory) = some entry := by
        rw [next, h] at hnext
        rw [enrols?, h]
        exact hnext.inContext?_eq_some (List.mem_append_right _ List.mem_cons_self)
      rw [henrols, next, h]
      simp [withdraws?]
  | uninstall aid =>
    cases hfound : card.registry.find? aid.bytes with
    | none =>
      refine hstays ?_ rfl ?_
      · rw [next, uninstall, hfound]
      · rw [withdraws?, hfound]
        rfl
    | some entry =>
      have hentry := List.mem_of_find?_eq_some hfound
      have hafter : card.next (.uninstall aid) = (card.dismiss entry).evict entry.context :=
        congrArg Prod.snd (uninstall_eq hfound)
      have hwithdraws : card.withdraws? (.uninstall aid) = some entry.context := by
        rw [withdraws?, hfound]
        rfl
      have hregistry : ((card.dismiss entry).evict entry.context).registry =
          card.registry.remove entry.context :=
        congrArg (Registry.remove · entry.context) (registry_dismiss card entry)
      rw [hwithdraws, hafter]
      constructor
      · have hnone : card.enrols? (.uninstall aid) = none := rfl
        rw [hregistry, Registry.entries_remove hcoheres.nodup_contexts, hnone]
        simp
      · intro context hcontext
        obtain rfl := List.mem_singleton.mp hcontext
        exact retired_evict (hcoheres.dismiss hentry) ((registry_dismiss card entry).symm ▸ hentry)
  | _ => exact hstays (registry_next (by simp) (by simp)) rfl rfl

/-- The applets installed after a run are those that were installed before it, and those that it has
installed, without those that it has removed. -/
theorem Coheres.entries_foldl (hcoheres : card.Coheres config)
    (operations : List (Operation σ)) :
    (operations.foldl next card).registry.entries =
      (card.registry.entries ++ card.enrolled operations).filter
        fun entry ↦ entry.context ∉ card.withdrawn operations := by
  induction operations generalizing card with
  | nil => simp [enrolled, withdrawn]
  | cons operation rest ih =>
    obtain ⟨hentries, hretired⟩ := hcoheres.entries_next operation
    have hlater : ((card.next operation).enrolled rest).filter
        (fun entry ↦ entry.context ∉ (card.withdraws? operation).toList) =
          (card.next operation).enrolled rest :=
      List.filter_eq_self.mpr fun entry hentry ↦ decide_eq_true fun hcontext ↦
        (hretired _ hcontext).not_enrolled rest entry hentry rfl
    rw [List.foldl_cons, ih (hcoheres.course (course_next card operation)), hentries, ← hlater,
      ← List.filter_append, List.filter_filter, enrolled, withdrawn, ← List.append_assoc]
    refine List.filter_congr fun entry _ ↦ ?_
    simp [and_comm]

/-- The applets installed on a card are those that its history has enrolled and not withdrawn, in
the order of their installation. -/
theorem entries_eq_standing {host : σ} (hcard : Card.ofConfig config host = .ok card)
    (operations : List (Operation σ)) :
    (operations.foldl next card).registry.entries = card.standing operations := by
  rw [(Coheres.ofConfig hcard).entries_foldl, standing]
  obtain ⟨_, -, rfl⟩ := eq_of_ofConfig hcard
  rfl

/-! ### Commands that select by identifier -/

section Selecting

variable {raw : List UInt8} {command : Command} {entry : Registration σ}

/-- Whether a command selects an applet by its identifier. -/
def SelectsByName (command : Command) : Prop :=
  isInstruction command Command.selectInstruction = true ∧ command.p1 = selectByName

/-- Whether an applet that a command selects agrees, once the channel has been left. -/
def agrees (card : Card σ) (command : Command) (entry : Registration σ) : Bool :=
  ((card.taken command).deselect command.channel).accepts command.channel entry

/-- The card on which an applet that a command selects has been asked. -/
def approached (card : Card σ) (command : Command) (entry : Registration σ) : Card σ :=
  (((card.taken command).deselect command.channel).seat command.channel entry).2

/-- Whether a card tries to select an applet, and no other, when it is sent a command. -/
structure Attempts (card : Card σ) (raw : List UInt8) (command : Command)
    (entry : Registration σ) : Prop where
  /-- An applet that is selected elsewhere and not meant for several channels is refused, and no
  hook is called. -/
  busy : card.isBusy command.channel entry = true →
    card.events [.transmit raw] = [] ∧
      card.transmit raw = (StatusWord.conditionsNotSatisfied.toBytes, card.taken command)
  /-- Otherwise what is selected on the channel is told to leave, the applet is asked, and if it
  agrees it handles the command. -/
  asked : card.isBusy command.channel entry = false →
    card.events [.transmit raw] =
      ((card.channels.selected command.channel).map (Event.deselect command.channel)).toList ++
        .select command.channel entry.context (card.agrees command entry) ::
          if card.agrees command entry then [.process command.channel entry.context true] else []
  /-- An applet that does not agree is not selected. -/
  refused : card.isBusy command.channel entry = false → card.agrees command entry = false →
    (card.transmit raw).1 = StatusWord.appletSelectFailed.toBytes ∧
      (card.transmit raw).2.channels.selected command.channel = none
  /-- An applet that agrees is selected. -/
  accepted : card.isBusy command.channel entry = false → card.agrees command entry = true →
    (card.route command).1 = .ok (.handled entry.context true) ∧
      (card.transmit raw).2.activeAid command.channel = some entry.aid

/-- Whether a card tries to select no applet when it is sent a command. -/
structure Passes (card : Card σ) (raw : List UInt8) (command : Command) : Prop where
  /-- No hook for selection or deselection is called. -/
  unmoved : ∀ event ∈ card.events [.transmit raw], ∀ channel, event.reseats channel = false
  selected_eq : ∀ channel,
    (card.transmit raw).2.channels.selected channel = card.channels.selected channel
  /-- The command goes to the applet selected on the channel. -/
  kept : ∀ context, card.channels.selected command.channel = some context →
    card.route command = (.ok (.handled context false), card.taken command)
  /-- Without one the card answers that there is no such applet. -/
  vacant : card.channels.selected command.channel = none →
    card.transmit raw = (StatusWord.fileNotFound.toBytes, card.taken command)

/-- The stages of a command that no applet handles. -/
theorem transmitStages_of_error {word : StatusWord} {routed : Card σ}
    (hparse : Command.parse raw card.config.extendedLength = .ok command)
    (hroute : card.route command = (.error word, routed)) :
    card.transmitStages raw = card.routeStages command := by
  rw [transmitStages, hparse]
  dsimp only
  rw [dispatchStages, hroute]
  exact List.append_nil _

/-- The stages of a command that an applet handles. -/
theorem transmitStages_of_handled {context : ContextId} {selecting : Bool} {routed : Card σ}
    (hparse : Command.parse raw card.config.extendedLength = .ok command)
    (hroute : card.route command = (.ok (.handled context selecting), routed)) :
    card.transmitStages raw =
      card.routeStages command ++ [.handle context command selecting] := by
  rw [transmitStages, hparse]
  dsimp only
  rw [dispatchStages, hroute]

/-- The events of one operation. -/
theorem events_singleton (card : Card σ) (operation : Operation σ) :
    card.events [operation] = card.eventsAlong (card.stages operation) := by
  rw [events, scenes, scenes, List.append_nil, eventsAlong]

theorem transmit_of_error {word : StatusWord} {routed : Card σ}
    (hparse : Command.parse raw card.config.extendedLength = .ok command)
    (hroute : card.route command = (.error word, routed)) :
    card.transmit raw = (word.toBytes, routed) := by
  rw [transmit_of_parse hparse, dispatch_of_error hroute]
  rfl

/-- A stage that is not about what is selected on a channel has no event that is. -/
theorem reseats_of_event? {stage : Stage σ} {channel : Nat} (hstays : stage.reseats channel = false)
    {event : Event} (hevent : card.event? stage = some event) : event.reseats channel = false := by
  cases stage with
  | leave moved =>
    obtain ⟨context, -, hfound⟩ := Option.bind_eq_some_iff.mp hevent
    obtain ⟨_, -, rfl⟩ := Option.map_eq_some_iff.mp hfound
    exact hstays
  | enter moved entry =>
    obtain rfl := Option.some.inj hevent
    exact hstays
  | handle context command selecting =>
    obtain ⟨_, -, rfl⟩ := Option.map_eq_some_iff.mp hevent
    rfl
  | install aid data factory =>
    obtain ⟨_, -, hcreated⟩ := Option.bind_eq_some_iff.mp hevent
    obtain ⟨_, -, rfl⟩ := Option.map_eq_some_iff.mp hcreated
    rfl
  | expel entry =>
    obtain rfl := Option.some.inj hevent
    rfl
  | inspect aid program =>
    obtain ⟨_, -, rfl⟩ := Option.map_eq_some_iff.mp hevent
    rfl
  | reset => exact Bool.noConfusion hstays
  | wait | reserve | shut | adjust | tell => cases hevent

/-- Taking the bytes that wait on a channel does not make an applet busy. -/
theorem isBusy_taken (card : Card σ) (command : Command) (channel : Nat)
    (entry : Registration σ) :
    (card.taken command).isBusy channel entry = card.isBusy channel entry := by
  have hselected : (card.taken command).channels.selected = card.channels.selected :=
    funext fun other ↦ ChannelTable.selected_setPending _ _ _ _
  have helsewhere : (card.taken command).channels.activeElsewhere entry.context channel =
      card.channels.activeElsewhere entry.context channel := by
    rw [Bool.eq_iff_iff, ← not_iff_not, Bool.not_eq_true, Bool.not_eq_true,
      ChannelTable.activeElsewhere_eq_false_iff, ChannelTable.activeElsewhere_eq_false_iff,
      hselected]
  rw [isBusy, isBusy, helsewhere]

/-- An applet that has been asked is selected if it agrees. -/
theorem selected_approached (hopen : card.channels.isOpen command.channel = true)
    (entry : Registration σ) :
    (card.approached command entry).channels.selected command.channel =
      if card.agrees command entry then some entry.context else none := by
  have hstill : ((card.taken command).channels.setSelected command.channel none).isOpen
      command.channel = true := by
    rw [ChannelTable.isOpen_setSelected]
    exact (ChannelTable.isOpen_setPending _ _ _ _).trans hopen
  rw [approached, channels_seat, seat_toOption, channels_deselect,
    ChannelTable.selected_setSelected_self hstill, agrees]
  cases Card.accepts _ command.channel entry <;> rfl

theorem registry_approached (card : Card σ) (command : Command) (entry : Registration σ) :
    (card.approached command entry).registry = card.registry :=
  (registry_seat _ _ _).trans (registry_deselect _ _)

/-- Asking an applet calls the hooks of what is selected on the channel and of the applet. -/
theorem events_approached (hcoheres : card.Coheres config) (command : Command)
    (entry : Registration σ) :
    card.eventsAlong
        [.wait command.channel [], .leave command.channel, .enter command.channel entry] =
      ((card.channels.selected command.channel).map (Event.deselect command.channel)).toList ++
        [.select command.channel entry.context (card.agrees command entry)] := by
  have hselected : (card.taken command).channels.selected command.channel =
      card.channels.selected command.channel := ChannelTable.selected_setPending _ _ _ _
  have hleave : (card.taken command).event? (.leave command.channel) =
      (card.channels.selected command.channel).map (Event.deselect command.channel) := by
    rw [event?, hselected]
    cases hseat : card.channels.selected command.channel with
    | none => rfl
    | some context =>
      obtain ⟨seated, hseated, rfl⟩ := hcoheres.seats.registered hseat
      have hthere : (card.taken command).registry.inContext? seated.context = some seated :=
        hcoheres.inContext?_eq_some hseated
      rw [Option.bind_some, hthere]
      rfl
  have htaken : card.perform (.wait command.channel []) = card.taken command := rfl
  rw [eventsAlong_cons, htaken, eventsAlong_cons, hleave]
  rfl

/-- A command that selects by identifier is none of the card's other commands. -/
theorem SelectsByName.decided (hselects : SelectsByName command) :
    command.classByte ≠ invalidClass ∧
      isInstruction command Command.getResponseInstruction = false ∧
      isInstruction command Command.manageChannelInstruction = false ∧
      (isInstruction command Command.selectInstruction && command.p1 == selectByName) = true := by
  obtain ⟨hselect, hname⟩ := hselects
  refine ⟨classByte_ne_invalid hselect, isInstruction_eq_false hselect (by decide),
    isInstruction_eq_false hselect (by decide), ?_⟩
  rw [hselect, hname]
  rfl

section Reached

variable (hselects : SelectsByName command)
  (hopen : card.channels.isOpen command.channel = true)

include hselects hopen

/-- A command that selects by identifier takes the bytes that wait and selects. -/
theorem route_of_selectsByName :
    card.route command = (card.taken command).routeSelection command.channel command := by
  obtain ⟨hvalid, hfetch, hmanage, hchosen⟩ := hselects.decided
  unfold route
  dsimp only
  rw [if_neg hvalid, hopen, Bool.not_true, if_neg Bool.false_ne_true, hfetch, Bool.false_and,
    if_neg Bool.false_ne_true, hmanage, if_neg Bool.false_ne_true, if_pos hchosen]
  rfl

theorem routeStages_of_selectsByName :
    card.routeStages command = .wait command.channel [] ::
      (card.taken command).routeSelectionStages command.channel command := by
  obtain ⟨hvalid, hfetch, hmanage, hchosen⟩ := hselects.decided
  unfold routeStages
  dsimp only
  rw [if_neg hvalid, hopen, Bool.not_true, if_neg Bool.false_ne_true, hfetch, Bool.false_and,
    if_neg Bool.false_ne_true, hmanage, if_neg Bool.false_ne_true, if_pos hchosen]
  rfl

/-- If the command names no applet, no selection is tried. -/
theorem passes_of_resolve?_eq_none
    (hparse : Command.parse raw card.config.extendedLength = .ok command)
    (hnone : card.registry.resolve? command.data = none) : card.Passes raw command := by
  have hnothing : (card.taken command).registry.resolve? command.data = none := hnone
  have hselected : (card.taken command).channels.selected command.channel =
      card.channels.selected command.channel := ChannelTable.selected_setPending _ _ _ _
  have hroute : card.route command =
      ((card.taken command).routeSelected command.channel .fileNotFound, card.taken command) := by
    rw [route_of_selectsByName hselects hopen, routeSelection, hnothing]
  have hkept : ∀ context, card.channels.selected command.channel = some context →
      card.route command = (.ok (.handled context false), card.taken command) := by
    intro context hcontext
    rw [hroute, routeSelected, hselected, hcontext]
  have hvacant : card.channels.selected command.channel = none →
      card.route command = (.error .fileNotFound, card.taken command) := by
    intro hvacant
    rw [hroute, routeSelected, hselected, hvacant]
  have hstages : ∀ channel, ∀ stage ∈ card.transmitStages raw, stage.reseats channel = false := by
    intro channel
    have hrouted : ∀ stage ∈ card.routeStages command, stage.reseats channel = false := by
      rw [routeStages_of_selectsByName hselects hopen, routeSelectionStages, hnothing]
      exact List.forall_mem_singleton.mpr rfl
    cases hfound : card.channels.selected command.channel with
    | none =>
      rw [transmitStages_of_error hparse (hvacant hfound)]
      exact hrouted
    | some context =>
      rw [transmitStages_of_handled hparse (hkept context hfound)]
      exact List.forall_mem_append.mpr ⟨hrouted, List.forall_mem_singleton.mpr rfl⟩
  constructor
  case unmoved =>
    intro event hevent channel
    rw [events_singleton, eventsAlong] at hevent
    obtain ⟨scene, hscene, hevent⟩ := List.mem_filterMap.mp hevent
    exact reseats_of_event? (hstages channel scene.2 (mem_of_mem_along hscene)) hevent
  case selected_eq =>
    intro channel
    rw [← foldl_transmitStages]
    exact selected_foldl (hstages channel)
  case kept => exact hkept
  case vacant => exact fun hnone ↦ transmit_of_error hparse (hvacant hnone)

section Named

variable (hcoheres : card.Coheres config)
  (hresolved : card.registry.resolve? command.data = some entry)

include hcoheres hresolved

/-- A command that names a busy applet is refused. -/
theorem route_of_busy (hbusy : card.isBusy command.channel entry = true) :
    card.route command = (.error .conditionsNotSatisfied, card.taken command) ∧
      card.routeStages command = [.wait command.channel []] := by
  have hfound : (card.taken command).registry.inContext? entry.context = some entry :=
    hcoheres.inContext?_eq_some (Registry.mem_of_resolve? hresolved)
  have hnamed : (card.taken command).registry.resolve? command.data = some entry := hresolved
  have hstill := (isBusy_taken card command command.channel entry).trans hbusy
  rw [route_of_selectsByName hselects hopen, routeStages_of_selectsByName hselects hopen,
    routeSelection, routeSelectionStages, hnamed]
  dsimp only
  rw [selectContext_of_isBusy hfound hstill, selectContextStages, hfound]
  dsimp only
  rw [hstill]
  exact ⟨rfl, rfl⟩

/-- A command that names an applet that is not busy has it asked. -/
theorem route_of_free (hfree : card.isBusy command.channel entry = false) :
    card.route command =
        (if card.agrees command entry then .ok (.handled entry.context true)
          else .error .appletSelectFailed, card.approached command entry) ∧
      card.routeStages command =
        [.wait command.channel [], .leave command.channel, .enter command.channel entry] := by
  have hfound : (card.taken command).registry.inContext? entry.context = some entry :=
    hcoheres.inContext?_eq_some (Registry.mem_of_resolve? hresolved)
  have hnamed : (card.taken command).registry.resolve? command.data = some entry := hresolved
  have hstill := (isBusy_taken card command command.channel entry).trans hfree
  have hseated := ((card.taken command).deselect command.channel).seat_fst command.channel entry
  rw [route_of_selectsByName hselects hopen, routeStages_of_selectsByName hselects hopen,
    routeSelection, routeSelectionStages, hnamed]
  dsimp only
  rw [selectContext_eq hfound hstill, selectContextStages, hfound]
  dsimp only
  rw [hstill]
  refine ⟨?_, rfl⟩
  unfold agrees approached
  generalize ((card.taken command).deselect command.channel).seat command.channel entry = seated
    at hseated ⊢
  obtain ⟨outcome, after⟩ := seated
  obtain rfl : outcome = _ := hseated
  cases Card.accepts _ command.channel entry <;> rfl

/-- If the command names an applet, the card tries to select this one. -/
theorem attempts_of_resolve?
    (hparse : Command.parse raw card.config.extendedLength = .ok command) :
    card.Attempts raw command entry := by
  have hentry := Registry.mem_of_resolve? hresolved
  have hselected := selected_approached hopen entry
  have hevents := events_approached hcoheres command entry
  constructor
  case busy =>
    intro hbusy
    obtain ⟨hroute, hstages⟩ := route_of_busy hselects hopen hcoheres hresolved hbusy
    refine ⟨?_, transmit_of_error hparse hroute⟩
    rw [events_singleton, stages, transmitStages_of_error hparse hroute, hstages]
    rfl
  case refused =>
    intro hfree hrefuses
    obtain ⟨hroute, -⟩ := route_of_free hselects hopen hcoheres hresolved hfree
    rw [hrefuses, if_neg Bool.false_ne_true] at hroute hselected
    rw [transmit_of_error hparse hroute]
    exact ⟨rfl, hselected⟩
  case accepted =>
    intro hfree hagrees
    obtain ⟨hroute, -⟩ := route_of_free hselects hopen hcoheres hresolved hfree
    rw [hagrees, if_pos rfl] at hroute hselected
    have hafter : (card.transmit raw).2 =
        (card.approached command entry).perform (.handle entry.context command true) := by
      rw [← foldl_transmitStages, transmitStages_of_handled hparse hroute, List.foldl_append,
        foldl_routeStages, hroute]
      rfl
    have hkept : (card.transmit raw).2.registry = card.registry := by
      rw [hafter, registry_perform rfl, registry_approached]
    refine ⟨congrArg Prod.fst hroute, ?_⟩
    rw [activeAid, hkept, hafter, selected_perform rfl, hselected]
    simp [hcoheres.inContext?_eq_some hentry]
  case asked =>
    intro hfree
    obtain ⟨hroute, hstages⟩ := route_of_free hselects hopen hcoheres hresolved hfree
    cases hagrees : card.agrees command entry with
    | false =>
      rw [hagrees, if_neg Bool.false_ne_true] at hroute
      rw [events_singleton, stages, transmitStages_of_error hparse hroute, hstages, hevents,
        hagrees]
      rfl
    | true =>
      rw [hagrees, if_pos rfl] at hroute
      have hhandled : (card.approached command entry).event? (.handle entry.context command true) =
          some (.process command.channel entry.context true) := by
        rw [event?, registry_approached, hcoheres.inContext?_eq_some hentry]
        rfl
      have hasked := card.foldl_routeStages command
      rw [hroute, hstages] at hasked
      rw [events_singleton, stages, transmitStages_of_handled hparse hroute, hstages,
        eventsAlong_append, hevents, hagrees, hasked, eventsAlong_cons, hhandled, List.append_assoc]
      rfl

end Named

end Reached

end Selecting

/-! ### Every history of a card -/

/-- What becomes of a command that selects by identifier, on a card with some applets installed, the
oldest first. -/
structure Resolves (card : Card σ) (standing : List (Registration σ)) (raw : List UInt8)
    (command : Command) : Prop where
  /-- The applet with just this identifier is the one, whatever the others are called. -/
  whole : ∀ entry ∈ standing, entry.aid.bytes = command.data → card.Attempts raw command entry
  /-- Without one it is the oldest whose identifier begins with what is given, if that is enough. -/
  start : (∀ entry ∈ standing, entry.aid.bytes ≠ command.data) → 5 ≤ command.data.length →
    (∃ entry ∈ standing, command.data <+: entry.aid.bytes) →
      ∃ earlier entry later, standing = earlier ++ entry :: later ∧
        command.data <+: entry.aid.bytes ∧
        (∀ other ∈ earlier, ¬command.data <+: other.aid.bytes) ∧ card.Attempts raw command entry
  /-- Without that it is none. -/
  neither : (∀ entry ∈ standing, entry.aid.bytes ≠ command.data ∧
    (5 ≤ command.data.length → ¬command.data <+: entry.aid.bytes)) → card.Passes raw command

/-- What a command selects on a coherent card. -/
theorem Coheres.resolves (hcoheres : card.Coheres config) {raw : List UInt8} {command : Command}
    (hparse : Command.parse raw card.config.extendedLength = .ok command)
    (hselects : SelectsByName command) (hopen : card.channels.isOpen command.channel = true) :
    card.Resolves card.registry.entries raw command where
  whole := fun entry hentry hbytes ↦ attempts_of_resolve? hselects hopen hcoheres
    (Registry.resolve?_of_bytes hcoheres.isOrderly.aids_nodup hentry hbytes) hparse
  start := fun hnone hlength hstart ↦ by
    obtain ⟨earlier, entry, later, hsplit, hbytes, hearlier, hresolved⟩ :=
      Registry.resolve?_of_start hnone hlength hstart
    exact ⟨earlier, entry, later, hsplit, hbytes, hearlier,
      attempts_of_resolve? hselects hopen hcoheres hresolved hparse⟩
  neither := fun hnone ↦
    passes_of_resolve?_eq_none hselects hopen hparse (Registry.resolve?_eq_none_iff.mpr hnone)

/-- The command that selects some bytes on the basic channel. -/
theorem selectsByName_select (bytes : List UInt8) :
    SelectsByName (.select bytes) ∧ (Command.select bytes).channel = 0 := by
  have hinstruction : (((0 : UInt8) &&& 0x80 == 0) && ((0xA4 : UInt8) == 0xA4)) = true := by decide
  have hchannel : Command.channelOfClass 0 = 0 := by decide
  exact ⟨⟨hinstruction, rfl⟩, hchannel⟩

/-- The command that selects an applet by its whole identifier can be sent to every card. -/
theorem exists_parse_select (aid : Aid) (allowed : Bool) :
    ∃ raw, Command.parse raw allowed = .ok (.select aid.bytes) := by
  have hlength : (UInt8.ofNat aid.bytes.length).toNat = aid.bytes.length :=
    UInt8.toNat_ofNat_of_lt' (Nat.lt_of_le_of_lt aid.length_le_sixteen (by decide))
  have hdata : aid.bytes ≠ [] := by
    intro hnil
    have hfive := aid.five_le_length
    rw [hnil] at hfive
    cases hfive
  exact ⟨_, Command.parse_eq_ok_iff.mpr ⟨_, .sending 0 _ 4 0 hdata hlength,
    fun hextended ↦ Bool.noConfusion hextended⟩⟩

/-- Whatever is done to a card after power-up, a command that selects by identifier finds the applet
that has just this identifier among those installed and not removed since. Without one it finds the
oldest whose identifier begins with what is given, if that is at least five bytes, and without that
none. On the applet found, and no other, a selection is tried. So every applet installed can be
selected by its whole identifier on the basic channel, unless it is busy on another or does not
agree. -/
theorem selections_resolved {host : σ} (hcard : Card.ofConfig config host = .ok card)
    (operations : List (Operation σ)) :
    let after := operations.foldl next card
    after.registry.entries = card.standing operations ∧
    (∀ raw command, Command.parse raw after.config.extendedLength = .ok command →
      SelectsByName command → after.channels.isOpen command.channel = true →
        after.Resolves (card.standing operations) raw command) ∧
    ∀ entry ∈ card.standing operations,
      ∃ raw, Command.parse raw after.config.extendedLength = .ok (.select entry.aid.bytes) ∧
        after.Attempts raw (.select entry.aid.bytes) entry := by
  intro after
  have hentries := entries_eq_standing hcard operations
  have hcoheres : after.Coheres config := (Coheres.ofConfig hcard).foldl operations
  refine ⟨hentries, fun raw command hparse hselects hopen ↦ ?_, fun entry hentry ↦ ?_⟩
  · rw [← hentries]
    exact hcoheres.resolves hparse hselects hopen
  · obtain ⟨raw, hparse⟩ := exists_parse_select entry.aid after.config.extendedLength
    obtain ⟨hselects, hbasic⟩ := selectsByName_select entry.aid.bytes
    have hresolves := hcoheres.resolves hparse hselects (hbasic ▸ hcoheres.seats.basic)
    exact ⟨raw, hparse, hresolves.whole entry (hentries ▸ hentry) rfl⟩

/-- An applet whose identifier begins another's is selected by it, although the other is older; with
one byte more the command names the other. -/
theorem selections_resolved_related :
    let config : Config := { atr := "3B" }
    let card : Card Unit := {
      config := config
      atr := [0x3B]
      platform := ⟨.empty config.quotas config.commitCapacity, .initial⟩
      registry := .empty config.maxApplets
      channels := .initial config.logicalChannels
      host := () }
    let removed : Aid := ⟨[0xA0, 0, 0, 0, 1, 7, 1], by decide, by decide⟩
    let longer : Aid := ⟨[0xA0, 0, 0, 0, 1, 7, 2], by decide, by decide⟩
    let shorter : Aid := ⟨[0xA0, 0, 0, 0, 1], by decide, by decide⟩
    let factory : Factory Unit := fun _ ↦ do
      Code.register
      return { process := Code.refuse .noError }
    let operations : List (Operation Unit) :=
      [.install removed [] factory, .install longer [] factory, .install shorter [] factory,
        .uninstall removed]
    let whole : List UInt8 := [0, 0xA4, 4, 0, 5, 0xA0, 0, 0, 0, 1]
    let start : List UInt8 := [0, 0xA4, 4, 0, 6, 0xA0, 0, 0, 0, 1, 7]
    Card.ofConfig config () = .ok card ∧
      (card.standing operations).map (·.aid) = [longer, shorter] ∧
      ((operations.foldl next card).transmit whole).2.activeAid 0 = some shorter ∧
      ((operations.foldl next card).transmit start).2.activeAid 0 = some longer ∧
      ∀ raw data, (raw, data) ∈ [(whole, shorter.bytes), (start, longer.bytes.take 6)] →
        (operations.foldl next card).Resolves (card.standing operations) raw (.select data) := by
  intro config card removed longer shorter factory operations whole start
  have hvalid : config.validate = .ok () := by decide
  have hatr : config.readAtr = .ok [0x3B] := by decide
  have hpowered : Card.ofConfig config () = .ok card := by rw [Card.ofConfig, hvalid, hatr]
  have hstanding : (card.standing operations).map (·.aid) = [longer, shorter] := by decide +kernel
  have hwhole : ((operations.foldl next card).transmit whole).2.activeAid 0 = some shorter := by
    decide +kernel
  have hstart : ((operations.foldl next card).transmit start).2.activeAid 0 = some longer := by
    decide +kernel
  have hopen : (operations.foldl next card).channels.isOpen 0 = true := by decide +kernel
  have hparse : ∀ raw data, (raw, data) ∈ [(whole, shorter.bytes), (start, longer.bytes.take 6)] →
      ∀ allowed, Command.parse raw allowed = .ok (.select data) := by
    intro raw data hsent allowed
    rcases List.mem_cons.mp hsent with hpair | hpair
    · cases hpair
      rfl
    · cases List.mem_singleton.mp hpair
      rfl
  refine ⟨hpowered, hstanding, hwhole, hstart, fun raw data hsent ↦ ?_⟩
  obtain ⟨hselects, hbasic⟩ := selectsByName_select data
  obtain ⟨-, hresolves, -⟩ := selections_resolved hpowered operations
  exact hresolves raw _ (hparse raw data hsent _) hselects (hbasic.symm ▸ hopen)

end Card

end SmartCard
