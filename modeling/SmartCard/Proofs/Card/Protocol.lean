import Mathlib.Data.List.Sigma
import SmartCard.Proofs.Card.Departure

/-!
# The protocol of the hooks

An applet is called through hooks: it is asked whether it accepts a channel, it handles commands on
the channel, it is told that it leaves it, and it is told that it is removed. `Card.event?` is the
call of a hook in a stage, or a reset, and `Card.events` lists them for a run; they are the pieces
of code that the run executes, in order (`Card.frames_eq`), and the run is the course of these
pieces (`Card.course_foldl`).

What is selected on a channel is what accepted it last and has not left it since
(`Event.lastAccepted_iff`), because each event changes the selection in its own way
(`Card.selected_perform_event`) and comes only where the selection allows it (`Event.Fits`). The
protocol follows (`Card.hooks_follow_protocol`): commands and farewells come only after an
acceptance that still holds, nobody is asked while somebody else has not left, and an applet that is
removed has left all its channels, and no code of it runs any more, since its context is never used
again (`Card.Retired`).
-/

set_option autoImplicit false
set_option relaxedAutoImplicit false

namespace SmartCard

/-- In the beginning nothing is selected. -/
theorem ChannelTable.selected_initial (count channel : Nat) :
    (initial count).selected channel = none := by
  cases hselected : (initial count).selected channel with
  | none => rfl
  | some context =>
    have hseats := seats_initial count (Registry.empty 0 : Registry Unit)
    obtain ⟨_, hentry, -⟩ := hseats.registered hselected
    exact absurd hentry List.not_mem_nil

/-- No channel is listed twice. -/
theorem ChannelTable.nodup_channelsOf (table : ChannelTable) (context : ContextId) :
    (table.channelsOf context).Nodup := by
  unfold channelsOf channelsWhere
  exact (List.nodup_zipIdx_map_snd table.channels).sublist (List.filter_sublist.map Prod.snd)

/-! ### Events -/

/-- A hook called, or a reset, which calls none. -/
inductive Event where
  | install (context : ContextId)
  | select (channel : Nat) (context : ContextId) (accepted : Bool)
  | deselect (channel : Nat) (context : ContextId)
  | process (channel : Nat) (context : ContextId) (selecting : Bool)
  | inspect (context : ContextId)
  | uninstall (context : ContextId)
  | reset
  deriving DecidableEq, Repr

namespace Event

/-- The frame that the code of an event runs in. -/
def frame? : Event → Option Frame
  | .select channel context _ => some ⟨context, channel, true⟩
  | .deselect channel context => some ⟨context, channel, false⟩
  | .process channel context selecting => some ⟨context, channel, selecting⟩
  | .install context | .inspect context | .uninstall context => some ⟨context, 0, false⟩
  | .reset => none

/-- The context whose code runs in an event. -/
def context? (event : Event) : Option ContextId :=
  event.frame?.map (·.context)

/-- Whether an event may change what is selected on a channel. -/
def reseats (channel : Nat) : Event → Bool
  | .select moved _ _ | .deselect moved _ => moved == channel
  | .reset => true
  | _ => false

/-- What is selected on a channel after an event. -/
def seated (channel : Nat) (before : Option ContextId) : Event → Option ContextId
  | .select moved context accepted =>
    if moved = channel then (if accepted then some context else none) else before
  | .deselect moved _ => if moved = channel then none else before
  | .reset => none
  | _ => before

/-- Whether what is selected on the channels allows an event. -/
def Fits (selected : Nat → Option ContextId) : Event → Prop
  | .select channel _ _ => selected channel = none
  | .deselect channel context | .process channel context _ => selected channel = some context
  | .uninstall context => ∀ channel, selected channel ≠ some context
  | .install _ | .inspect _ | .reset => True

/-- Whether an applet accepted a channel in some events and nothing came after that has changed the
selection there. -/
def LastAccepted (events : List Event) (channel : Nat) (context : ContextId) : Prop :=
  ∃ earlier since, events = earlier ++ .select channel context true :: since ∧
    ∀ event ∈ since, event.reseats channel = false

theorem seated_of_not_reseats {event : Event} {channel : Nat}
    (hstays : event.reseats channel = false) (before : Option ContextId) :
    event.seated channel before = before := by
  cases event with
  | select moved context accepted | deselect moved context => exact if_neg (ne_of_beq_false hstays)
  | reset => exact Bool.noConfusion hstays
  | install | process | inspect | uninstall => rfl

/-- An event after which something is selected that changes the selection is an acceptance. -/
theorem eq_select_of_seated {event : Event} {channel : Nat} {before : Option ContextId}
    {context : ContextId} (hmoves : event.reseats channel = true)
    (hseated : event.seated channel before = some context) :
    event = .select channel context true := by
  cases event with
  | select moved asked accepted =>
    obtain rfl := eq_of_beq hmoves
    rw [seated, if_pos rfl] at hseated
    cases accepted with
    | false => cases hseated
    | true =>
      cases hseated
      rfl
  | deselect moved left =>
    rw [seated, if_pos (eq_of_beq hmoves)] at hseated
    cases hseated
  | reset => cases hseated
  | install | process | inspect | uninstall => exact Bool.noConfusion hmoves

/-- What is selected after some events is what accepted last. -/
theorem lastAccepted_iff {events : List Event} {channel : Nat} {context : ContextId} :
    LastAccepted events channel context ↔ events.foldl (seated channel) none = some context := by
  induction events using List.reverseRecOn with
  | nil =>
    refine iff_of_false ?_ (Option.some_ne_none context).symm
    rintro ⟨earlier, since, hsplit, -⟩
    exact List.append_ne_nil_of_right_ne_nil earlier (List.cons_ne_nil _ _) hsplit.symm
  | append_singleton events event ih =>
    rw [List.foldl_append, List.foldl_cons, List.foldl_nil]
    cases hmoves : event.reseats channel with
    | false =>
      rw [seated_of_not_reseats hmoves, ← ih]
      constructor
      · rintro ⟨earlier, since, hsplit, hsince⟩
        rcases List.eq_nil_or_concat since with rfl | ⟨since, last, rfl⟩
        · obtain ⟨-, hlast⟩ := List.append_inj' hsplit rfl
          rw [(List.cons.inj hlast).1, reseats, beq_self_eq_true] at hmoves
          cases hmoves
        · rw [List.concat_eq_append, ← List.cons_append, ← List.append_assoc] at hsplit
          obtain ⟨hsplit, -⟩ := List.append_inj' hsplit rfl
          exact ⟨earlier, since, hsplit, fun other hother ↦
            hsince other (List.concat_eq_append ▸ List.mem_append_left _ hother)⟩
      · rintro ⟨earlier, since, rfl, hsince⟩
        refine ⟨earlier, since ++ [event], by rw [List.append_assoc, List.cons_append], ?_⟩
        exact List.forall_mem_append.mpr ⟨hsince, List.forall_mem_singleton.mpr hmoves⟩
    | true =>
      constructor
      · rintro ⟨earlier, since, hsplit, hsince⟩
        rcases List.eq_nil_or_concat since with rfl | ⟨since, last, rfl⟩
        · obtain ⟨-, hlast⟩ := List.append_inj' hsplit rfl
          rw [(List.cons.inj hlast).1, seated, if_pos rfl, if_pos rfl]
        · rw [List.concat_eq_append, ← List.cons_append, ← List.append_assoc] at hsplit
          obtain ⟨-, hlast⟩ := List.append_inj' hsplit rfl
          have hstays := hsince last (List.concat_eq_append ▸ List.mem_append_right _
            (List.mem_singleton_self last))
          rw [← (List.cons.inj hlast).1, hmoves] at hstays
          cases hstays
      · intro hseated
        refine ⟨events, [], ?_, List.forall_mem_nil _⟩
        rw [eq_select_of_seated hmoves hseated]

end Event

namespace Card

variable {σ : Type}

/-- Whether an applet says, when it is asked, that it accepts a channel. -/
def accepts (card : Card σ) (channel : Nat) (entry : Registration σ) : Bool :=
  ((card.setSelected channel (some entry.context)).activate ⟨entry.context, channel, true⟩
    entry.applet.select).1 == .value true

/-- The event of a stage. -/
def event? (card : Card σ) : Stage σ → Option Event
  | .leave channel => (card.channels.selected channel).bind fun context ↦
      (card.registry.inContext? context).map fun _ ↦ .deselect channel context
  | .enter channel entry => some (.select channel entry.context (card.accepts channel entry))
  | .handle context command selecting =>
    (card.registry.inContext? context).map fun _ ↦ .process command.channel context selecting
  | .install aid data _ => (card.admitInstall aid data).toOption.bind fun _ ↦
      card.platform.contexts.create.map fun created ↦ .install created.1
  | .expel entry => some (.uninstall entry.context)
  | .inspect aid _ => (card.registry.find? aid.bytes).map fun entry ↦ .inspect entry.context
  | .reset => some .reset
  | .wait _ _ | .reserve _ | .shut _ | .adjust _ | .tell _ => none

/-- The events of a run, in order. -/
def events (card : Card σ) (operations : List (Operation σ)) : List Event :=
  (scenes card operations).filterMap fun scene ↦ scene.1.event? scene.2

/-- The code of a stage runs in the frame of its event. -/
theorem map_frame_stagePieces (card : Card σ) (stage : Stage σ) :
    (card.stagePieces stage).map (·.start.frame) =
      ((card.event? stage).bind Event.frame?).toList := by
  cases stage with
  | leave channel =>
    rw [stagePieces, event?, deselectPieces]
    cases card.channels.selected channel with
    | none => rfl
    | some context =>
      have hsame : (card.setSelected channel none).registry.inContext? context =
          card.registry.inContext? context := rfl
      dsimp only
      rw [hsame, Option.bind_some]
      cases card.registry.inContext? context <;> rfl
  | handle context command selecting =>
    rw [stagePieces, event?, processPieces]
    cases card.registry.inContext? context <;> rfl
  | install aid data factory =>
    rw [stagePieces, event?, installPieces]
    cases card.admitInstall aid data with
    | error error => rfl
    | ok params =>
      dsimp only [Except.toOption, Option.bind_some]
      cases card.platform.contexts.create <;> rfl
  | inspect aid program =>
    rw [stagePieces, event?, inspectPieces]
    cases card.registry.find? aid.bytes <;> rfl
  | enter | expel | reset | wait | reserve | shut | adjust | tell => rfl

/-- The events of a run are its pieces of code, beside the resets. -/
theorem frames_eq (card : Card σ) (operations : List (Operation σ)) :
    (card.runPieces operations).map (·.start.frame) =
      (card.events operations).filterMap Event.frame? := by
  have halong : ∀ (card : Card σ) (stages : List (Stage σ)),
      (card.piecesAlong stages).map (·.start.frame) =
        ((along card stages).filterMap fun scene ↦ scene.1.event? scene.2).filterMap
          Event.frame? := by
    intro card stages
    induction stages generalizing card with
    | nil => rfl
    | cons stage rest ih =>
      rw [piecesAlong_cons, List.map_append, map_frame_stagePieces, ih, along,
        List.filterMap_cons]
      cases card.event? stage with
      | none => rfl
      | some event =>
        dsimp only
        rw [List.filterMap_cons, Option.bind_some]
        cases event.frame? <;> rfl
  induction operations generalizing card with
  | nil => rfl
  | cons operation rest ih =>
    rw [runPieces, List.map_append, pieces, halong, ih]
    unfold events
    rw [scenes, List.filterMap_append, List.filterMap_append]

/-! ### What events do to the selection -/

section Step

variable {card : Card σ} {config : Config} {stage : Stage σ}

/-- An applet that is asked to be selected is selected if it says so. -/
theorem seat_fst (card : Card σ) (channel : Nat) (entry : Registration σ) :
    (card.seat channel entry).1 =
      if card.accepts channel entry then .ok () else .error .appletSelectFailed := by
  unfold seat accepts
  dsimp only
  generalize activate _ _ entry.applet.select = outcome
  obtain ⟨(_ | _) | _, asked⟩ := outcome <;> rfl

theorem seat_toOption (card : Card σ) (channel : Nat) (entry : Registration σ) :
    (card.seat channel entry).1.toOption =
      if card.accepts channel entry then some () else none := by
  rw [seat_fst]
  cases card.accepts channel entry <;> rfl

/-- A stage changes what is selected on a channel just as its event says. -/
theorem selected_perform_event (hcoheres : card.Coheres config) (hready : stage.IsReady card)
    (hvacant : ∀ channel, stage.vacant? = some channel → card.channels.selected channel = none)
    (channel : Nat) :
    (card.perform stage).channels.selected channel =
      (card.event? stage).elim (card.channels.selected channel)
        (Event.seated channel (card.channels.selected channel)) := by
  cases stage with
  | leave moved =>
    rw [perform, channels_deselect, ChannelTable.selected_setSelected_none, event?]
    cases hselected : card.channels.selected moved with
    | none =>
      by_cases hmoved : moved = channel
      · rw [if_pos hmoved, ← hmoved, hselected]
        rfl
      · exact if_neg hmoved
    | some context =>
      obtain ⟨entry, hentry, rfl⟩ := hcoheres.seats.registered hselected
      rw [Option.bind_some, hcoheres.inContext?_eq_some hentry]
      rfl
  | enter moved entry =>
    rw [perform, channels_seat, seat_toOption, event?]
    by_cases hmoved : moved = channel
    · subst hmoved
      rw [ChannelTable.selected_setSelected_self hready.2.1, Option.elim_some, Event.seated,
        if_pos rfl]
      cases card.accepts moved entry <;> rfl
    · rw [ChannelTable.selected_setSelected_of_ne _ hmoved]
      exact (if_neg hmoved).symm
  | shut moved =>
    cases hmoves : (Stage.shut moved : Stage σ).reseats channel with
    | false => exact selected_perform hmoves card
    | true =>
      have hmoved := Bool.and_eq_true_iff.mp hmoves
      obtain rfl := eq_of_beq hmoved.1
      rw [hvacant moved rfl, perform, ChannelTable.close, if_neg (bne_iff_ne.mp hmoved.2),
        ChannelTable.selected_modify, if_pos rfl]
      cases card.channels.channels[moved]? <;> rfl
  | reset => exact ChannelTable.selected_initial _ channel
  | handle context command selecting =>
    rw [selected_perform rfl, event?]
    cases card.registry.inContext? context <;> rfl
  | install aid data factory =>
    rw [selected_perform rfl, event?]
    cases (card.admitInstall aid data).toOption with
    | none => rfl
    | some params => cases card.platform.contexts.create <;> rfl
  | inspect aid program =>
    rw [selected_perform rfl, event?]
    cases card.registry.find? aid.bytes <;> rfl
  | wait | reserve | expel | adjust | tell => exact selected_perform rfl card

/-- The event of a stage comes where the selection allows it. -/
theorem fits_event (hready : stage.IsReady card)
    (hvacant : ∀ channel, stage.vacant? = some channel → card.channels.selected channel = none)
    {event : Event} (hevent : card.event? stage = some event) :
    event.Fits card.channels.selected := by
  cases stage with
  | leave channel =>
    obtain ⟨context, hselected, hfound⟩ := Option.bind_eq_some_iff.mp hevent
    obtain ⟨_, -, rfl⟩ := Option.map_eq_some_iff.mp hfound
    exact hselected
  | enter channel entry =>
    obtain rfl := Option.some.inj hevent
    exact hvacant channel rfl
  | handle context command selecting =>
    obtain ⟨_, -, rfl⟩ := Option.map_eq_some_iff.mp hevent
    exact hready.2
  | install aid data factory =>
    obtain ⟨_, -, hcreated⟩ := Option.bind_eq_some_iff.mp hevent
    obtain ⟨_, -, rfl⟩ := Option.map_eq_some_iff.mp hcreated
    trivial
  | expel entry =>
    obtain rfl := Option.some.inj hevent
    exact ChannelTable.channelsOf_eq_nil_iff.mp hready.2
  | inspect aid program =>
    obtain ⟨_, -, rfl⟩ := Option.map_eq_some_iff.mp hevent
    trivial
  | reset =>
    obtain rfl := Option.some.inj hevent
    trivial
  | wait | reserve | shut | adjust | tell => cases hevent

end Step

/-! ### Contexts that are not used again -/

/-- Whether a context has been used and belongs to no applet any more. -/
structure Retired (card : Card σ) (context : ContextId) : Prop where
  lt_nextId : context.number < card.platform.contexts.nextId
  not_registered : ∀ entry ∈ card.registry.entries, entry.context ≠ context

section Retired

variable {card after : Card σ} {config : Config} {context : ContextId}

/-- Code that runs makes no contexts. -/
theorem nextId_stop (piece : Piece σ) :
    piece.stop.platform.contexts.nextId = piece.start.platform.contexts.nextId := by
  refine @Piece.keeps σ (fun session ↦ session.platform.contexts.nextId =
    piece.start.platform.contexts.nextId) (fun session service hsession ↦ ?_) piece rfl
  have heffect := session.effect_answer service
  generalize (Session.answer service session).2 = answered at heffect
  cases heffect <;> exact hsession

/-- Whatever is done to a card, a retired context stays retired. -/
theorem Retired.course {pieces : List (Piece σ)} (hretired : card.Retired context)
    (hcourse : Course card pieces after) : after.Retired context := by
  induction hcourse with
  | refl => exact hretired
  | trans _ _ ihfirst ihsecond => exact ihsecond (ihfirst hretired)
  | upkeep | told | rearrange => exact ⟨hretired.lt_nextId, hretired.not_registered⟩
  | @run card entry piece hentry hcontext hplatform hinstall =>
    refine ⟨?_, hretired.not_registered⟩
    have hnext := nextId_stop piece
    rw [hplatform] at hnext
    exact hnext.symm ▸ hretired.lt_nextId
  | @abandon card fresh contexts piece params hcreate hstart =>
    have hnext := nextId_stop piece
    obtain ⟨rfl, rfl⟩ := ContextTable.create_eq_some hcreate
    rw [hstart] at hnext
    refine ⟨?_, hretired.not_registered⟩
    have hlt : context.number < piece.stop.platform.contexts.nextId :=
      hnext.symm ▸ Nat.lt_succ_of_lt hretired.lt_nextId
    exact (ContextTable.nextId_remove piece.stop.platform.contexts _).symm ▸ hlt
  | @install card fresh contexts piece params aid applet registry hcreate hstart hregistered
      hinsert =>
    have hnext := nextId_stop piece
    obtain ⟨rfl, rfl⟩ := ContextTable.create_eq_some hcreate
    rw [hstart] at hnext
    obtain ⟨rfl, -, -⟩ := Registry.insert_eq_ok hinsert
    refine ⟨?_, ?_⟩
    · exact hnext.symm ▸ Nat.lt_succ_of_lt hretired.lt_nextId
    · refine List.forall_mem_append.mpr ⟨hretired.not_registered, ?_⟩
      refine List.forall_mem_singleton.mpr fun hfresh ↦ ?_
      exact Nat.ne_of_gt hretired.lt_nextId (congrArg ContextId.number hfresh)
  | @remove card entry hentry hidle =>
    refine ⟨?_, fun other hother ↦ hretired.not_registered other (List.mem_of_mem_eraseP hother)⟩
    exact (ContextTable.nextId_remove card.platform.contexts _).symm ▸ hretired.lt_nextId

/-- An applet that is removed leaves a retired context. -/
theorem retired_evict (hcoheres : card.Coheres config) {entry : Registration σ}
    (hentry : entry ∈ card.registry.entries) :
    (card.evict entry.context).Retired entry.context := by
  have hregistered : entry.context ∈ card.platform.contexts.contexts.map Prod.fst := by
    rw [hcoheres.houses.contexts_eq, List.map_append]
    exact List.mem_append_left _ (Registry.mem_tenants.mpr ⟨entry, hentry, rfl⟩)
  constructor
  · exact (ContextTable.nextId_remove card.platform.contexts _).symm ▸
      hcoheres.houses.contexts.lt_nextId _ hregistered
  · intro other hother hsame
    have hmem : other.context ∈ (card.registry.remove entry.context).tenants.map Prod.fst :=
      Registry.mem_tenants.mpr ⟨other, hother, rfl⟩
    rw [Registry.tenants_remove hcoheres.nodup_contexts] at hmem
    obtain ⟨tenant, htenant, hcontext⟩ := List.mem_map.mp hmem
    exact of_decide_eq_true (List.mem_filter.mp htenant).2 (hcontext.trans hsame)

/-- An applet is told before it is removed. -/
theorem retired_expel (hcoheres : card.Coheres config) {entry : Registration σ}
    (hready : (Stage.expel entry).IsReady card) :
    (card.perform (.expel entry)).Retired entry.context :=
  retired_evict (hcoheres.course (course_activate hready.1 rfl entry.applet.uninstall).settle)
    hready.1

/-- No code runs in a retired context. -/
theorem Retired.context_ne (hretired : card.Retired context) {stage : Stage σ}
    (hready : stage.IsReady card) {event : Event} (hevent : card.event? stage = some event) :
    event.context? ≠ some context := by
  have hfound : ∀ {registered : ContextId}, (∃ entry ∈ card.registry.entries,
      entry.context = registered) → some registered ≠ some context := by
    rintro _ ⟨entry, hentry, rfl⟩ hsame
    exact hretired.not_registered entry hentry (Option.some.inj hsame)
  cases stage with
  | leave channel =>
    obtain ⟨_, -, hregistered⟩ := Option.bind_eq_some_iff.mp hevent
    obtain ⟨entry, hentry, rfl⟩ := Option.map_eq_some_iff.mp hregistered
    exact hfound ⟨entry, mem_of_inContext? hentry⟩
  | enter channel entry =>
    obtain rfl := Option.some.inj hevent
    exact hfound ⟨entry, hready.1, rfl⟩
  | handle handling command selecting =>
    obtain ⟨entry, hentry, rfl⟩ := Option.map_eq_some_iff.mp hevent
    exact hfound ⟨entry, mem_of_inContext? hentry⟩
  | install aid data factory =>
    obtain ⟨_, -, hcreated⟩ := Option.bind_eq_some_iff.mp hevent
    obtain ⟨⟨fresh, contexts⟩, hcreate, rfl⟩ := Option.map_eq_some_iff.mp hcreated
    obtain ⟨rfl, -⟩ := ContextTable.create_eq_some hcreate
    intro hsame
    exact Nat.ne_of_gt hretired.lt_nextId (congrArg ContextId.number (Option.some.inj hsame))
  | expel entry =>
    obtain rfl := Option.some.inj hevent
    exact hfound ⟨entry, hready.1, rfl⟩
  | inspect aid program =>
    obtain ⟨entry, hentry, rfl⟩ := Option.map_eq_some_iff.mp hevent
    exact hfound ⟨entry, List.mem_of_find?_eq_some hentry, rfl⟩
  | reset =>
    obtain rfl := Option.some.inj hevent
    exact (Option.some_ne_none context).symm
  | wait | reserve | shut | adjust | tell => cases hevent

end Retired

/-! ### Runs -/

/-- The events of stages one after another. -/
def eventsAlong (card : Card σ) (stages : List (Stage σ)) : List Event :=
  (along card stages).filterMap fun scene ↦ scene.1.event? scene.2

theorem eventsAlong_cons (card : Card σ) (stage : Stage σ) (rest : List (Stage σ)) :
    card.eventsAlong (stage :: rest) =
      (card.event? stage).toList ++ (card.perform stage).eventsAlong rest := by
  unfold eventsAlong
  rw [along, List.filterMap_cons]
  cases card.event? stage <;> rfl

theorem eventsAlong_append (card : Card σ) (first second : List (Stage σ)) :
    card.eventsAlong (first ++ second) =
      card.eventsAlong first ++ (first.foldl perform card).eventsAlong second := by
  unfold eventsAlong
  rw [along_append, List.filterMap_append]

section Along

variable {card : Card σ} {config : Config} {stages : List (Stage σ)}

/-- Whether the tables of a card agree before each of some stages, and whether the card is ready for
it and has the channel vacant that it needs so. -/
def PlaysWell (config : Config) (card : Card σ) (stages : List (Stage σ)) : Prop :=
  ∀ scene ∈ along card stages, scene.1.Coheres config ∧ scene.2.IsReady scene.1 ∧
    ∀ channel, scene.2.vacant? = some channel → scene.1.channels.selected channel = none

theorem playsWell_cons {stage : Stage σ} {rest : List (Stage σ)} :
    PlaysWell config card (stage :: rest) ↔
      (card.Coheres config ∧ stage.IsReady card ∧
        ∀ channel, stage.vacant? = some channel → card.channels.selected channel = none) ∧
      PlaysWell config (card.perform stage) rest :=
  List.forall_mem_cons

/-- An event among others comes in a scene where the selection on each channel is what the events
before it have made of it, and whose successors have the events behind it. -/
theorem exists_scene {before after : List Event} {event : Event}
    (hplays : PlaysWell config card stages)
    (hsplit : card.eventsAlong stages = before ++ event :: after) :
    ∃ (scene : Card σ × Stage σ) (rest : List (Stage σ)), scene.1.event? scene.2 = some event ∧
      PlaysWell config scene.1 (scene.2 :: rest) ∧
      (∀ channel, scene.1.channels.selected channel =
        before.foldl (Event.seated channel) (card.channels.selected channel)) ∧
      (scene.1.perform scene.2).eventsAlong rest = after := by
  induction stages generalizing card before with
  | nil => exact absurd hsplit.symm (List.append_ne_nil_of_right_ne_nil _ (List.cons_ne_nil _ _))
  | cons stage rest ih =>
    obtain ⟨⟨hcoheres, hready, hvacant⟩, hrest⟩ := playsWell_cons.mp hplays
    have hmoves := selected_perform_event hcoheres hready hvacant
    rw [eventsAlong_cons] at hsplit
    cases hevent : card.event? stage with
    | none =>
      rw [hevent] at hsplit hmoves
      obtain ⟨scene, others, hscene, hthere, hselected, hafter⟩ := ih hrest hsplit
      refine ⟨scene, others, hscene, hthere, fun channel ↦ ?_, hafter⟩
      rw [hselected, hmoves, Option.elim_none]
    | some first =>
      rw [hevent] at hsplit hmoves
      cases before with
      | nil =>
        obtain ⟨rfl, rfl⟩ := List.cons.inj hsplit
        exact ⟨(card, stage), rest, hevent, hplays, fun _ ↦ rfl, rfl⟩
      | cons other before =>
        obtain ⟨rfl, hlater⟩ := List.cons.inj hsplit
        obtain ⟨scene, others, hscene, hthere, hselected, hafter⟩ := ih hrest hlater
        refine ⟨scene, others, hscene, hthere, fun channel ↦ ?_, hafter⟩
        rw [hselected, hmoves, Option.elim_some, List.foldl_cons]

/-- A retired context stays so, and no event is about it. -/
theorem Retired.eventsAlong {context : ContextId} (hretired : card.Retired context)
    (hplays : PlaysWell config card stages) :
    ∀ event ∈ card.eventsAlong stages, event.context? ≠ some context := by
  induction stages generalizing card with
  | nil => exact List.forall_mem_nil _
  | cons stage rest ih =>
    obtain ⟨⟨-, hready, -⟩, hrest⟩ := playsWell_cons.mp hplays
    have hothers := ih (hretired.course (course_perform hready)) hrest
    intro event hmem
    obtain ⟨scene, hscene, hevent⟩ := List.mem_filterMap.mp hmem
    rcases List.mem_cons.mp hscene with rfl | hlater
    · exact hretired.context_ne hready hevent
    · exact hothers event (List.mem_filterMap.mpr ⟨scene, hlater, hevent⟩)

end Along

/-- In a run of a card that coheres all stages play well. -/
theorem Coheres.playsWell {card : Card σ} {config : Config} (hcoheres : card.Coheres config)
    (operations : List (Operation σ)) : PlaysWell config card (card.runStages operations) := by
  unfold PlaysWell
  rw [← scenes_eq_along]
  intro scene hscene
  obtain ⟨hagree, hready⟩ := hcoheres.scenes scene hscene
  exact ⟨hagree, hready, findVacant_scenes hcoheres scene hscene⟩

section Run

variable {config : Config} {host : σ} {card : Card σ} {operations : List (Operation σ)}
  {before after : List Event} {event : Event}

/-- An event of a run comes where the events before it allow it, and if it is the removal of an
applet, no event behind it is about the applet. -/
theorem fits_of_split (hcard : Card.ofConfig config host = .ok card)
    (hsplit : card.events operations = before ++ event :: after) :
    event.Fits (fun channel ↦ before.foldl (Event.seated channel) none) ∧
      ∀ context, event = .uninstall context → ∀ other ∈ after, other.context? ≠ some context := by
  have hplays := (Coheres.ofConfig hcard).playsWell operations
  have hinitial : ∀ channel, card.channels.selected channel = none := by
    obtain ⟨atr, -, rfl⟩ := eq_of_ofConfig hcard
    exact ChannelTable.selected_initial _
  rw [events, scenes_eq_along] at hsplit
  obtain ⟨⟨scene, stage⟩, rest, hevent, hthere, hselected, rfl⟩ := exists_scene hplays hsplit
  obtain ⟨⟨hcoheres, hready, hvacant⟩, hrest⟩ := playsWell_cons.mp hthere
  constructor
  · have hstate : scene.channels.selected =
        fun channel ↦ before.foldl (Event.seated channel) none := by
      funext channel
      rw [← hinitial channel]
      exact hselected channel
    exact hstate ▸ fits_event hready hvacant hevent
  · rintro context rfl
    cases stage with
    | expel entry =>
      obtain rfl := Event.uninstall.inj (Option.some.inj hevent)
      exact (retired_expel hcoheres hready).eventsAlong hrest
    | leave channel =>
      obtain ⟨_, -, hfound⟩ := Option.bind_eq_some_iff.mp hevent
      obtain ⟨_, -, hother⟩ := Option.map_eq_some_iff.mp hfound
      cases hother
    | install aid data factory =>
      obtain ⟨_, -, hcreated⟩ := Option.bind_eq_some_iff.mp hevent
      obtain ⟨_, -, hother⟩ := Option.map_eq_some_iff.mp hcreated
      cases hother
    | handle | inspect =>
      obtain ⟨_, -, hother⟩ := Option.map_eq_some_iff.mp hevent
      cases hother
    | enter | reset => cases Option.some.inj hevent
    | wait | reserve | shut | adjust | tell => cases hevent

/-- An applet that has accepted a channel and is not selected there any more has been told to leave
it, or there has been a reset: while it is selected no other is asked and no other is told. -/
theorem left_of_accepted (hcard : Card.ofConfig config host = .ok card)
    {earlier since : List Event} {channel : Nat} {context : ContextId}
    (hsplit : card.events operations =
      earlier ++ .select channel context true :: since ++ after)
    (hgone : (earlier ++ .select channel context true :: since).foldl (Event.seated channel) none ≠
      some context) :
    .deselect channel context ∈ since ∨ .reset ∈ since := by
  by_contra hstays
  obtain ⟨hdeselect, hreset⟩ := not_or.mp hstays
  refine hgone ?_
  clear hgone hstays
  induction since using List.reverseRecOn generalizing after with
  | nil => rw [List.foldl_append, List.foldl_cons, List.foldl_nil, Event.seated, if_pos rfl,
      if_pos rfl]
  | append_singleton since event ih =>
    rw [List.mem_append, not_or, List.mem_singleton] at hdeselect hreset
    have hevents : card.events operations =
        earlier ++ .select channel context true :: since ++ event :: after := by
      rw [hsplit, List.append_assoc, List.append_assoc, List.cons_append, List.cons_append,
        List.append_assoc, List.singleton_append]
    have hseated := ih hevents hdeselect.1 hreset.1
    have hfits := (fits_of_split hcard hevents).1
    rw [← List.cons_append, ← List.append_assoc, List.foldl_append, List.foldl_cons,
      List.foldl_nil, hseated]
    cases hmoves : event.reseats channel with
    | false => exact Event.seated_of_not_reseats hmoves _
    | true =>
      cases event with
      | select moved other accepted =>
        obtain rfl := eq_of_beq hmoves
        cases hseated.symm.trans hfits
      | deselect moved other =>
        obtain rfl := eq_of_beq hmoves
        obtain rfl := Option.some.inj (hseated.symm.trans hfits)
        exact absurd rfl hdeselect.2
      | reset => exact absurd rfl hreset.2
      | install | process | inspect | uninstall => exact Bool.noConfusion hmoves

/-- An applet that leaves some channels on which it is selected is told so for each of them. -/
theorem eventsAlong_leave {card : Card σ} {context : ContextId} {entry : Registration σ}
    (hfound : card.registry.inContext? context = some entry) {channels : List Nat}
    (hnodup : channels.Nodup)
    (hselected : ∀ channel ∈ channels, card.channels.selected channel = some context) :
    card.eventsAlong (channels.map .leave) = channels.map (.deselect · context) := by
  induction channels generalizing card with
  | nil => rfl
  | cons channel rest ih =>
    obtain ⟨hother, hrest⟩ := List.nodup_cons.mp hnodup
    obtain ⟨hfirst, hothers⟩ := List.forall_mem_cons.mp hselected
    have hregistry : (card.perform (.leave channel)).registry.inContext? context = some entry :=
      (card.registry_deselect channel).symm ▸ hfound
    have hstays : ∀ other ∈ rest,
        (card.perform (.leave channel)).channels.selected other = some context := by
      intro other hmem
      have hne : (channel == other) = false := beq_false_of_ne fun hsame ↦ hother (hsame ▸ hmem)
      exact (@selected_perform σ (.leave channel) other hne card).trans (hothers other hmem)
    rw [List.map_cons, eventsAlong_cons, ih hregistry hrest hstays, event?, hfirst,
      Option.bind_some, hfound]
    rfl

/-- The removal of an applet tells it once for each channel on which it is selected that it leaves,
and then once that it is removed. -/
theorem events_uninstall {card : Card σ} (hcoheres : card.Coheres config) {aid : Aid}
    {entry : Registration σ} (hfound : card.registry.find? aid.bytes = some entry) :
    card.events [.uninstall aid] =
      (card.channels.channelsOf entry.context).map (.deselect · entry.context) ++
        [.uninstall entry.context] := by
  have hleave := eventsAlong_leave
    (hcoheres.inContext?_eq_some (List.mem_of_find?_eq_some hfound))
    (card.channels.nodup_channelsOf entry.context) fun _ ↦ ChannelTable.mem_channelsOf.mp
  rw [events, scenes, scenes, List.append_nil, stages, uninstallStages, hfound]
  change card.eventsAlong (_ ++ _) = _
  rw [eventsAlong_append, hleave]
  rfl

/-- The hooks of applets are called by a protocol, whatever is done to a card and whatever its
applets do. The events of a run are those of the stages it is made of, and they are the code that
runs in its course. An applet handles commands on a channel, and is told that it leaves it, only
after it has accepted the channel, with no selection, no farewell and no reset since; nobody is
asked on a channel while somebody who has accepted it has not been told to leave, but for a reset.
An applet that is removed has been told so on each of its channels, and nothing of it runs
afterwards. -/
theorem hooks_follow_protocol (hcard : Card.ofConfig config host = .ok card)
    (operations : List (Operation σ)) :
    card.Enacts operations ∧
    Course card (card.runPieces operations) (operations.foldl next card) ∧
    (card.runPieces operations).map (·.start.frame) =
      (card.events operations).filterMap Event.frame? ∧
    (∀ before channel context selecting after,
      card.events operations = before ++ .process channel context selecting :: after →
        Event.LastAccepted before channel context) ∧
    (∀ before channel context after,
      card.events operations = before ++ .deselect channel context :: after →
        Event.LastAccepted before channel context) ∧
    (∀ before channel context accepted after,
      card.events operations = before ++ .select channel context accepted :: after →
        ∀ earlier former since, before = earlier ++ .select channel former true :: since →
          .deselect channel former ∈ since ∨ .reset ∈ since) ∧
    (∀ before context after,
      card.events operations = before ++ .uninstall context :: after →
        (∀ earlier channel since, before = earlier ++ .select channel context true :: since →
          .deselect channel context ∈ since ∨ .reset ∈ since) ∧
        ∀ event ∈ after, event.context? ≠ some context) ∧
    ∀ earlier aid later entry, operations = earlier ++ .uninstall aid :: later →
      (earlier.foldl next card).registry.find? aid.bytes = some entry →
        (earlier.foldl next card).events [.uninstall aid] =
          ((earlier.foldl next card).channels.channelsOf entry.context).map
            (.deselect · entry.context) ++ [.uninstall entry.context] ∧
        ((earlier.foldl next card).channels.channelsOf entry.context).Nodup := by
  refine ⟨card.enacts operations, course_foldl card operations, card.frames_eq operations,
    ?_, ?_, ?_, ?_, ?_⟩
  · intro before channel context selecting after hsplit
    exact Event.lastAccepted_iff.mpr (fits_of_split hcard hsplit).1
  · intro before channel context after hsplit
    exact Event.lastAccepted_iff.mpr (fits_of_split hcard hsplit).1
  · rintro _ channel context accepted after hsplit earlier former since rfl
    refine left_of_accepted hcard hsplit ?_
    have hvacant : List.foldl (Event.seated channel) none _ = none :=
      (fits_of_split hcard hsplit).1
    rw [hvacant]
    exact (Option.some_ne_none former).symm
  · intro before context after hsplit
    obtain ⟨hnowhere, hretired⟩ := fits_of_split hcard hsplit
    refine ⟨?_, hretired context rfl⟩
    rintro earlier channel since rfl
    exact left_of_accepted hcard hsplit (hnowhere channel)
  · rintro earlier aid later entry - hfound
    exact ⟨events_uninstall ((Coheres.ofConfig hcard).foldl earlier) hfound,
      ChannelTable.nodup_channelsOf _ entry.context⟩

end Run

/-- An applet handles a command, has to make room for one that refuses the channel, and is removed
after it has been selected again. -/
theorem hooks_follow_protocol_refused :
    let config : Config := { atr := "3B" }
    let card : Card Unit := {
      config := config
      atr := [0x3B]
      platform := ⟨.empty config.quotas config.commitCapacity, .initial⟩
      registry := .empty config.maxApplets
      channels := .initial config.logicalChannels
      host := () }
    let willing : Aid := ⟨[0xA0, 0, 0, 0, 1], by decide, by decide⟩
    let picky : Aid := ⟨[0xA0, 0, 0, 0, 2], by decide, by decide⟩
    let factory : Bool → Factory Unit := fun accepting _ ↦ do
      Code.register
      return { process := Code.refuse .noError, select := return accepting }
    let operations : List (Operation Unit) := [.install willing [] (factory true),
      .install picky [] (factory false), .select willing 0, .transmit [0x80, 1, 0, 0],
      .select picky 0, .select willing 0, .uninstall willing]
    Card.ofConfig config () = .ok card ∧
      card.events operations = [.install ⟨1⟩, .install ⟨2⟩, .select 0 ⟨1⟩ true,
        .process 0 ⟨1⟩ false, .deselect 0 ⟨1⟩, .select 0 ⟨2⟩ false, .select 0 ⟨1⟩ true,
        .deselect 0 ⟨1⟩, .uninstall ⟨1⟩] ∧
      Event.LastAccepted [.install ⟨1⟩, .install ⟨2⟩, .select 0 ⟨1⟩ true] 0 ⟨1⟩ := by
  intro config card willing picky factory operations
  have hvalid : config.validate = .ok () := by decide
  have hatr : config.readAtr = .ok [0x3B] := by decide
  have hpowered : Card.ofConfig config () = .ok card := by rw [Card.ofConfig, hvalid, hatr]
  have hevents : card.events operations = [.install ⟨1⟩, .install ⟨2⟩, .select 0 ⟨1⟩ true,
      .process 0 ⟨1⟩ false, .deselect 0 ⟨1⟩, .select 0 ⟨2⟩ false, .select 0 ⟨1⟩ true,
      .deselect 0 ⟨1⟩, .uninstall ⟨1⟩] := by decide +kernel
  exact ⟨hpowered, hevents, (hooks_follow_protocol hpowered operations).2.2.2.1
    [.install ⟨1⟩, .install ⟨2⟩, .select 0 ⟨1⟩ true] 0 ⟨1⟩ false _ hevents⟩

end Card

end SmartCard
