import SmartCard.Proofs.Card.Reception

/-!
# Channels on their own

Two tables agree beside a channel if they differ at most in that channel
(`ChannelTable.AgreesBeside`). A command that is not about channels changes no channel but its own,
and opens and closes none (`Card.agreesBeside_dispatch`). A command about channels drops the bytes
that wait on its own, and then it is refused, or it opens or closes one channel (`Card.Managed`).

So an open channel stays as it is as long as no operation touches it (`Card.touches`), whatever
happens on the others (`Card.slot_next`). `Card.channels_isolated` puts this together.
-/

set_option autoImplicit false
set_option relaxedAutoImplicit false

namespace SmartCard

namespace ChannelTable

/-- Whether two tables differ at most in one channel. -/
def AgreesBeside (after before : ChannelTable) (channel : Nat) : Prop :=
  ∀ other, other ≠ channel → after.channels[other]? = before.channels[other]?

section AgreesBeside

variable {before middle after : ChannelTable} {channel other : Nat}

theorem AgreesBeside.refl (table : ChannelTable) (channel : Nat) :
    table.AgreesBeside table channel :=
  fun _ _ ↦ rfl

theorem AgreesBeside.trans (hlast : after.AgreesBeside middle channel)
    (hfirst : middle.AgreesBeside before channel) : after.AgreesBeside before channel :=
  fun other hother ↦ (hlast other hother).trans (hfirst other hother)

theorem agreesBeside_modify (table : ChannelTable) (channel : Nat) (change : Channel → Channel) :
    (table.modify channel change).AgreesBeside table channel := by
  intro other hother
  rw [getElem?_modify]
  simp only [if_neg hother.symm, Option.map_id']

theorem agreesBeside_close (table : ChannelTable) (channel : Nat) :
    (table.close channel).AgreesBeside table channel := by
  unfold close
  split
  · exact .refl table channel
  · exact table.agreesBeside_modify channel _

/-- What is open beside the channel stays so. -/
theorem AgreesBeside.isOpen_eq (hbeside : after.AgreesBeside before channel)
    (hother : other ≠ channel) : after.isOpen other = before.isOpen other := by
  rw [isOpen, hbeside other hother, isOpen]

/-- If the channel itself is as open as before, all are. -/
theorem AgreesBeside.isOpen_eq_of_self (hbeside : after.AgreesBeside before channel)
    (hself : after.isOpen channel = before.isOpen channel) (other : Nat) :
    after.isOpen other = before.isOpen other := by
  by_cases hother : other = channel
  · rw [hother, hself]
  · exact hbeside.isOpen_eq hother

end AgreesBeside

/-- A closed channel is empty already. -/
theorem Seats.modify_of_shut {σ : Type} {registry : Registry σ} {table : ChannelTable}
    {channel : Nat} (hseats : table.Seats registry) (hshut : table.isOpen channel = false)
    {change : Channel → Channel} (hchange : change .closed = .closed) :
    table.modify channel change = table := by
  have hchannels : (table.modify channel change).channels = table.channels := by
    refine List.ext_getElem? fun other ↦ ?_
    rw [getElem?_modify]
    cases hslot : table.channels[other]? with
    | none => rfl
    | some slot =>
      rw [Option.map_some]
      by_cases hsame : channel = other
      · subst hsame
        rw [isOpen, hslot, Option.any_some] at hshut
        rw [if_pos rfl, hseats.closed hslot hshut, hchange]
      · rw [if_neg hsame]
  exact congrArg ChannelTable.mk hchannels

end ChannelTable

namespace Card

open ChannelTable

variable {σ : Type} (card : Card σ)

/-! ### Selection and commands that are not about channels -/

theorem agreesBeside_deselect (channel : Nat) :
    (card.deselect channel).channels.AgreesBeside card.channels channel := by
  rw [channels_deselect]
  exact agreesBeside_modify _ channel _

/-- A selection changes what is selected on its channel, or nothing. -/
theorem channels_selectContext (channel : Nat) (context : ContextId) :
    (card.selectContext channel context).2.channels = card.channels ∨
      ∃ seated, (card.selectContext channel context).2.channels =
        card.channels.setSelected channel seated := by
  cases hfound : card.registry.inContext? context with
  | none =>
    left
    unfold selectContext
    rw [hfound]
  | some entry =>
    cases hbusy : card.isBusy channel entry with
    | true =>
      left
      rw [selectContext_of_isBusy hfound hbusy]
    | false =>
      right
      rw [selectContext_eq hfound hbusy, channels_seat, channels_deselect, setSelected_setSelected]
      exact ⟨_, rfl⟩

theorem agreesBeside_selectContext (channel : Nat) (context : ContextId) :
    (card.selectContext channel context).2.channels.AgreesBeside card.channels channel := by
  rcases card.channels_selectContext channel context with hsame | ⟨seated, hseated⟩
  · rw [hsame]
    exact .refl _ channel
  · rw [hseated]
    exact agreesBeside_modify _ channel _

/-- The host selects an applet on a channel without changing another one or opening any. -/
theorem agreesBeside_select (aid : Aid) (channel : Nat) :
    (card.select aid channel).2.channels.AgreesBeside card.channels channel ∧
      (card.select aid channel).2.channels.isOpen channel = card.channels.isOpen channel := by
  unfold select
  cases card.registry.find? aid.bytes with
  | none => exact ⟨.refl _ channel, rfl⟩
  | some entry =>
    dsimp only
    split
    · have hbeside := card.agreesBeside_selectContext channel entry.context
      have hopen := card.isOpen_selectContext channel channel entry.context
      generalize card.selectContext channel entry.context = selected at hbeside hopen ⊢
      obtain ⟨_ | _, after⟩ := selected <;> exact ⟨hbeside, hopen⟩
    · exact ⟨.refl _ channel, rfl⟩

theorem agreesBeside_process (context : ContextId) (command : Command) (selecting : Bool) :
    (card.process command.channel context command selecting).2.channels.AgreesBeside card.channels
      command.channel := by
  rcases card.channels_process_cases context command selecting with hsame | ⟨bytes, hmoved⟩
  · rw [hsame]
    exact .refl _ command.channel
  · rw [hmoved]
    exact agreesBeside_modify _ command.channel _

theorem isOpen_process (context : ContextId) (command : Command) (selecting : Bool)
    (channel : Nat) :
    (card.process command.channel context command selecting).2.channels.isOpen channel =
      card.channels.isOpen channel :=
  @isOpen_perform σ (.handle context command selecting) channel rfl card

section Dispatch

variable {card} {command : Command}

theorem agreesBeside_taken :
    (card.taken command).channels.AgreesBeside card.channels command.channel :=
  agreesBeside_modify _ command.channel _

/-- Routing a command that is not about channels changes no channel but its own, and opens and
closes none. -/
theorem Routing.agreesBeside {outcome : Except StatusWord Route × Card σ}
    (hrouting : Routing card command outcome) :
    outcome.2.channels.AgreesBeside card.channels command.channel ∧
      outcome.2.channels.isOpen command.channel = card.channels.isOpen command.channel := by
  have htaken := ChannelTable.isOpen_setPending card.channels command.channel command.channel []
  have hselected : ∀ {context}, ((card.taken command).selectContext command.channel
      context).2.channels.isOpen command.channel = card.channels.isOpen command.channel :=
    (isOpen_selectContext _ _ _ _).trans htaken
  cases hrouting with
  | fetched _ _ => exact ⟨agreesBeside_modify _ command.channel _, isOpen_setPending _ _ _ _⟩
  | vacant word _ => exact ⟨agreesBeside_taken, htaken⟩
  | kept _ => exact ⟨agreesBeside_taken, htaken⟩
  | @refused entry word after _ hselect =>
    obtain rfl : _ = after := congrArg Prod.snd hselect
    exact ⟨(agreesBeside_selectContext _ _ _).trans agreesBeside_taken, hselected⟩
  | @entered entry after _ hselect =>
    obtain rfl : _ = after := congrArg Prod.snd hselect
    exact ⟨(agreesBeside_selectContext _ _ _).trans agreesBeside_taken, hselected⟩

/-- A command that is not about channels changes no channel but its own, and opens and closes
none. -/
theorem agreesBeside_dispatch (hvalid : command.classByte ≠ invalidClass)
    (hopen : card.channels.isOpen command.channel = true)
    (hother : isInstruction command Command.manageChannelInstruction = false) :
    (card.dispatch command).2.channels.AgreesBeside card.channels command.channel ∧
      (card.dispatch command).2.channels.isOpen command.channel =
        card.channels.isOpen command.channel := by
  obtain ⟨hbeside, hstays⟩ := (routing_route hvalid hopen hother).agreesBeside
  unfold dispatch
  generalize card.route command = routed at hbeside hstays
  obtain ⟨_ | _ | ⟨context, selecting⟩, routed⟩ := routed
  · exact ⟨hbeside, hstays⟩
  · exact ⟨hbeside, hstays⟩
  · exact ⟨(routed.agreesBeside_process context command selecting).trans hbeside,
      (routed.isOpen_process context command selecting _).trans hstays⟩

end Dispatch

/-! ### Commands about channels -/

/-- What a command about channels does to a table of channels, with the response: it is refused and
changes none, or it succeeds and opens or closes one. -/
inductive Managed (command : Command) (before : ChannelTable) :
    List UInt8 × ChannelTable → Prop where
  | refused {word : StatusWord} (hfault : word ≠ .noError) :
    Managed command before (word.toBytes, before)
  | opened (hopens : command.p1 = manageOpen) {channel : Nat}
    (hnamed : command.p2.toNat ≠ 0 → channel = command.p2.toNat)
    (hshut : before.isOpen channel = false) {after : ChannelTable}
    (hopen : after.isOpen channel = true) (hbeside : after.AgreesBeside before channel) :
    Managed command before
      ((if command.p2.toNat = 0 then [UInt8.ofNat channel] else []) ++ StatusWord.noError.toBytes,
        after)
  | closed (hcloses : command.p1 = manageClose) {channel : Nat}
    (hchannel : channel = if command.p2.toNat = 0 then command.channel else command.p2.toNat)
    (hopen : before.isOpen channel = true) {after : ChannelTable}
    (hshut : after.isOpen channel = false) (hbeside : after.AgreesBeside before channel) :
    Managed command before (StatusWord.noError.toBytes, after)

/-- A refusal to select is an error. -/
theorem ne_noError_of_selectContext {channel : Nat} {context : ContextId} {word : StatusWord}
    {after : Card σ} (hselect : card.selectContext channel context = (.error word, after)) :
    word ≠ .noError := by
  have hword := congrArg Prod.fst hselect
  cases hfound : card.registry.inContext? context with
  | none =>
    rw [selectContext, hfound] at hword
    cases hword
    decide
  | some entry =>
    cases hbusy : card.isBusy channel entry with
    | true =>
      rw [selectContext_of_isBusy hfound hbusy] at hword
      cases hword
      decide
    | false =>
      rw [selectContext_eq hfound hbusy] at hword
      unfold seat at hword
      dsimp only at hword
      generalize activate _ _ entry.applet.select = asked at hword
      obtain ⟨(_ | _) | _, asked⟩ := asked <;> cases hword <;> decide

/-- A channel cannot be reserved for a reason. -/
theorem reserveChannel_eq_error {channels : ChannelTable} {requested : Option Nat}
    {word : StatusWord} (hreserved : reserveChannel channels requested = .error word) :
    word ≠ .noError := by
  unfold reserveChannel at hreserved
  cases requested with
  | none =>
    dsimp only at hreserved
    cases hlowest : channels.openLowest <;> rw [hlowest] at hreserved <;> cases hreserved
    decide
  | some named =>
    dsimp only at hreserved
    split at hreserved
    · cases hreserved
      decide
    · cases hnamed : channels.openAt named <;> rw [hnamed] at hreserved <;> cases hreserved
      decide

/-- The channel reserved is the one asked for. -/
theorem eq_of_reserveChannel {channels after : ChannelTable} {named channel : Nat}
    (hreserved : reserveChannel channels (some named) = .ok (channel, after)) :
    channel = named := by
  unfold reserveChannel at hreserved
  dsimp only at hreserved
  split at hreserved
  · cases hreserved
  · cases hnamed : channels.openAt named with
    | none =>
      rw [hnamed] at hreserved
      cases hreserved
    | some opened =>
      rw [hnamed] at hreserved
      exact (Prod.mk.inj (Except.ok.inj hreserved)).1.symm

/-- What becomes of opening a channel: it is refused and no channel changes, or one that was closed
is open and no other changes. -/
inductive Opening (before : ChannelTable) (requested : Option Nat) :
    Except StatusWord Nat × ChannelTable → Prop where
  | refused {word : StatusWord} (hfault : word ≠ .noError) :
    Opening before requested (.error word, before)
  | opened {channel : Nat} (hnamed : ∀ named ∈ requested, channel = named)
    (hshut : before.isOpen channel = false) {after : ChannelTable}
    (hopen : after.isOpen channel = true) (hbeside : after.AgreesBeside before channel) :
    Opening before requested (.ok channel, after)

variable {card}

/-- A channel that is closed again after it was opened and an applet was asked to take it is empty
as before. -/
theorem close_selectContext (hseats : card.channels.Seats card.registry) {channel : Nat}
    (hshut : card.channels.isOpen channel = false) (context : ContextId) :
    (Card.selectContext { card with channels := card.channels.markOpen channel } channel
      context).2.channels.close channel = card.channels := by
  have hbasic : channel ≠ 0 := by
    rintro rfl
    exact Bool.false_ne_true (hshut.symm.trans hseats.basic)
  have hemptied : (card.channels.markOpen channel).modify channel (fun _ ↦ .closed) =
      card.channels :=
    calc
      (card.channels.markOpen channel).modify channel (fun _ ↦ .closed)
        = card.channels.modify channel fun _ ↦ .closed := modify_modify _ channel fun _ ↦ rfl
      _ = card.channels := hseats.modify_of_shut hshut rfl
  rw [ChannelTable.close, if_neg hbasic]
  rcases channels_selectContext { card with channels := card.channels.markOpen channel } channel
    context with hsame | ⟨seated, hseated⟩
  · rw [hsame]
    exact hemptied
  · rw [hseated]
    refine Eq.trans ?_ hemptied
    exact modify_modify _ channel fun _ ↦ rfl

theorem opening_openChannel (hseats : card.channels.Seats card.registry) (origin : Nat)
    (requested : Option Nat) :
    Opening card.channels requested ((card.openChannel origin requested).1,
      (card.openChannel origin requested).2.channels) := by
  unfold openChannel
  split
  · exact .refused (by decide)
  cases hreserved : reserveChannel card.channels requested with
  | error word => exact .refused (reserveChannel_eq_error hreserved)
  | ok reserved =>
    obtain ⟨channel, channels⟩ := reserved
    obtain ⟨rfl, hbound⟩ := reserveChannel_eq_ok hreserved
    have hshut := isOpen_of_reserveChannel hreserved
    have hnamed : ∀ named ∈ requested, channel = named := by
      rintro named hnamed
      rw [Option.mem_def.mp hnamed] at hreserved
      exact eq_of_reserveChannel hreserved
    have hopened := isOpen_markOpen hbound
    have hbeside : (card.channels.markOpen channel).AgreesBeside card.channels channel :=
      agreesBeside_modify card.channels channel _
    dsimp only
    generalize (if origin = 0 then none else _) = initial
    cases initial with
    | none => exact .opened hnamed hshut hopened hbeside
    | some context =>
      dsimp only
      set marked : Card σ := { card with channels := card.channels.markOpen channel }
      cases hselect : marked.selectContext channel context with
      | mk outcome after =>
        obtain rfl : _ = after := congrArg Prod.snd hselect
        cases outcome with
        | ok done =>
          refine .opened hnamed hshut ?_ ((agreesBeside_selectContext _ _ _).trans hbeside)
          exact (isOpen_selectContext _ _ _ _).trans hopened
        | error word =>
          dsimp only
          rw [close_selectContext hseats hshut context]
          exact .refused (marked.ne_noError_of_selectContext hselect)

/-- A channel other than the basic one is closed if it is open, and no other channel changes. -/
theorem agreesBeside_closeChannel (channel : Nat) :
    (card.closeChannel channel).2.channels.AgreesBeside card.channels channel := by
  unfold closeChannel
  split
  · exact .refl _ channel
  · exact (agreesBeside_close _ channel).trans (card.agreesBeside_deselect channel)

/-- A command about channels is refused, or it opens or closes one channel. -/
theorem managed_manageChannel (hseats : card.channels.Seats card.registry) (command : Command) :
    Managed command card.channels
      (responseOf (card.manageChannel command).1, (card.manageChannel command).2.channels) := by
  unfold manageChannel
  dsimp only
  by_cases hopens : command.p1 = manageOpen
  · rw [if_pos hopens]
    have hopening := opening_openChannel hseats command.channel
      (if command.p2.toNat = 0 then none else some command.p2.toNat)
    generalize card.openChannel command.channel _ = opened at hopening
    obtain ⟨word | channel, after⟩ := opened <;> dsimp only at hopening ⊢ <;>
      generalize after.channels = table at hopening ⊢
    · cases hopening with
      | refused hfault => exact .refused hfault
    · cases hopening with
      | opened hnamed hshut hopen hbeside =>
        refine .opened hopens (fun hgiven ↦ ?_) hshut hopen hbeside
        rw [if_neg hgiven] at hnamed
        exact hnamed _ rfl
  rw [if_neg hopens]
  by_cases hcloses : command.p1 = manageClose
  · rw [if_pos hcloses]
    generalize hchannel : (if command.p2.toNat = 0 then _ else _) = channel
    have hbeside := card.agreesBeside_closeChannel channel
    unfold closeChannel at hbeside ⊢
    by_cases hrefused : channel = 0 ∨ (!card.channels.isOpen channel) = true
    · rw [if_pos hrefused]
      exact .refused (by decide)
    · rw [if_neg hrefused] at hbeside ⊢
      obtain ⟨hbasic, hopen⟩ := not_or.mp hrefused
      rw [Bool.not_eq_true', Bool.not_eq_false] at hopen
      exact .closed hcloses hchannel.symm hopen (isOpen_close_self _ hbasic) hbeside
  · rw [if_neg hcloses]
    exact .refused (by decide)

/-- A command about channels drops the bytes that wait on its own channel, and then it is refused,
or it opens or closes one channel. -/
theorem managed_transmit {config : Config} (hcoheres : card.Coheres config) {raw : List UInt8}
    {command : Command} (hparse : Command.parse raw card.config.extendedLength = .ok command)
    (hmanages : isInstruction command Command.manageChannelInstruction = true) :
    Managed command (card.channels.setPending command.channel [])
      ((card.transmit raw).1, (card.transmit raw).2.channels) := by
  have hvalid := classByte_ne_invalid hmanages
  cases hopen : card.channels.isOpen command.channel with
  | false =>
    have hrejected : card.rejection? raw = some .logicalChannelNotSupported := by
      rw [rejection?, hparse]
      dsimp only
      rw [if_neg hvalid, hopen, if_neg Bool.false_ne_true]
    have htaken : card.channels.setPending command.channel [] = card.channels :=
      hcoheres.seats.modify_of_shut hopen rfl
    rw [transmit_of_rejection hrejected, htaken]
    exact .refused (by decide)
  | true =>
    have hdispatch : card.dispatch command = (card.taken command).manageChannel command :=
      dispatch_of_manages hvalid hopen hmanages
    rw [transmit_of_parse hparse, hdispatch]
    exact @managed_manageChannel σ (card.taken command) (hcoheres.seats.wait hopen []) command

/-! ### Operations that leave a channel alone -/

/-- Whether an operation is a command on a channel, closes it, takes the applet off it or puts one
there, or is a reset. -/
def touches (card : Card σ) (channel : Nat) : Operation σ → Bool
  | .transmit raw => (Command.parse raw card.config.extendedLength).toOption.any fun command ↦
      command.classByte != invalidClass && (command.channel == channel ||
        isInstruction command Command.manageChannelInstruction && command.p1 == manageClose &&
          command.p2.toNat != 0 && command.p2.toNat == channel)
  | .select _ moved | .deselect moved | .closeChannel moved => moved == channel
  | .uninstall aid => (card.registry.find? aid.bytes).any fun entry ↦
      card.channels.selected channel == some entry.context
  | .reset => true
  | _ => false

/-- Whether no operation of several touches a channel. -/
def LeavesAlone (channel : Nat) : Card σ → List (Operation σ) → Prop
  | _, [] => True
  | card, operation :: rest =>
    card.touches channel operation = false ∧ LeavesAlone channel (card.next operation) rest

/-- A command about channels leaves an open channel alone unless it comes on it or closes it. -/
theorem Managed.slot_eq {command : Command} {before : ChannelTable}
    {outcome : List UInt8 × ChannelTable} {channel : Nat}
    (hmanaged : Managed command before outcome) (hopen : before.isOpen channel = true)
    (hother : command.channel ≠ channel)
    (hstays : (command.p1 == manageClose && command.p2.toNat != 0 && command.p2.toNat == channel) =
      false) : outcome.2.channels[channel]? = before.channels[channel]? := by
  cases hmanaged with
  | refused _ => rfl
  | @opened _ opened _ hshut _ _ hbeside =>
    refine hbeside channel ?_
    rintro rfl
    exact Bool.false_ne_true (hshut.symm.trans hopen)
  | @closed hcloses closed hchannel _ _ _ hbeside =>
    refine hbeside channel ?_
    rintro rfl
    by_cases hnamed : command.p2.toNat = 0
    · rw [if_pos hnamed] at hchannel
      exact hother hchannel.symm
    · rw [if_neg hnamed] at hchannel
      rw [hcloses, beq_self_eq_true, bne_iff_ne.mpr hnamed, hchannel, beq_self_eq_true] at hstays
      exact Bool.noConfusion hstays

/-- A command that does not touch an open channel leaves it as it is. -/
theorem slot_transmit {config : Config} (hcoheres : card.Coheres config) {channel : Nat}
    (hopen : card.channels.isOpen channel = true) {raw : List UInt8}
    (hstays : card.touches channel (.transmit raw) = false) :
    (card.transmit raw).2.channels.channels[channel]? = card.channels.channels[channel]? := by
  cases hrejected : card.rejection? raw with
  | some reason => rw [transmit_of_rejection hrejected]
  | none =>
    obtain ⟨command, hparse, hvalid, hreached⟩ := exists_of_rejection?_eq_none hrejected
    rw [touches, hparse] at hstays
    dsimp only [Except.toOption, Option.any_some] at hstays
    rw [bne_iff_ne.mpr hvalid, Bool.true_and, Bool.or_eq_false_iff] at hstays
    obtain ⟨hself, hstays⟩ := hstays
    have hother := ne_of_beq_false hself
    cases hmanages : isInstruction command Command.manageChannelInstruction with
    | true =>
      rw [hmanages, Bool.true_and] at hstays
      have hslot := (managed_transmit hcoheres hparse hmanages).slot_eq
        ((ChannelTable.isOpen_setPending _ _ _ _).trans hopen) hother hstays
      exact hslot.trans (@agreesBeside_taken σ card command channel hother.symm)
    | false =>
      rw [transmit_of_parse hparse]
      exact (agreesBeside_dispatch hvalid hreached hmanages).1 channel hother.symm

/-- An operation that does not touch an open channel leaves it as it is. -/
theorem slot_next {config : Config} (hcoheres : card.Coheres config) {channel : Nat}
    (hopen : card.channels.isOpen channel = true) {operation : Operation σ}
    (hstays : card.touches channel operation = false) :
    (card.next operation).channels.channels[channel]? = card.channels.channels[channel]? := by
  cases operation with
  | transmit raw => exact slot_transmit hcoheres hopen hstays
  | select aid moved =>
    exact (card.agreesBeside_select aid moved).1 channel (ne_of_beq_false hstays).symm
  | deselect moved => exact card.agreesBeside_deselect moved channel (ne_of_beq_false hstays).symm
  | openChannel origin requested =>
    have hopening := opening_openChannel hcoheres.seats origin requested
    rw [next]
    generalize card.openChannel origin requested = opened at hopening ⊢
    obtain ⟨outcome, after⟩ := opened
    dsimp only at hopening ⊢
    generalize after.channels = table at hopening ⊢
    cases hopening with
    | refused _ => rfl
    | @opened opened _ hshut _ _ hbeside =>
      refine hbeside channel ?_
      rintro rfl
      exact Bool.false_ne_true (hshut.symm.trans hopen)
  | closeChannel moved =>
    exact agreesBeside_closeChannel moved channel (ne_of_beq_false hstays).symm
  | install aid data factory => rw [next, channels_install]
  | uninstall aid =>
    rw [next, ← foldl_uninstallStages, uninstallStages]
    rw [touches] at hstays
    cases hfound : card.registry.find? aid.bytes with
    | none => rfl
    | some entry =>
      rw [hfound] at hstays
      have helsewhere : channel ∉ card.channels.channelsOf entry.context := fun hmem ↦
        Bool.eq_false_iff.mp hstays (beq_iff_eq.mpr (mem_channelsOf.mp hmem))
      dsimp only
      rw [List.foldl_append, List.foldl_map]
      change ((card.channels.channelsOf entry.context).foldl Card.deselect
        card).channels.channels[channel]? = _
      rw [channels_deselectAll, ChannelTable.getElem?_foldl_setSelected]
      simp only [if_neg helsewhere, Option.map_id']
  | inspect aid program => rw [next, channels_inspect]
  | reset => exact Bool.noConfusion hstays
  | armTear | disarmTear | setHost => rfl

/-- Nothing that happens on other channels touches an open channel. -/
theorem slot_foldl {config : Config} (hcoheres : card.Coheres config) {channel : Nat}
    (hopen : card.channels.isOpen channel = true) {operations : List (Operation σ)}
    (halone : LeavesAlone channel card operations) :
    (operations.foldl next card).channels.channels[channel]? =
      card.channels.channels[channel]? := by
  induction operations generalizing card with
  | nil => rfl
  | cons operation rest ih =>
    obtain ⟨hstays, halone⟩ := halone
    have hslot := slot_next hcoheres hopen hstays
    have hstill : (card.next operation).channels.isOpen channel = true := by
      rw [ChannelTable.isOpen, hslot]
      exact hopen
    exact (ih (hcoheres.course (card.course_next operation)) hstill halone).trans hslot

/-- What is selected on a channel and waits there has nothing to do with the others. Bytes that are
no command change no channel. A command that is not about channels opens and closes none and
changes its own at most. A command about channels drops the bytes that wait on its own, and then it
is refused, or it opens or closes one channel. Selecting and deselecting on a channel change no
other. And an open channel stays as it is until something touches it. -/
theorem channels_isolated (hreach : card.Reachable) :
    (∀ raw fault, Command.parse raw card.config.extendedLength = .error fault →
      (card.transmit raw).2.channels = card.channels) ∧
    (∀ raw command, Command.parse raw card.config.extendedLength = .ok command →
      isInstruction command Command.manageChannelInstruction = false →
        (∀ channel, (card.transmit raw).2.channels.isOpen channel =
          card.channels.isOpen channel) ∧
        (card.transmit raw).2.channels.AgreesBeside card.channels command.channel) ∧
    (∀ raw command, Command.parse raw card.config.extendedLength = .ok command →
      isInstruction command Command.manageChannelInstruction = true →
        Managed command (card.channels.setPending command.channel [])
          ((card.transmit raw).1, (card.transmit raw).2.channels)) ∧
    (∀ aid channel,
      (card.select aid channel).2.channels.AgreesBeside card.channels channel ∧
      (card.deselect channel).channels.AgreesBeside card.channels channel) ∧
    ∀ channel operations, card.channels.isOpen channel = true →
      LeavesAlone channel card operations →
        (operations.foldl next card).channels.channels[channel]? =
          card.channels.channels[channel]? := by
  obtain ⟨config, hcoheres⟩ := hreach.exists_coheres
  refine ⟨?_, ?_, ?_, ?_, ?_⟩
  · intro raw fault hparse
    have hrejected : card.rejection? raw = some .wrongLength := by rw [rejection?, hparse]
    rw [transmit_of_rejection hrejected]
  · intro raw command hparse hother
    cases hrejected : card.rejection? raw with
    | some reason =>
      rw [transmit_of_rejection hrejected]
      exact ⟨fun _ ↦ rfl, .refl _ _⟩
    | none =>
      obtain ⟨reaching, hread, hvalid, hopen⟩ := exists_of_rejection?_eq_none hrejected
      obtain rfl : reaching = command := Except.ok.inj (hread.symm.trans hparse)
      rw [transmit_of_parse hparse]
      obtain ⟨hbeside, hself⟩ := agreesBeside_dispatch hvalid hopen hother
      exact ⟨hbeside.isOpen_eq_of_self hself, hbeside⟩
  · intro raw command hparse hmanages
    exact managed_transmit hcoheres hparse hmanages
  · intro aid channel
    exact ⟨(card.agreesBeside_select aid channel).1, card.agreesBeside_deselect channel⟩
  · intro channel operations hopen halone
    exact slot_foldl hcoheres hopen halone

/-- Three bytes wait on the second channel while a third one is opened and closed and the same
applet comes and goes on the first. -/
theorem channels_isolated_parked :
    let config : Config := { atr := "3B" }
    let powered : Card Unit := {
      config := config
      atr := [0x3B]
      platform := ⟨.empty config.quotas config.commitCapacity, .initial⟩
      registry := .empty config.maxApplets
      channels := .initial config.logicalChannels
      host := () }
    let aid : Aid := ⟨[0xA0, 0, 0, 0, 1], by decide, by decide⟩
    let factory : Factory Unit := fun _ ↦ do
      Code.register
      return { process := Code.respond [1, 2, 3, 4, 5], multiSelectable := true }
    let installed := powered.next (.install aid [] factory)
    let opened := installed.next (.openChannel 0 none)
    let selected := opened.next (.select aid 1)
    let card := selected.next (.transmit [1, 0x10, 0, 0, 2])
    let operations : List (Operation Unit) :=
      [.transmit [0, 0x70, 0, 0, 1], .select aid 0, .transmit [0, 0x10, 0, 0, 1],
        .transmit [0, 0x70, 0x80, 2], .deselect 0]
    card.Reachable ∧ card.channels.isOpen 1 = true ∧ LeavesAlone 1 card operations ∧
      (operations.foldl next card).channels.channels[1]? = some ⟨true, some ⟨1⟩, [3, 4, 5]⟩ := by
  intro config powered aid factory installed opened selected card operations
  have hvalid : config.validate = .ok () := by decide
  have hatr : config.readAtr = .ok [0x3B] := by decide
  have hpowered : Card.ofConfig config () = .ok powered := by rw [Card.ofConfig, hvalid, hatr]
  have hinstalled : installed.Reachable :=
    @Reachable.next _ powered (.ofConfig hpowered) (.install aid [] factory) trivial
  have hopened : opened.Reachable :=
    @Reachable.next _ installed hinstalled (.openChannel 0 none) trivial
  have hselected : selected.Reachable :=
    @Reachable.next _ opened hopened (.select aid 1) trivial
  have hreach : card.Reachable :=
    @Reachable.next _ selected hselected (.transmit [1, 0x10, 0, 0, 2]) trivial
  have hopen : card.channels.isOpen 1 = true := by decide +kernel
  have halone : LeavesAlone 1 card operations :=
    ⟨by decide +kernel, by decide +kernel, by decide +kernel, by decide +kernel,
      by decide +kernel, trivial⟩
  have hwaiting : card.channels.channels[1]? = some ⟨true, some ⟨1⟩, [3, 4, 5]⟩ := by
    decide +kernel
  obtain ⟨-, -, -, -, hslot⟩ := channels_isolated hreach
  exact ⟨hreach, hopen, halone, (hslot 1 operations hopen halone).trans hwaiting⟩

end Card

end SmartCard
