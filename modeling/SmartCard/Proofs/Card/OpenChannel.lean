import SmartCard.Proofs.Card.Isolation

/-!
# Opening a channel

A channel can be opened if the table offers it (`ChannelTable.Offers`): it is closed, and it is the
one asked for or else the lowest. From a channel other than the basic one it takes over the applet
selected there, which has to be meant for several channels and has to consent. `Card.OpeningFault`
lists all that can be in the way, each with its word.

The channel is marked open before the applet is asked. While it is asked, the applet is still
selected on the channel that it comes from, so a refusal forgets nothing; and closed channels are
blank, so closing the channel again leaves the table as it was (`Card.openChannel_of_refused`).
`Card.open_channel_all_or_nothing` puts this together, for the host and for commands.
-/

set_option autoImplicit false
set_option relaxedAutoImplicit false

namespace SmartCard

namespace ChannelTable

/-! ### The channel to open -/

/-- Whether a channel is the one to open: the one asked for, or else the lowest that is closed. -/
structure Offers (table : ChannelTable) (requested : Option Nat) (channel : Nat) : Prop where
  ne_basic : channel ≠ 0
  lt_count : channel < table.count
  closed : table.isOpen channel = false
  asked : ∀ named ∈ requested, channel = named
  lowest : requested = none → ∀ lower < channel, table.isOpen lower = true

/-- Why there is no channel to open. -/
inductive Denies (table : ChannelTable) (requested : Option Nat) : StatusWord → Prop where
  | noneClosed (hrequested : requested = none)
    (hopen : ∀ channel < table.count, table.isOpen channel = true) :
    Denies table requested .functionNotSupported
  | missing {named : Nat} (hrequested : requested = some named) (hcount : table.count ≤ named) :
    Denies table requested .logicalChannelNotSupported
  | alreadyOpen {named : Nat} (hrequested : requested = some named)
    (hopen : table.isOpen named = true) : Denies table requested .incorrectParameters

variable {table : ChannelTable} {requested : Option Nat} {channel : Nat}

/-- An open channel is one of the table. -/
theorem lt_count_of_isOpen (hopen : table.isOpen channel = true) : channel < table.count := by
  rw [isOpen] at hopen
  cases hslot : table.channels[channel]? with
  | none =>
    rw [hslot] at hopen
    cases hopen
  | some slot => exact (List.getElem?_eq_some_iff.mp hslot).1

theorem lowestClosed?_eq_some_iff :
    table.lowestClosed? = some channel ↔ channel < table.count ∧ table.isOpen channel = false ∧
      ∀ lower < channel, table.isOpen lower = true := by
  rw [lowestClosed?, List.findIdx?_eq_some_iff_getElem]
  have hslot : ∀ {other : Nat} (hbound : other < table.channels.length),
      table.isOpen other = table.channels[other].isOpen := by
    intro other hbound
    rw [isOpen, List.getElem?_eq_getElem hbound, Option.any_some]
  constructor
  · rintro ⟨hbound, hclosed, hlower⟩
    refine ⟨hbound, (hslot hbound).trans (Bool.not_eq_true' _ |>.mp hclosed), ?_⟩
    intro lower hless
    have hopen := hlower lower hless
    rw [Bool.not_eq_true', Bool.not_eq_false] at hopen
    exact (hslot (hless.trans hbound)).trans hopen
  · rintro ⟨hbound, hclosed, hlower⟩
    refine ⟨hbound, Bool.not_eq_true' _ |>.mpr ((hslot hbound).symm.trans hclosed), ?_⟩
    intro lower hless
    rw [Bool.not_eq_true', Bool.not_eq_false]
    exact (hslot (hless.trans hbound)).symm.trans (hlower lower hless)

/-- The channel offered is the one reserved. -/
theorem Offers.reserveChannel (hoffers : table.Offers requested channel) :
    Card.reserveChannel table requested = .ok (channel, table.markOpen channel) := by
  unfold Card.reserveChannel
  cases requested with
  | none =>
    have hlowest : table.lowestClosed? = some channel :=
      lowestClosed?_eq_some_iff.mpr ⟨hoffers.lt_count, hoffers.closed, hoffers.lowest rfl⟩
    rw [openLowest, hlowest]
    rfl
  | some named =>
    obtain rfl := hoffers.asked named rfl
    dsimp only
    rw [if_neg (Nat.not_le_of_lt hoffers.lt_count), openAt,
      if_pos ⟨hoffers.lt_count, Bool.not_eq_true' _ |>.mpr hoffers.closed⟩]

/-- If none is offered, the reason is told. -/
theorem Denies.reserveChannel {word : StatusWord} (hdenies : table.Denies requested word) :
    Card.reserveChannel table requested = .error word := by
  unfold Card.reserveChannel
  cases hdenies with
  | noneClosed hrequested hopen =>
    subst hrequested
    have hlowest : table.lowestClosed? = none := by
      cases hfound : table.lowestClosed? with
      | none => rfl
      | some channel =>
        obtain ⟨hbound, hclosed, -⟩ := lowestClosed?_eq_some_iff.mp hfound
        exact absurd (hclosed.symm.trans (hopen channel hbound)) Bool.false_ne_true
    rw [openLowest, hlowest]
    rfl
  | missing hrequested hcount =>
    subst hrequested
    exact if_pos hcount
  | @alreadyOpen named hrequested hopen =>
    subst hrequested
    dsimp only
    have hshut : ¬(named < table.count ∧ (!table.isOpen named) = true) := by
      rw [hopen]
      exact fun hboth ↦ Bool.false_ne_true hboth.2
    rw [if_neg (Nat.not_le_of_lt (lt_count_of_isOpen hopen)), openAt, if_neg hshut]

/-- A channel is offered, or there is a reason why none is. -/
theorem offers_or_denies (hbasic : table.isOpen 0 = true) (requested : Option Nat) :
    (∃ channel, table.Offers requested channel) ∨ ∃ word, table.Denies requested word := by
  have hother : ∀ {channel}, table.isOpen channel = false → channel ≠ 0 := by
    rintro channel hclosed rfl
    exact Bool.false_ne_true (hclosed.symm.trans hbasic)
  cases requested with
  | none =>
    by_cases hopen : ∀ channel < table.count, table.isOpen channel = true
    · exact .inr ⟨_, .noneClosed rfl hopen⟩
    · left
      cases hlowest : table.lowestClosed? with
      | none =>
        refine absurd (fun channel hbound ↦ ?_) hopen
        have hslot := List.findIdx?_eq_none_iff.mp hlowest _ (List.getElem_mem hbound)
        rw [isOpen, List.getElem?_eq_getElem hbound, Option.any_some]
        exact Bool.not_eq_false' .. |>.mp hslot
      | some channel =>
        obtain ⟨hbound, hclosed, hlower⟩ := lowestClosed?_eq_some_iff.mp hlowest
        refine ⟨channel, hother hclosed, hbound, hclosed, fun other hnamed ↦ ?_, fun _ ↦ hlower⟩
        exact absurd hnamed.symm (Option.some_ne_none other)
  | some named =>
    by_cases hcount : table.count ≤ named
    · exact .inr ⟨_, .missing rfl hcount⟩
    cases hopen : table.isOpen named with
    | true => exact .inr ⟨_, .alreadyOpen rfl hopen⟩
    | false =>
      refine .inl ⟨named, hother hopen, Nat.lt_of_not_le hcount, hopen, fun other hsame ↦ ?_,
        fun hnone ↦ absurd hnone (Option.some_ne_none named)⟩
      exact Option.some.inj hsame

end ChannelTable

namespace Card

open ChannelTable

variable {σ : Type} (card : Card σ)

/-! ### What can be in the way -/

/-- What a channel opened from another takes over: the applet selected there, unless that is the
basic channel. -/
def inherited? (origin : Nat) : Option ContextId :=
  if origin = 0 then none else card.channels.selected origin

/-- The card with a channel opened and nothing on it. -/
def marked (channel : Nat) : Card σ :=
  { card with channels := card.channels.markOpen channel }

/-- The card with a channel opened and an applet put there. -/
def readied (channel : Nat) (context : ContextId) : Card σ :=
  (card.marked channel).setSelected channel (some context)

/-- An applet is asked to take a channel just opened. -/
def asking (channel : Nat) (entry : Registration σ) : Piece σ :=
  (card.readied channel entry.context).code ⟨entry.context, channel, true⟩ entry.applet.select

/-- What an applet answers when it is asked to take a channel just opened. -/
def consent (channel : Nat) (entry : Registration σ) : Ending Bool :=
  ((card.readied channel entry.context).activate ⟨entry.context, channel, true⟩
    entry.applet.select).1

/-- The card with what an applet did when it was asked to take a channel, all undone that it left
open. -/
def afterAsking (channel : Nat) (entry : Registration σ) : Card σ :=
  { card with
    platform := (card.asking channel entry).stop.platform.settle
    host := (card.asking channel entry).stop.host }

/-- The code that runs when a channel is opened. -/
def openChannelPieces (card : Card σ) (origin : Nat) (requested : Option Nat) : List (Piece σ) :=
  card.piecesAlong (card.openChannelStages origin requested)

/-- Why no channel is opened, with the word that says so. -/
inductive OpeningFault (origin : Nat) (requested : Option Nat) : StatusWord → Prop where
  | shut (hshut : card.channels.isOpen origin = false ∨ card.channels.count = 1) :
    OpeningFault origin requested .logicalChannelNotSupported
  | denied {word : StatusWord} (hopen : card.channels.isOpen origin = true)
    (hcount : card.channels.count ≠ 1) (hdenies : card.channels.Denies requested word) :
    OpeningFault origin requested word
  | single {channel : Nat} {entry : Registration σ} (hopen : card.channels.isOpen origin = true)
    (hoffers : card.channels.Offers requested channel) (hentry : entry ∈ card.registry.entries)
    (hinherited : card.inherited? origin = some entry.context)
    (hsingle : entry.applet.multiSelectable = false) :
    OpeningFault origin requested .conditionsNotSatisfied
  | refused {channel : Nat} {entry : Registration σ} (hopen : card.channels.isOpen origin = true)
    (hoffers : card.channels.Offers requested channel) (hentry : entry ∈ card.registry.entries)
    (hinherited : card.inherited? origin = some entry.context)
    (hmultiple : entry.applet.multiSelectable = true)
    (hrefuses : card.consent channel entry ≠ .value true) :
    OpeningFault origin requested .appletSelectFailed

variable {card} {config : Config} {origin channel : Nat} {requested : Option Nat}

/-! ### Without an applet -/

theorem openChannel_of_shut
    (hshut : card.channels.isOpen origin = false ∨ card.channels.count = 1) :
    card.openChannel origin requested = (.error .logicalChannelNotSupported, card) ∧
      card.openChannelPieces origin requested = [] := by
  have hguard : (!card.channels.isOpen origin || card.channels.count == 1) = true := by
    rw [Bool.or_eq_true, Bool.not_eq_true', beq_iff_eq]
    exact hshut
  unfold openChannel openChannelPieces openChannelStages
  rw [if_pos hguard, if_pos hguard]
  exact ⟨rfl, rfl⟩

theorem openChannel_of_denied {word : StatusWord} (hopen : card.channels.isOpen origin = true)
    (hcount : card.channels.count ≠ 1) (hdenies : card.channels.Denies requested word) :
    card.openChannel origin requested = (.error word, card) ∧
      card.openChannelPieces origin requested = [] := by
  unfold openChannel openChannelPieces openChannelStages
  rw [hopen, beq_eq_false_iff_ne.mpr hcount, hdenies.reserveChannel]
  exact ⟨rfl, rfl⟩

/-- A table that offers a channel has more than the basic one. -/
theorem count_ne_one (hoffers : card.channels.Offers requested channel) :
    card.channels.count ≠ 1 := by
  intro hcount
  exact hoffers.ne_basic (Nat.lt_one_iff.mp (hcount ▸ hoffers.lt_count))

theorem openChannel_of_vacant (hopen : card.channels.isOpen origin = true)
    (hoffers : card.channels.Offers requested channel) (hvacant : card.inherited? origin = none) :
    card.openChannel origin requested =
        (.ok channel, { card with channels := card.channels.markOpen channel }) ∧
      card.openChannelPieces origin requested = [] := by
  rw [inherited?] at hvacant
  unfold openChannel openChannelPieces openChannelStages
  rw [hopen, beq_eq_false_iff_ne.mpr (count_ne_one hoffers), hoffers.reserveChannel]
  simp only [selected_markOpen, hvacant]
  exact ⟨rfl, rfl⟩

/-! ### With an applet -/

/-- Nobody leaves a channel on which nothing is selected. -/
theorem deselect_of_vacant (hvacant : card.channels.selected channel = none) :
    card.deselect channel = card ∧ card.deselectPieces channel = [] := by
  unfold deselect deselectPieces
  rw [hvacant]
  exact ⟨rfl, rfl⟩

/-- On a closed channel nothing is selected. -/
theorem selected_of_shut (hseats : card.channels.Seats card.registry)
    (hshut : card.channels.isOpen channel = false) : card.channels.selected channel = none := by
  cases hslot : card.channels.channels[channel]? with
  | none => rw [selected, hslot, Option.bind_none]
  | some slot =>
    rw [isOpen, hslot] at hshut
    rw [selected, hslot, hseats.closed hslot hshut]
    rfl

/-- An applet selected on another channel is active elsewhere. -/
theorem activeElsewhere_of_selected {table : ChannelTable} {context : ContextId}
    (hselected : table.selected origin = some context) (hother : origin ≠ channel) :
    table.activeElsewhere context channel = true := by
  rw [← Bool.not_eq_false, activeElsewhere_eq_false_iff]
  exact fun halone ↦ hother (halone origin hselected)

theorem selected_of_inherited {context : ContextId}
    (hinherited : card.inherited? origin = some context) :
    card.channels.selected origin = some context := by
  rw [inherited?] at hinherited
  split at hinherited
  · cases hinherited
  · exact hinherited

/-- The card with all that an applet did when it was asked to take a channel. -/
def asked (card : Card σ) (channel : Nat) (entry : Registration σ) : Card σ :=
  { card.readied channel entry.context with
    platform := (card.asking channel entry).stop.platform
    host := (card.asking channel entry).stop.host }

theorem activate_marked (card : Card σ) (channel : Nat) (entry : Registration σ) :
    ((card.marked channel).setSelected channel (some entry.context)).activate
        ⟨entry.context, channel, true⟩ entry.applet.select =
      (card.consent channel entry, card.asked channel entry) :=
  rfl

theorem seat_of_consent {entry : Registration σ}
    (hconsents : card.consent channel entry = .value true) :
    (card.marked channel).seat channel entry = (.ok (), (card.asked channel entry).settle) := by
  unfold seat
  dsimp only
  rw [activate_marked, hconsents]

theorem seat_of_refusal {entry : Registration σ}
    (hrefuses : card.consent channel entry ≠ .value true) :
    (card.marked channel).seat channel entry = (.error .appletSelectFailed,
      (card.asked channel entry).settle.refuseSelection channel entry.context) := by
  unfold seat
  dsimp only
  rw [activate_marked]
  generalize card.consent channel entry = ending at hrefuses
  obtain ⟨_ | _⟩ | text := ending
  · rfl
  · exact absurd rfl hrefuses
  · rfl

section Inherit

variable {entry : Registration σ} (hcoheres : card.Coheres config)
  (hopen : card.channels.isOpen origin = true)
  (hoffers : card.channels.Offers requested channel) (hentry : entry ∈ card.registry.entries)
  (hinherited : card.inherited? origin = some entry.context)

include hopen hoffers in
theorem ne_of_offers : origin ≠ channel := by
  rintro rfl
  exact Bool.false_ne_true (hoffers.closed.symm.trans hopen)

include hopen hoffers hinherited

theorem pieces_of_inherited :
    card.openChannelPieces origin requested =
      (card.marked channel).piecesAlong
        ((card.marked channel).selectContextStages channel entry.context) := by
  rw [inherited?] at hinherited
  unfold openChannelPieces openChannelStages
  rw [hopen, beq_eq_false_iff_ne.mpr (count_ne_one hoffers), hoffers.reserveChannel]
  simp only [selected_markOpen, hinherited]
  change card.piecesAlong (.reserve channel ::
    (card.marked channel).selectContextStages channel entry.context ++ _) = _
  rw [List.cons_append, piecesAlong_cons, piecesAlong_append]
  generalize Card.selectContext _ channel entry.context = outcome
  obtain ⟨_ | _, after⟩ := outcome <;> exact List.append_nil _

theorem openChannel_of_selected {after : Card σ}
    (hselect : (card.marked channel).selectContext channel entry.context = (.ok (), after)) :
    card.openChannel origin requested = (.ok channel, after) := by
  rw [marked] at hselect
  rw [inherited?] at hinherited
  unfold openChannel
  rw [hopen, beq_eq_false_iff_ne.mpr (count_ne_one hoffers), hoffers.reserveChannel]
  simp only [selected_markOpen, hinherited, hselect]
  rfl

theorem openChannel_of_unselected {word : StatusWord} {after : Card σ}
    (hselect : (card.marked channel).selectContext channel entry.context = (.error word, after)) :
    card.openChannel origin requested =
      (.error word, { after with channels := after.channels.close channel }) := by
  rw [marked] at hselect
  rw [inherited?] at hinherited
  unfold openChannel
  rw [hopen, beq_eq_false_iff_ne.mpr (count_ne_one hoffers), hoffers.reserveChannel]
  simp only [selected_markOpen, hinherited, hselect]
  rfl

include hcoheres hentry

/-- An applet that is not meant for several channels is not even asked. -/
theorem openChannel_of_single (hsingle : entry.applet.multiSelectable = false) :
    card.openChannel origin requested = (.error .conditionsNotSatisfied, card) ∧
      card.openChannelPieces origin requested = [] := by
  have hfound : (card.marked channel).registry.inContext? entry.context = some entry :=
    hcoheres.inContext?_eq_some hentry
  have hbusy : (card.marked channel).isBusy channel entry = true := by
    rw [isBusy, hsingle]
    refine activeElsewhere_of_selected ?_ (ne_of_offers hopen hoffers)
    exact (selected_markOpen _ _ _).trans (selected_of_inherited hinherited)
  have hselect := selectContext_of_isBusy hfound hbusy
  have hclosed := close_selectContext hcoheres.seats hoffers.closed entry.context
  rw [← marked, hselect] at hclosed
  constructor
  · rw [openChannel_of_unselected hopen hoffers hinherited hselect, hclosed]
    rfl
  · rw [pieces_of_inherited hopen hoffers hinherited]
    rw [selectContextStages, hfound]
    dsimp only
    rw [hbusy]
    rfl

section Multiple

variable (hmultiple : entry.applet.multiSelectable = true)

include hmultiple

/-- An applet that is meant for several channels is asked, and nothing else runs. -/
theorem selectContext_marked :
    (card.marked channel).selectContext channel entry.context =
        (card.marked channel).seat channel entry ∧
      card.openChannelPieces origin requested = [card.asking channel entry] := by
  have hfound : (card.marked channel).registry.inContext? entry.context = some entry :=
    hcoheres.inContext?_eq_some hentry
  have hfree : (card.marked channel).isBusy channel entry = false := by
    rw [isBusy, hmultiple]
    rfl
  have hvacant : (card.marked channel).channels.selected channel = none :=
    (selected_markOpen _ _ _).trans (selected_of_shut hcoheres.seats hoffers.closed)
  obtain ⟨hdeselect, hpieces⟩ := deselect_of_vacant hvacant
  constructor
  · rw [selectContext_eq hfound hfree, hdeselect]
  · rw [pieces_of_inherited hopen hoffers hinherited]
    rw [selectContextStages, hfound]
    dsimp only
    rw [hfree, if_neg Bool.false_ne_true, piecesAlong_cons, piecesAlong_singleton, stagePieces,
      hpieces, perform, hdeselect]
    rfl

theorem openChannel_of_consent (hconsents : card.consent channel entry = .value true) :
    card.openChannel origin requested = (.ok channel, (card.asked channel entry).settle) := by
  have hselect := (selectContext_marked hcoheres hopen hoffers hentry hinherited hmultiple).1
  rw [seat_of_consent hconsents] at hselect
  exact openChannel_of_selected hopen hoffers hinherited hselect

/-- An applet that refuses the new channel has its other one still, so nothing is forgotten, and
the new channel is closed as it was. -/
theorem openChannel_of_refused (hrefuses : card.consent channel entry ≠ .value true) :
    card.openChannel origin requested =
      (.error .appletSelectFailed, card.afterAsking channel entry) := by
  have hselect := (selectContext_marked hcoheres hopen hoffers hentry hinherited hmultiple).1
  rw [seat_of_refusal hrefuses] at hselect
  have hother := ne_of_offers hopen hoffers
  have hactive : ((card.asked channel entry).settle.setSelected channel
      none).channels.activeElsewhere entry.context channel = true := by
    refine activeElsewhere_of_selected ?_ hother
    refine (selected_setSelected_of_ne _ hother.symm _).trans ?_
    refine (selected_setSelected_of_ne _ hother.symm _).trans ?_
    exact (selected_markOpen _ _ _).trans (selected_of_inherited hinherited)
  have hclosed := close_selectContext hcoheres.seats hoffers.closed entry.context
  rw [← marked, hselect] at hclosed
  rw [openChannel_of_unselected hopen hoffers hinherited hselect, hclosed, refuseSelection,
    if_pos hactive]
  rfl

end Multiple

end Inherit

/-! ### All or nothing -/

/-- That opening a channel from another one opens just that channel, or leaves every channel as it
was. -/
structure OpensOrNot (card : Card σ) (origin : Nat) (requested : Option Nat) : Prop where
  /-- Success opens the channel offered, with what it takes over. -/
  opened : ∀ channel, (card.openChannel origin requested).1 = .ok channel →
    card.channels.Offers requested channel ∧
      (card.openChannel origin requested).2.channels.channels[channel]? =
        some ⟨true, card.inherited? origin, []⟩ ∧
      (card.openChannel origin requested).2.channels.AgreesBeside card.channels channel
  /-- Failure leaves all channels as they were. -/
  unchanged : ∀ word, (card.openChannel origin requested).1 = .error word →
    (card.openChannel origin requested).2.channels = card.channels
  /-- If no applet refused, no code ran and nothing at all has changed. -/
  untouched : ∀ word, (card.openChannel origin requested).1 = .error word →
    word ≠ .appletSelectFailed →
      (card.openChannel origin requested).2 = card ∧ card.openChannelPieces origin requested = []
  /-- If one refused, nothing ran but its selection on the channel offered, and nothing happened
  beyond what that did. -/
  refused : (card.openChannel origin requested).1 = .error .appletSelectFailed →
    ∃ channel, ∃ entry ∈ card.registry.entries, card.channels.Offers requested channel ∧
      card.inherited? origin = some entry.context ∧
      card.openChannelPieces origin requested = [card.asking channel entry] ∧
      (card.openChannel origin requested).2 = card.afterAsking channel entry
  /-- The failures are just those for which there is a reason. -/
  reason_iff : ∀ word, (card.openChannel origin requested).1 = .error word ↔
    card.OpeningFault origin requested word

/-- What a reason not to open a channel leads to. -/
theorem OpeningFault.outcome (hcoheres : card.Coheres config) {word : StatusWord}
    (hfault : card.OpeningFault origin requested word) :
    (card.openChannel origin requested).1 = .error word ∧
      (word ≠ .appletSelectFailed ∧ (card.openChannel origin requested).2 = card ∧
          card.openChannelPieces origin requested = [] ∨
        word = .appletSelectFailed ∧
          ∃ channel, ∃ entry ∈ card.registry.entries, card.channels.Offers requested channel ∧
            card.inherited? origin = some entry.context ∧
            card.openChannelPieces origin requested = [card.asking channel entry] ∧
            (card.openChannel origin requested).2 = card.afterAsking channel entry) := by
  cases hfault with
  | shut hshut =>
    obtain ⟨houtcome, hpieces⟩ := openChannel_of_shut hshut
    rw [houtcome]
    exact ⟨rfl, .inl ⟨by decide, rfl, hpieces⟩⟩
  | denied hopen hcount hdenies =>
    obtain ⟨houtcome, hpieces⟩ := openChannel_of_denied hopen hcount hdenies
    rw [houtcome]
    exact ⟨rfl, .inl ⟨by cases hdenies <;> decide, rfl, hpieces⟩⟩
  | single hopen hoffers hentry hinherited hsingle =>
    obtain ⟨houtcome, hpieces⟩ :=
      openChannel_of_single hcoheres hopen hoffers hentry hinherited hsingle
    rw [houtcome]
    exact ⟨rfl, .inl ⟨by decide, rfl, hpieces⟩⟩
  | refused hopen hoffers hentry hinherited hmultiple hrefuses =>
    have hpieces :=
      (selectContext_marked hcoheres hopen hoffers hentry hinherited hmultiple).2
    rw [openChannel_of_refused hcoheres hopen hoffers hentry hinherited hmultiple hrefuses]
    exact ⟨rfl, .inr ⟨rfl, _, _, hentry, hoffers, hinherited, hpieces, rfl⟩⟩

/-- Where there is no such reason the channel offered is opened. -/
theorem faults_or_opens (hcoheres : card.Coheres config) (origin : Nat) (requested : Option Nat) :
    (∃ word, card.OpeningFault origin requested word) ∨
      ∃ channel after, card.channels.Offers requested channel ∧
        card.openChannel origin requested = (.ok channel, after) ∧
        after.channels.channels[channel]? = some ⟨true, card.inherited? origin, []⟩ ∧
        after.channels.AgreesBeside card.channels channel := by
  by_cases hshut : card.channels.isOpen origin = false ∨ card.channels.count = 1
  · exact .inl ⟨_, .shut hshut⟩
  obtain ⟨hopen, hcount⟩ := not_or.mp hshut
  rw [Bool.not_eq_false] at hopen
  obtain ⟨channel, hoffers⟩ | ⟨word, hdenies⟩ :=
    offers_or_denies hcoheres.seats.basic requested
  · have hslot : (card.channels.markOpen channel).channels[channel]? = some .opened := by
      have hbound : channel < card.channels.channels.length := hoffers.lt_count
      have hformer := List.getElem?_eq_getElem hbound
      have hclosed := hoffers.closed
      rw [isOpen, hformer, Option.any_some] at hclosed
      rw [markOpen, getElem?_modify, hformer, hcoheres.seats.closed hformer hclosed,
        Option.map_some, if_pos rfl]
      rfl
    have hbeside := card.channels.agreesBeside_modify channel fun slot ↦
      { slot with isOpen := true }
    cases hinherited : card.inherited? origin with
    | none =>
      obtain ⟨houtcome, -⟩ := openChannel_of_vacant hopen hoffers hinherited
      exact .inr ⟨channel, _, hoffers, houtcome, hslot, hbeside⟩
    | some context =>
      obtain ⟨entry, hentry, rfl⟩ :=
        hcoheres.seats.registered (selected_of_inherited hinherited)
      cases hmultiple : entry.applet.multiSelectable with
      | false => exact .inl ⟨_, .single hopen hoffers hentry hinherited hmultiple⟩
      | true =>
        by_cases hconsents : card.consent channel entry = .value true
        · have houtcome := openChannel_of_consent hcoheres hopen hoffers hentry hinherited hmultiple
            hconsents
          refine .inr ⟨channel, _, hoffers, houtcome, ?_, ?_⟩
          · refine (getElem?_modify _ channel channel _).trans ?_
            have hmarked : (card.marked channel).channels.channels[channel]? = some .opened := hslot
            rw [hmarked, Option.map_some, if_pos rfl]
            rfl
          · exact AgreesBeside.trans (agreesBeside_modify _ channel _) hbeside
        · exact .inl ⟨_, .refused hopen hoffers hentry hinherited hmultiple hconsents⟩
  · exact .inl ⟨word, .denied hopen hcount hdenies⟩

theorem Coheres.opensOrNot (hcoheres : card.Coheres config) (origin : Nat)
    (requested : Option Nat) : card.OpensOrNot origin requested := by
  have hreason : ∀ word, (card.openChannel origin requested).1 = .error word ↔
      card.OpeningFault origin requested word := by
    intro word
    refine ⟨fun herror ↦ ?_, fun hfault ↦ (hfault.outcome hcoheres).1⟩
    rcases faults_or_opens hcoheres origin requested with
      ⟨first, hfault⟩ | ⟨channel, after, -, houtcome, -, -⟩
    · cases (hfault.outcome hcoheres).1.symm.trans herror
      exact hfault
    · rw [houtcome] at herror
      cases herror
  refine ⟨fun channel hopened ↦ ?_, fun word herror ↦ ?_, fun word herror hword ↦ ?_,
    fun herror ↦ ?_, hreason⟩
  · rcases faults_or_opens hcoheres origin requested with
      ⟨word, hfault⟩ | ⟨found, after, hoffers, houtcome, hslot, hbeside⟩
    · cases (hfault.outcome hcoheres).1.symm.trans hopened
    · rw [houtcome] at hopened ⊢
      cases hopened
      exact ⟨hoffers, hslot, hbeside⟩
  · rcases ((hreason word).mp herror |>.outcome hcoheres).2 with
      ⟨-, hsame, -⟩ | ⟨-, channel, entry, -, -, -, -, hafter⟩
    · rw [hsame]
    · rw [hafter]
      rfl
  · rcases ((hreason word).mp herror |>.outcome hcoheres).2 with ⟨-, hsame⟩ | ⟨hrefused, -⟩
    · exact hsame
    · exact absurd hrefused hword
  · rcases ((hreason _).mp herror |>.outcome hcoheres).2 with ⟨hother, -⟩ | ⟨-, hrefused⟩
    · exact absurd rfl hother
    · exact hrefused

/-! ### By command -/

/-- The channel that a command asks for: none in particular if the parameter is zero. -/
def requestedBy (command : Command) : Option Nat :=
  if command.p2.toNat = 0 then none else some command.p2.toNat

/-- The response to a command to open a channel. A channel that was not asked for is told. -/
def openingResponse (command : Command) : Except StatusWord Nat → List UInt8
  | .error word => word.toBytes
  | .ok channel =>
    (if command.p2.toNat = 0 then [UInt8.ofNat channel] else []) ++ StatusWord.noError.toBytes

/-- That a command to open a channel, once it has reached its own channel and taken the bytes that
wait there, opens a channel from it or leaves every channel as it was. -/
structure OpensByCommand (card : Card σ) (raw : List UInt8) (command : Command) : Prop where
  /-- A command on a closed channel is turned away. -/
  unreached : card.channels.isOpen command.channel = false →
    card.transmit raw = (StatusWord.logicalChannelNotSupported.toBytes, card) ∧
      card.pieces (.transmit raw) = []
  /-- On an open channel it goes as if the host had asked. -/
  reached : card.channels.isOpen command.channel = true →
    (card.taken command).OpensOrNot command.channel (requestedBy command) ∧
      card.transmit raw =
        (openingResponse command
            ((card.taken command).openChannel command.channel (requestedBy command)).1,
          ((card.taken command).openChannel command.channel (requestedBy command)).2) ∧
      card.pieces (.transmit raw) =
        (card.taken command).openChannelPieces command.channel (requestedBy command)

section Command

variable {raw : List UInt8} {command : Command}
  (hmanages : isInstruction command Command.manageChannelInstruction = true)

include hmanages in
/-- The code that a command about channels runs is that of the channel managed. -/
theorem piecesAlong_of_manages (hopen : card.channels.isOpen command.channel = true) :
    card.piecesAlong (card.dispatchStages command) =
      (card.taken command).piecesAlong ((card.taken command).manageChannelStages command) := by
  have hvalid := classByte_ne_invalid hmanages
  have hfetches := not_fetches_of_manages hmanages
    (!(card.channels.pending command.channel).isEmpty)
  have hstages : card.routeStages command =
      .wait command.channel [] :: (card.taken command).manageChannelStages command := by
    unfold routeStages
    dsimp only
    rw [if_neg hvalid, hopen, Bool.not_true, if_neg Bool.false_ne_true, if_neg hfetches,
      if_pos hmanages]
    rfl
  unfold dispatchStages
  rw [hstages, route_of_manages hvalid hopen hmanages, piecesAlong_append, piecesAlong_cons]
  generalize (card.taken command).manageChannel command = managed
  obtain ⟨_ | _, after⟩ := managed <;> exact List.append_nil _

include hmanages in
theorem opensByCommand (hcoheres : card.Coheres config)
    (hparse : Command.parse raw card.config.extendedLength = .ok command)
    (hopens : command.p1 = manageOpen) : card.OpensByCommand raw command where
  unreached := fun hshut ↦ by
    have hvalid := classByte_ne_invalid hmanages
    constructor
    · refine transmit_of_rejection ?_
      rw [rejection?, hparse]
      dsimp only
      rw [if_neg hvalid, hshut, if_neg Bool.false_ne_true]
    · rw [pieces, stages, transmitStages, hparse]
      dsimp only
      unfold dispatchStages routeStages route
      dsimp only
      rw [if_neg hvalid, if_neg hvalid, hshut, Bool.not_false, if_pos rfl, if_pos rfl]
      rfl
  reached := fun hopen ↦ by
    have hvalid := classByte_ne_invalid hmanages
    have htaken : (card.taken command).Coheres config :=
      { hcoheres with seats := hcoheres.seats.wait hopen [] }
    refine ⟨htaken.opensOrNot _ _, ?_, ?_⟩
    · rw [transmit_of_parse hparse, dispatch_of_manages hvalid hopen hmanages, manageChannel]
      dsimp only
      rw [if_pos hopens, ← requestedBy]
      generalize (card.taken command).openChannel command.channel _ = opened
      obtain ⟨_ | _, after⟩ := opened <;> rfl
    · rw [pieces, stages, transmitStages, hparse]
      dsimp only
      rw [piecesAlong_of_manages hmanages hopen, manageChannelStages, if_pos hopens, ← requestedBy]
      rfl

end Command

/-- Opening a channel is all or nothing. The host or a command may ask, from any channel and for
any: if it succeeds, the channel offered was closed and is open, with nothing waiting and with the
applet of the channel that it is opened from, unless that is the basic one; no other channel
changes. If it fails, no channel changes and nothing is forgotten, and no code ran unless an applet
meant for several channels was asked and refused. -/
theorem open_channel_all_or_nothing (hreach : card.Reachable) :
    (∀ origin requested, card.OpensOrNot origin requested) ∧
      ∀ raw command, Command.parse raw card.config.extendedLength = .ok command →
        isInstruction command Command.manageChannelInstruction = true →
        command.p1 = manageOpen → card.OpensByCommand raw command := by
  obtain ⟨config, hcoheres⟩ := hreach.exists_coheres
  exact ⟨hcoheres.opensOrNot, fun raw command hparse hmanages hopens ↦
    opensByCommand hmanages hcoheres hparse hopens⟩

/-- An applet that has written to an array refuses to be selected on the third channel; the array
keeps what was written, and the channel stays closed. -/
theorem open_channel_all_or_nothing_refused :
    let config : Config := { atr := "3B" }
    let powered : Card Unit := {
      config := config
      atr := [0x3B]
      platform := ⟨.empty config.quotas config.commitCapacity, .initial⟩
      registry := .empty config.maxApplets
      channels := .initial config.logicalChannels
      host := () }
    let aid : Aid := ⟨[0xA0, 0, 0, 0, 1], by decide, by decide⟩
    let factory : Factory Unit := fun _ ↦ do
      Code.register
      let array ← Code.allocate .clearOnDeselect .byte 2
      return {
        process := Code.lift (Code.write array 0 [7, 9])
        select := do
          let channel : Nat ← Code.ofService .ownChannel
          return channel == 1
        multiSelectable := true }
    let installed := powered.next (.install aid [] factory)
    let opened := installed.next (.openChannel 0 none)
    let selected := opened.next (.select aid 1)
    let card := selected.next (.transmit [1, 0x10, 0, 0])
    let raw : List UInt8 := [1, 0x70, 0, 2]
    let command : Command := ⟨1, 0x70, 0, 2, [], none, false⟩
    card.Reachable ∧ Command.parse raw card.config.extendedLength = .ok command ∧
      isInstruction command Command.manageChannelInstruction = true ∧ command.p1 = manageOpen ∧
      (card.transmit raw).1 = [0x69, 0x99] ∧
      (card.transmit raw).2.channels = card.channels ∧
      (card.transmit raw).2.platform.store.heap.read .system ⟨1, ⟨1⟩⟩ 0 2 = .ok [7, 9] := by
  intro config powered aid factory installed opened selected card raw command
  have hvalid : config.validate = .ok () := by decide
  have hatr : config.readAtr = .ok [0x3B] := by decide
  have hpowered : Card.ofConfig config () = .ok powered := by rw [Card.ofConfig, hvalid, hatr]
  have hinstalled : installed.Reachable :=
    @Reachable.next _ powered (.ofConfig hpowered) (.install aid [] factory) trivial
  have hopened : opened.Reachable :=
    @Reachable.next _ installed hinstalled (.openChannel 0 none) trivial
  have hselected : selected.Reachable :=
    @Reachable.next _ opened hopened (.select aid 1) trivial
  have hreach : card.Reachable :=
    @Reachable.next _ selected hselected (.transmit [1, 0x10, 0, 0]) trivial
  have hparse : Command.parse raw card.config.extendedLength = .ok command := by decide +kernel
  have hmanages : isInstruction command Command.manageChannelInstruction = true := by decide
  have hopen : card.channels.isOpen command.channel = true := by decide +kernel
  have hrefused : ((card.taken command).openChannel command.channel (requestedBy command)).1 =
      .error .appletSelectFailed := by decide +kernel
  have htaken : (card.taken command).channels = card.channels := by decide +kernel
  have hkept : (card.transmit raw).2.platform.store.heap.read .system ⟨1, ⟨1⟩⟩ 0 2 =
      .ok [7, 9] := by decide +kernel
  obtain ⟨hopens, htransmit, -⟩ := ((open_channel_all_or_nothing hreach).2 raw command hparse
    hmanages rfl).reached hopen
  have hresponse : (card.transmit raw).1 = [0x69, 0x99] := by decide +kernel
  refine ⟨hreach, hparse, hmanages, rfl, hresponse, ?_, hkept⟩
  rw [htransmit]
  exact (hopens.unchanged .appletSelectFailed hrefused).trans htaken

end Card

end SmartCard
