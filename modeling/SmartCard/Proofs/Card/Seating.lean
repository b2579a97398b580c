import Mathlib.Data.List.Nodup
import SmartCard.Card.Registry
import SmartCard.Channel

/-!
# Applets on channels

What the card does to its table of channels is one of a few changes (`ChannelTable.Change`): an
applet leaves a channel, takes one, leaves bytes to wait on one, and channels are opened and closed.
An applet takes only an open channel, and if it is not meant for several, only while it is selected
on no other.

The table seats a registry (`ChannelTable.Seats`) if the basic channel is open, closed channels are
empty, what is selected is registered, and no applet is selected twice that must not be. Every
change keeps this, and so do an installation in a fresh context and the removal of an applet that is
selected nowhere.
-/

set_option autoImplicit false
set_option relaxedAutoImplicit false

namespace SmartCard

namespace ChannelTable

/-! ### Channel by channel -/

theorem getElem?_modify (table : ChannelTable) (channel other : Nat) (change : Channel → Channel) :
    (table.modify channel change).channels[other]? =
      table.channels[other]?.map fun slot ↦ if channel = other then change slot else slot :=
  List.getElem?_modify change channel table.channels other

theorem isOpen_modify (table : ChannelTable) (channel other : Nat) (change : Channel → Channel) :
    (table.modify channel change).isOpen other =
      if channel = other then table.channels[other]?.any fun slot ↦ (change slot).isOpen
      else table.isOpen other := by
  unfold isOpen
  rw [getElem?_modify, Option.any_map]
  split <;> rfl

theorem selected_modify (table : ChannelTable) (channel other : Nat) (change : Channel → Channel) :
    (table.modify channel change).selected other =
      if channel = other then table.channels[other]?.bind fun slot ↦ (change slot).selected
      else table.selected other := by
  unfold selected
  rw [getElem?_modify, Option.bind_map]
  split <;> rfl

@[simp]
theorem isOpen_setSelected (table : ChannelTable) (channel other : Nat)
    (context : Option ContextId) :
    (table.setSelected channel context).isOpen other = table.isOpen other := by
  rw [setSelected, isOpen_modify]
  split <;> rfl

@[simp]
theorem isOpen_setPending (table : ChannelTable) (channel other : Nat) (bytes : List UInt8) :
    (table.setPending channel bytes).isOpen other = table.isOpen other := by
  rw [setPending, isOpen_modify]
  split <;> rfl

theorem pending_modify (table : ChannelTable) (channel other : Nat) (change : Channel → Channel) :
    (table.modify channel change).pending other =
      if channel = other then
        (table.channels[other]?.map fun slot ↦ (change slot).pending).getD []
      else table.pending other := by
  unfold pending
  rw [getElem?_modify, Option.map_map]
  split <;> rfl

/-- Of two changes of a channel that overwrite the same, the second counts. -/
theorem modify_modify (table : ChannelTable) (channel : Nat) {first second : Channel → Channel}
    (hsecond : ∀ slot, second (first slot) = second slot) :
    (table.modify channel first).modify channel second = table.modify channel second := by
  have hchannels : ((table.modify channel first).modify channel second).channels =
      (table.modify channel second).channels := by
    refine List.ext_getElem? fun other ↦ ?_
    rw [getElem?_modify, getElem?_modify, getElem?_modify, Option.map_map]
    refine congrArg (Option.map · _) (funext fun slot ↦ ?_)
    by_cases hother : channel = other
    · rw [Function.comp_apply, if_pos hother, if_pos hother, if_pos hother, hsecond]
    · rw [Function.comp_apply, if_neg hother, if_neg hother, if_neg hother]
  exact congrArg ChannelTable.mk hchannels

theorem setSelected_setSelected (table : ChannelTable) (channel : Nat)
    (first second : Option ContextId) :
    (table.setSelected channel first).setSelected channel second =
      table.setSelected channel second :=
  table.modify_modify channel fun _ ↦ rfl

theorem setPending_setPending (table : ChannelTable) (channel : Nat) (first second : List UInt8) :
    (table.setPending channel first).setPending channel second =
      table.setPending channel second :=
  table.modify_modify channel fun _ ↦ rfl

@[simp]
theorem pending_setSelected (table : ChannelTable) (channel other : Nat)
    (context : Option ContextId) :
    (table.setSelected channel context).pending other = table.pending other := by
  rw [setSelected, pending_modify]
  split <;> rfl

@[simp]
theorem pending_markOpen (table : ChannelTable) (channel other : Nat) :
    (table.markOpen channel).pending other = table.pending other := by
  rw [markOpen, pending_modify]
  split <;> rfl

@[simp]
theorem selected_markOpen (table : ChannelTable) (channel other : Nat) :
    (table.markOpen channel).selected other = table.selected other := by
  rw [markOpen, selected_modify]
  split <;> rfl

@[simp]
theorem selected_setPending (table : ChannelTable) (channel other : Nat) (bytes : List UInt8) :
    (table.setPending channel bytes).selected other = table.selected other := by
  rw [setPending, selected_modify]
  split <;> rfl

/-- On an open channel bytes can be left to wait. -/
theorem pending_setPending_self {table : ChannelTable} {channel : Nat}
    (hopen : table.isOpen channel = true) (bytes : List UInt8) :
    (table.setPending channel bytes).pending channel = bytes := by
  rw [setPending, pending_modify, if_pos rfl]
  unfold isOpen at hopen
  cases hslot : table.channels[channel]? with
  | none =>
    rw [hslot] at hopen
    exact nomatch hopen
  | some slot => rfl

theorem pending_setPending_of_ne (table : ChannelTable) {channel other : Nat}
    (hother : channel ≠ other) (bytes : List UInt8) :
    (table.setPending channel bytes).pending other = table.pending other := by
  rw [setPending, pending_modify, if_neg hother]

/-- In the beginning nothing waits. -/
theorem pending_initial (count channel : Nat) : (initial count).pending channel = [] := by
  unfold pending
  cases hslot : (initial count).channels[channel]? with
  | none => rfl
  | some slot =>
    rcases List.mem_cons.mp (List.mem_of_getElem? hslot) with rfl | hclosed
    · rfl
    · rw [List.eq_of_mem_replicate hclosed]
      rfl

/-- A channel other than the basic one is closed by closing it. -/
theorem isOpen_close_self (table : ChannelTable) {channel : Nat} (hchannel : channel ≠ 0) :
    (table.close channel).isOpen channel = false := by
  rw [close, if_neg hchannel, isOpen_modify, if_pos rfl]
  cases table.channels[channel]? <;> rfl

/-- Whoever leaves a channel is not selected there any more. -/
theorem selected_setSelected_none (table : ChannelTable) (channel other : Nat) :
    (table.setSelected channel none).selected other =
      if channel = other then none else table.selected other := by
  rw [setSelected, selected_modify]
  split
  · cases table.channels[other]? <;> rfl
  · rfl

/-- Whatever is selected after a channel has been taken is what has taken it, or was selected
before. -/
theorem selected_setSelected_some {table : ChannelTable} {channel other : Nat}
    {context found : ContextId}
    (hfound : (table.setSelected channel (some context)).selected other = some found) :
    channel = other ∧ context = found ∨ channel ≠ other ∧ table.selected other = some found := by
  rw [setSelected, selected_modify] at hfound
  split at hfound
  · obtain ⟨slot, -, hslot⟩ := Option.bind_eq_some_iff.mp hfound
    exact .inl ⟨‹_›, Option.some_inj.mp hslot⟩
  · exact .inr ⟨‹_›, hfound⟩

theorem selected_setSelected_of_ne (table : ChannelTable) {channel other : Nat}
    (hother : channel ≠ other) (context : Option ContextId) :
    (table.setSelected channel context).selected other = table.selected other := by
  rw [setSelected, selected_modify, if_neg hother]

/-- Whoever takes an open channel is selected there. -/
theorem selected_setSelected_self {table : ChannelTable} {channel : Nat}
    (hopen : table.isOpen channel = true) (context : Option ContextId) :
    (table.setSelected channel context).selected channel = context := by
  rw [setSelected, selected_modify, if_pos rfl]
  unfold isOpen at hopen
  cases hslot : table.channels[channel]? with
  | none =>
    rw [hslot] at hopen
    exact nomatch hopen
  | some slot => rfl

theorem mem_channelsOf {table : ChannelTable} {context : ContextId} {channel : Nat} :
    channel ∈ table.channelsOf context ↔ table.selected channel = some context := by
  unfold channelsOf channelsWhere selected
  rw [List.mem_map, Option.bind_eq_some_iff]
  constructor
  · rintro ⟨⟨slot, index⟩, hmem, rfl⟩
    obtain ⟨hslot, hselected⟩ := List.mem_filter.mp hmem
    exact ⟨slot, List.mem_zipIdx_iff_getElem?.mp hslot, eq_of_beq hselected⟩
  · rintro ⟨slot, hslot, hselected⟩
    refine ⟨(slot, channel), List.mem_filter.mpr ⟨?_, ?_⟩, rfl⟩
    · exact List.mem_zipIdx_iff_getElem?.mpr hslot
    · exact beq_iff_eq.mpr hselected

theorem channelsOf_eq_nil_iff {table : ChannelTable} {context : ContextId} :
    table.channelsOf context = [] ↔ ∀ channel, table.selected channel ≠ some context := by
  rw [List.eq_nil_iff_forall_not_mem]
  exact forall_congr' fun channel ↦ not_congr mem_channelsOf

theorem activeElsewhere_eq_false_iff {table : ChannelTable} {context : ContextId} {channel : Nat} :
    table.activeElsewhere context channel = false ↔
      ∀ other, table.selected other = some context → other = channel := by
  unfold activeElsewhere
  rw [List.any_eq_false]
  refine forall_congr' fun other ↦ ?_
  rw [mem_channelsOf, decide_eq_true_iff, ne_eq, Decidable.not_not]

/-- Leaving a channel does not make an applet active elsewhere. -/
theorem activeElsewhere_setSelected_none {table : ChannelTable} {context : ContextId}
    {channel : Nat} (helsewhere : table.activeElsewhere context channel = false) :
    (table.setSelected channel none).activeElsewhere context channel = false := by
  rw [activeElsewhere_eq_false_iff] at helsewhere ⊢
  intro other hselected
  rw [selected_setSelected_none] at hselected
  split at hselected
  · exact nomatch hselected
  · exact helsewhere other hselected

/-- Leaving a channel on which nothing is selected changes nothing. -/
theorem setSelected_none_of_selected {table : ChannelTable} {channel : Nat}
    (hselected : table.selected channel = none) : table.setSelected channel none = table := by
  have hchannels : (table.setSelected channel none).channels = table.channels := by
    refine List.ext_getElem? fun other ↦ ?_
    rw [setSelected, getElem?_modify]
    cases hslot : table.channels[other]? with
    | none => rfl
    | some slot =>
      rw [Option.map_some]
      split
      · subst other
        rw [selected, hslot] at hselected
        change slot.selected = none at hselected
        rw [← hselected]
      · rfl
  exact congrArg ChannelTable.mk hchannels

/-- Leaving some channels, one after another, takes the selection off these and no others. -/
theorem getElem?_foldl_setSelected (channels : List Nat) (table : ChannelTable) (channel : Nat) :
    (channels.foldl (·.setSelected · none) table).channels[channel]? =
      table.channels[channel]?.map fun slot ↦
        if channel ∈ channels then { slot with selected := none } else slot := by
  induction channels generalizing table with
  | nil =>
    simp only [List.foldl_nil, List.not_mem_nil, if_false, Option.map_id']
  | cons left rest ih =>
    rw [List.foldl_cons, ih, setSelected, getElem?_modify, Option.map_map]
    congr 1
    funext slot
    by_cases hleft : left = channel
    · subst hleft
      simp
    · simp [hleft, Ne.symm hleft]

/-- After an applet has left every channel in a list, it is selected on none of them. -/
theorem selected_foldl_setSelected_none (channels : List Nat) (table : ChannelTable) (other : Nat) :
    (channels.foldl (·.setSelected · none) table).selected other =
      if other ∈ channels then none else table.selected other := by
  rw [selected, getElem?_foldl_setSelected, selected]
  cases table.channels[other]? with
  | none => exact (ite_self none).symm
  | some slot =>
    rw [Option.map_some, Option.bind_some, Option.bind_some]
    exact apply_ite Channel.selected _ _ _

/-- An applet that has left all its channels is selected nowhere. -/
theorem channelsOf_foldl_setSelected_none (table : ChannelTable) (context : ContextId) :
    ((table.channelsOf context).foldl (·.setSelected · none) table).channelsOf context = [] := by
  refine channelsOf_eq_nil_iff.mpr fun channel hselected ↦ ?_
  rw [selected_foldl_setSelected_none] at hselected
  split at hselected
  · exact nomatch hselected
  · exact absurd (mem_channelsOf.mpr hselected) ‹_›

theorem isOpen_markOpen {table : ChannelTable} {channel : Nat} (hchannel : channel < table.count) :
    (table.markOpen channel).isOpen channel = true := by
  rw [markOpen, isOpen_modify, if_pos rfl, List.getElem?_eq_getElem hchannel]
  rfl

/-! ### Changes -/

section Seats

variable {σ : Type} {registry : Registry σ} {table after : ChannelTable}

/-- What the card does to the table of its channels in one go. -/
inductive Change (registry : Registry σ) (table : ChannelTable) : ChannelTable → Prop where
  | leave (channel : Nat) : Change registry table (table.setSelected channel none)
  | take {entry : Registration σ} {channel : Nat} (hentry : entry ∈ registry.entries)
    (hopen : table.isOpen channel = true)
    (halone : entry.applet.multiSelectable = true ∨
      table.activeElsewhere entry.context channel = false) :
    Change registry table (table.setSelected channel (some entry.context))
  | wait {channel : Nat} (hopen : table.isOpen channel = true) (bytes : List UInt8) :
    Change registry table (table.setPending channel bytes)
  | markOpen (channel : Nat) : Change registry table (table.markOpen channel)
  | close (channel : Nat) : Change registry table (table.close channel)
  | reset : Change registry table table.reset

/-- Whether the applets of a registry sit on the channels as they should. -/
structure Seats (table : ChannelTable) (registry : Registry σ) : Prop where
  basic : table.isOpen 0 = true
  closed : ∀ {channel : Nat} {slot : Channel}, table.channels[channel]? = some slot →
    slot.isOpen = false → slot = .closed
  registered : ∀ {channel context}, table.selected channel = some context →
    ∃ entry ∈ registry.entries, entry.context = context
  alone : ∀ {entry}, entry ∈ registry.entries → entry.applet.multiSelectable = false →
    ∀ {first second}, table.selected first = some entry.context →
      table.selected second = some entry.context → first = second

/-- A change of a channel that leaves it open, or empty if it was closed, leaves closed channels
empty. -/
theorem Seats.closed_modify (hseats : table.Seats registry) {changed : Nat}
    {change : Channel → Channel}
    (hchange : ∀ slot, table.channels[changed]? = some slot →
      (slot.isOpen = false → slot = .closed) →
      (change slot).isOpen = false → change slot = .closed)
    {channel : Nat} {slot : Channel}
    (hslot : (table.modify changed change).channels[channel]? = some slot)
    (hshut : slot.isOpen = false) : slot = .closed := by
  rw [getElem?_modify] at hslot
  obtain ⟨former, hformer, rfl⟩ := Option.map_eq_some_iff.mp hslot
  split at hshut
  · rw [if_pos ‹_›]
    subst channel
    exact hchange former hformer (hseats.closed hformer) hshut
  · rw [if_neg ‹_›]
    exact hseats.closed hformer hshut

/-- Applets stay seated when some of them leave their channels. -/
theorem Seats.of_selected_imp (hseats : table.Seats registry) (hbasic : after.isOpen 0 = true)
    (hclosed : ∀ {channel : Nat} {slot : Channel}, after.channels[channel]? = some slot →
      slot.isOpen = false → slot = .closed)
    (hselected : ∀ {channel context}, after.selected channel = some context →
      table.selected channel = some context) : after.Seats registry where
  basic := hbasic
  closed := hclosed
  registered := fun hfound ↦ hseats.registered (hselected hfound)
  alone := fun hentry hsingle _ _ hfirst hsecond ↦
    hseats.alone hentry hsingle (hselected hfirst) (hselected hsecond)

/-- In the beginning only the basic channel is open, and nothing is selected. -/
theorem seats_initial (count : Nat) (registry : Registry σ) : (initial count).Seats registry := by
  have hnone : ∀ {channel context}, (initial count).selected channel ≠ some context := by
    intro channel context hselected
    obtain ⟨slot, hslot, hcontext⟩ := Option.bind_eq_some_iff.mp hselected
    rcases List.mem_cons.mp (List.mem_of_getElem? hslot) with rfl | hmem
    · exact nomatch hcontext
    · rw [List.eq_of_mem_replicate hmem] at hcontext
      exact nomatch hcontext
  refine ⟨rfl, fun {channel slot} hslot hshut ↦ ?_, fun h ↦ absurd h hnone,
    fun _ _ _ _ h ↦ absurd h hnone⟩
  rcases List.mem_cons.mp (List.mem_of_getElem? hslot) with rfl | hmem
  · exact nomatch hshut
  · exact List.eq_of_mem_replicate hmem

theorem Seats.leave (hseats : table.Seats registry) (channel : Nat) :
    (table.setSelected channel none).Seats registry := by
  refine hseats.of_selected_imp ((isOpen_setSelected _ _ _ _).trans hseats.basic) ?_ ?_
  · refine hseats.closed_modify fun slot _ hformer hshut ↦ ?_
    rw [hformer hshut]
    rfl
  · intro other context hselected
    rw [selected_setSelected_none] at hselected
    split at hselected
    · exact nomatch hselected
    · exact hselected

/-- An open channel that stays open is not a closed one. -/
private theorem isOpen_of_getElem? {channel : Nat} {slot : Channel}
    (hopen : table.isOpen channel = true) (hslot : table.channels[channel]? = some slot) :
    slot.isOpen = true := by
  rw [isOpen, hslot] at hopen
  exact hopen

theorem Seats.take (hseats : table.Seats registry)
    (hdistinct : (registry.entries.map (·.context)).Nodup) {entry : Registration σ} {channel : Nat}
    (hentry : entry ∈ registry.entries) (hopen : table.isOpen channel = true)
    (halone : entry.applet.multiSelectable = true ∨
      table.activeElsewhere entry.context channel = false) :
    (table.setSelected channel (some entry.context)).Seats registry where
  basic := (isOpen_setSelected _ _ _ _).trans hseats.basic
  closed := fun hslot ↦ by
    rw [setSelected] at hslot
    refine hseats.closed_modify (fun former hformer _ hshut ↦ ?_) hslot
    exact absurd (isOpen_of_getElem? hopen hformer) (Bool.eq_false_iff.mp hshut)
  registered := fun hfound ↦ by
    rcases selected_setSelected_some hfound with ⟨-, hcontext⟩ | ⟨-, hformer⟩
    · exact ⟨entry, hentry, hcontext⟩
    · exact hseats.registered hformer
  alone := fun {other} hother hsingle {first second} hfirst hsecond ↦ by
    by_cases hsame : entry.context = other.context
    · -- the contexts being distinct, this is the applet that takes the channel
      have heq : other = entry := (List.inj_on_of_nodup_map hdistinct) hother hentry hsame.symm
      subst heq
      have helsewhere := activeElsewhere_eq_false_iff.mp
        (halone.resolve_left (Bool.eq_false_iff.mp hsingle))
      have hchannel : ∀ {found}, (table.setSelected channel (some other.context)).selected found =
          some other.context → found = channel := by
        intro found hfound
        rcases selected_setSelected_some hfound with ⟨hfound, -⟩ | ⟨-, hformer⟩
        · exact hfound.symm
        · exact helsewhere found hformer
      exact (hchannel hfirst).trans (hchannel hsecond).symm
    · have hformer : ∀ {found}, (table.setSelected channel (some entry.context)).selected found =
          some other.context → table.selected found = some other.context := by
        intro found hfound
        rcases selected_setSelected_some hfound with ⟨-, hcontext⟩ | ⟨-, hformer⟩
        · exact absurd hcontext hsame
        · exact hformer
      exact hseats.alone hother hsingle (hformer hfirst) (hformer hsecond)

theorem Seats.wait (hseats : table.Seats registry) {channel : Nat}
    (hopen : table.isOpen channel = true) (bytes : List UInt8) :
    (table.setPending channel bytes).Seats registry := by
  refine hseats.of_selected_imp ((isOpen_setPending _ _ _ _).trans hseats.basic) ?_ ?_
  · intro other slot hslot
    rw [setPending] at hslot
    refine hseats.closed_modify (fun former hformer _ hshut ↦ ?_) hslot
    exact absurd (isOpen_of_getElem? hopen hformer) (Bool.eq_false_iff.mp hshut)
  · intro other context hselected
    rw [setPending, selected_modify] at hselected
    split at hselected <;> exact hselected

theorem Seats.markOpen (hseats : table.Seats registry) (channel : Nat) :
    (table.markOpen channel).Seats registry := by
  refine hseats.of_selected_imp ?_
    (hseats.closed_modify fun _ _ _ hshut ↦ Bool.noConfusion hshut) ?_
  · have hbasic := hseats.basic
    rw [ChannelTable.markOpen, isOpen_modify]
    split
    · unfold isOpen at hbasic
      cases hslot : table.channels[0]? with
      | none =>
        rw [hslot] at hbasic
        exact hbasic
      | some slot => rfl
    · exact hbasic
  · intro other context hselected
    rw [ChannelTable.markOpen, selected_modify] at hselected
    split at hselected <;> exact hselected

theorem Seats.close (hseats : table.Seats registry) (channel : Nat) :
    (table.close channel).Seats registry := by
  unfold ChannelTable.close
  by_cases hchannel : channel = 0
  · rw [if_pos hchannel]
    exact hseats
  · rw [if_neg hchannel]
    refine hseats.of_selected_imp ?_ (hseats.closed_modify fun _ _ _ _ ↦ rfl) ?_
    · rw [isOpen_modify, if_neg hchannel]
      exact hseats.basic
    · intro other context hselected
      rw [selected_modify] at hselected
      split at hselected
      · obtain ⟨-, -, hnone⟩ := Option.bind_eq_some_iff.mp hselected
        exact nomatch hnone
      · exact hselected

/-- Every change keeps the applets seated. -/
theorem Seats.change (hseats : table.Seats registry)
    (hdistinct : (registry.entries.map (·.context)).Nodup) (hchange : table.Change registry after) :
    after.Seats registry := by
  cases hchange with
  | leave channel => exact hseats.leave channel
  | take hentry hopen halone => exact hseats.take hdistinct hentry hopen halone
  | wait hopen bytes => exact hseats.wait hopen bytes
  | markOpen channel => exact hseats.markOpen channel
  | close channel => exact hseats.close channel
  | reset => exact seats_initial table.count registry

/-- An applet installed in a context of its own finds the others seated. -/
theorem Seats.insert (hseats : table.Seats registry) {entry : Registration σ}
    (hfresh : ∀ other ∈ registry.entries, other.context ≠ entry.context) :
    table.Seats { registry with entries := registry.entries ++ [entry] } where
  basic := hseats.basic
  closed := hseats.closed
  registered := fun hselected ↦ by
    obtain ⟨other, hother, hcontext⟩ := hseats.registered hselected
    exact ⟨other, List.mem_append_left [entry] hother, hcontext⟩
  alone := fun {other} hother hsingle {_ _} hfirst hsecond ↦ by
    rcases List.mem_append.mp hother with hold | hnew
    · exact hseats.alone hold hsingle hfirst hsecond
    · obtain rfl := List.mem_singleton.mp hnew
      obtain ⟨former, hformer, hcontext⟩ := hseats.registered hfirst
      exact absurd hcontext (hfresh former hformer)

/-- An applet that is selected nowhere can be removed. -/
theorem Seats.remove (hseats : table.Seats registry) {context : ContextId}
    (hidle : table.channelsOf context = []) : table.Seats (registry.remove context) where
  basic := hseats.basic
  closed := hseats.closed
  registered := fun {channel found} hselected ↦ by
    obtain ⟨entry, hentry, rfl⟩ := hseats.registered hselected
    have hother : entry.context ≠ context := by
      rintro rfl
      exact channelsOf_eq_nil_iff.mp hidle channel hselected
    refine ⟨entry, (List.mem_eraseP_of_neg ?_).mpr hentry, rfl⟩
    exact fun hsame ↦ hother (eq_of_beq hsame)
  alone := fun hentry ↦ hseats.alone (List.mem_of_mem_eraseP hentry)

end Seats

end ChannelTable

end SmartCard
