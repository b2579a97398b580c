import SmartCard.Proofs.Applet.Inquiry
import SmartCard.Proofs.Card.Conservation
import SmartCard.Proofs.Card.Endurance

/-!
# Purses at work

A purse that has been installed on a card and is still registered keeps three numbers, whatever has
been done to the card (`Card.HasPurse.exists_keeps`). While it is selected on a channel
(`Card.Tends`), it answers every order as the numbers allow, and the tear injector tells what became
of the order (`Card.Tends.pay`); it answers every inquiry with the number asked for, and nothing
changes (`Card.Tends.inquire`).
-/

set_option autoImplicit false
set_option relaxedAutoImplicit false

namespace SmartCard

variable {σ : Type}

/-- Applet code leaves a disarmed tear injector as it is. -/
theorem Piece.tear_stop {piece : Piece σ}
    (hdisarmed : piece.start.platform.store.transaction.tear.remaining = none) :
    piece.stop.platform.store.transaction.tear =
      piece.start.platform.store.transaction.tear := by
  refine @Piece.induction σ (fun _ session ↦ session.platform.store.transaction.tear =
    piece.start.platform.store.transaction.tear) (fun _ call hsame ↦ ?_) piece [] rfl
  rw [Call.after, Session.store_answer]
  cases hoperation : call.session.operation? call.service with
  | none => exact hsame
  | some operation =>
    have hservice := Session.isService_operation? hoperation
    refine (Store.tear_next_of_disarmed (hsame.symm ▸ hdisarmed) ?_).trans hsame
    rintro writes rfl
    cases hservice

namespace Card

variable {card : Card σ} {entry : Registration σ} {purse : Purse} {channel : Nat}
  {numbers : Purse.Numbers} {raw : List UInt8} {command : Command}

/-! ### Purses that are registered -/

/-- Whether the applet with an identifier is a purse: it has been installed as one and is still
registered. -/
def HasPurse (card : Card σ) (aid : Aid) : Prop :=
  ∃ (origin installed : Card σ) (data : List UInt8) (entry : Registration σ), origin.Reachable ∧
    origin.install aid data Purse.install = (.ok entry.context, installed) ∧
    installed.LeadsTo card ∧ card.registry.find? aid.bytes = some entry

theorem hasPurse_of_context {origin installed : Card σ} {aid : Aid} {data : List UInt8}
    {context : ContextId} (horigin : origin.Reachable)
    (hinstalled : origin.install aid data Purse.install = (.ok context, installed))
    (hleads : installed.LeadsTo card)
    (hfound : (card.registry.find? aid.bytes).map (·.context) = some context) :
    card.HasPurse aid := by
  obtain ⟨entry, hfind, rfl⟩ := Option.map_eq_some_iff.mp hfound
  exact ⟨origin, installed, data, entry, horigin, hinstalled, hleads, hfind⟩

/-- Whether a purse is registered and its array keeps three numbers. -/
structure Keeps (card : Card σ) (entry : Registration σ) (purse : Purse)
    (numbers : Purse.Numbers) : Prop where
  reachable : card.Reachable
  registered : entry ∈ card.registry.entries
  applet_eq : entry.applet = purse.applet
  found : ∃ grants, card.platform.store.heap.find? purse.state.id =
    some (numbers.sharedRegion entry.context grants)

/-- The purse reads the numbers that its array keeps. -/
theorem Keeps.shows (hkeeps : card.Keeps entry purse numbers) :
    purse.Shows card.platform.store.heap entry.context numbers := by
  obtain ⟨grants, hfound⟩ := hkeeps.found
  exact Purse.shows_region hfound

/-- A card that has a purse has one that keeps some numbers. -/
theorem HasPurse.exists_keeps {aid : Aid} (hpurse : card.HasPurse aid) :
    ∃ entry purse numbers, card.registry.find? aid.bytes = some entry ∧
      card.Keeps entry purse numbers := by
  obtain ⟨origin, installed, data, entry, horigin, hinstalled, hleads, hfind⟩ := hpurse
  obtain ⟨first, -, hcontext, happlet, -, hholds⟩ := horigin.holds_installed hinstalled
  set purse := Purse.upcoming origin.platform.store.heap entry.context
  have hstart := horigin.installed hinstalled
  have hreach := hleads.reachable hstart
  obtain ⟨config, hcoheres⟩ := hreach.exists_coheres
  have howns : installed.Owns first purse.state.id
      (.fresh first.context .persistent .short 3) :=
    ⟨hholds.registered, hholds.keeps.store.wellFormed, ⟨_, hholds.keeps.store.found, rfl⟩, by
      rw [hstart.rests.journal_eq]
      exact List.not_mem_nil⟩
  have hentry := List.mem_of_find?_eq_some hfind
  obtain ⟨hfirst, hwellFormed, ⟨region, hregion, horiginal⟩, -⟩ :=
    (hleads.owns hstart rfl howns).resolve_right fun hretired ↦
      hretired.not_registered entry hentry hcontext.symm
  obtain rfl := List.inj_on_of_nodup_map hcoheres.nodup_contexts hfirst hentry hcontext
  obtain ⟨numbers, hnumbers⟩ := Purse.exists_numbers hwellFormed.heap hregion horiginal
  exact ⟨first, purse, numbers, hfind, hreach, hfirst, happlet, _, hnumbers ▸ hregion⟩

/-! ### Purses that are selected -/

theorem config_disarmTear (card : Card σ) : card.disarmTear.config = card.config :=
  rfl

/-- A tear injector that is disarmed has fired as often as before. -/
theorem tearsFired_disarmTear (card : Card σ) : card.disarmTear.tearsFired = card.tearsFired :=
  rfl

/-- Whether a purse is selected on a channel besides. -/
structure Tends (card : Card σ) (entry : Registration σ) (purse : Purse) (channel : Nat)
    (numbers : Purse.Numbers) : Prop extends card.Keeps entry purse numbers where
  selected : card.channels.selected channel = some entry.context

/-- Inquiries are commands for the applet. -/
theorem isForApplet_of_asked {index : Nat} (hclass : command.classByte ≠ invalidClass)
    (hasked : Purse.asked? command.instruction = some index) : IsForApplet command := by
  refine ⟨hclass, fun hown ↦ ?_⟩
  simp only [List.mem_cons, List.not_mem_nil, or_false] at hown
  rcases hown with h | h | h <;> rw [h] at hasked <;> cases hasked

/-- So are orders. -/
theorem isForApplet_of_isCredit {isCredit : Bool} (hclass : command.classByte ≠ invalidClass)
    (hinstruction : Purse.isCredit? command.instruction = some isCredit) : IsForApplet command := by
  refine ⟨hclass, fun hown ↦ ?_⟩
  simp only [List.mem_cons, List.not_mem_nil, or_false] at hown
  rcases hown with h | h | h <;> rw [h] at hinstruction <;> cases hinstruction

/-- A purse that has its array to itself, and is selected, is one. -/
theorem Holds.tends (hholds : card.Holds entry purse.state.id (numbers.region entry.context))
    (happlet : entry.applet = purse.applet) (hreach : card.Reachable)
    (hselected : card.channels.selected channel = some entry.context) :
    card.Tends entry purse channel numbers :=
  ⟨⟨hreach, hholds.registered, happlet, [], hholds.keeps.store.found⟩, hselected⟩

namespace Tends

/-- The channel is open. -/
theorem isOpen (htends : card.Tends entry purse channel numbers) :
    card.channels.isOpen channel = true := by
  obtain ⟨config, hcoheres⟩ := htends.reachable.exists_coheres
  exact hcoheres.isOpen_of_selected htends.selected

/-- Commands on the channel go to the purse, unless the card answers them by itself. -/
theorem route (htends : card.Tends entry purse channel numbers)
    (hchannel : command.channel = channel) (hown : IsForApplet command) :
    (card.route command).1 = .ok (.handled entry.context false) := by
  subst hchannel
  exact route_of_selected hown htends.isOpen htends.selected

/-- So commands with the instructions of payments are orders to it. -/
theorem order?_eq (htends : card.Tends entry purse channel numbers)
    (hparse : Command.parse raw card.config.extendedLength = .ok command)
    (hchannel : command.channel = channel) (hclass : command.classByte ≠ invalidClass)
    {isCredit : Bool} (hinstruction : Purse.isCredit? command.instruction = some isCredit) :
    card.order? entry.context raw =
      some ((Purse.amountIn command.data).map (.mk isCredit)) := by
  unfold order?
  rw [hparse]
  dsimp only
  rw [if_pos (htends.route hchannel (isForApplet_of_isCredit hclass hinstruction)), Purse.order?,
    hinstruction]
  rfl

/-- The tear injector is no matter to a purse between commands. -/
theorem mapTear (htends : card.Tends entry purse channel numbers)
    {change : TearInjector → TearInjector} (hreach : (card.mapTear change).Reachable) :
    (card.mapTear change).Tends entry purse channel numbers :=
  ⟨⟨hreach, htends.registered, htends.applet_eq, htends.found⟩, htends.selected⟩

theorem armTear (htends : card.Tends entry purse channel numbers) (writes : Nat) :
    (card.armTear writes).Tends entry purse channel numbers :=
  htends.mapTear (@Reachable.next _ _ htends.reachable (.armTear writes) trivial)

theorem disarmTear (htends : card.Tends entry purse channel numbers) :
    card.disarmTear.Tends entry purse channel numbers :=
  htends.mapTear (@Reachable.next _ _ htends.reachable .disarmTear trivial)

/-- An order is answered as the numbers allow, and the tear injector tells whether a tear came
between. -/
theorem pay (htends : card.Tends entry purse channel numbers)
    {order : Except StatusWord Purse.Payment}
    (horder : card.order? entry.context raw = some order) :
    ∃ word updated, Purse.Answered numbers (Purse.IsSafe card.platform.store) order word updated ∧
      (card.transmit raw).1 = word.toBytes ∧
      (card.transmit raw).2.Tends entry purse channel updated ∧
      Purse.TellsTear card.platform.store (card.transmit raw).2.platform.store word := by
  obtain ⟨grants, hfound⟩ := htends.found
  obtain ⟨config, hcoheres⟩ := htends.reachable.exists_coheres
  obtain ⟨word, updated, hsettles⟩ := exists_settles htends.registered htends.applet_eq hcoheres
    htends.reachable.rests hfound horder
  refine ⟨word, updated, hsettles.answered, hsettles.reply_eq, ?_, hsettles.tells⟩
  exact {
    reachable := @Reachable.next _ _ htends.reachable (.transmit raw) trivial
    registered := hsettles.registry_eq ▸ htends.registered
    applet_eq := htends.applet_eq
    found := ⟨grants, hsettles.found⟩
    selected := (hsettles.selected_eq channel).trans htends.selected }

/-- An inquiry is answered with the number asked for, and memory stays as it is. -/
theorem inquire (htends : card.Tends entry purse channel numbers)
    (hparse : Command.parse raw card.config.extendedLength = .ok command)
    (hchannel : command.channel = channel) (hclass : command.classByte ≠ invalidClass)
    (hdata : command.data = []) (haccepted : 2 ≤ command.accepted) {index : Nat} {value : Int16}
    (hasked : Purse.asked? command.instruction = some index)
    (hvalue : card.platform.store.heap.get .short entry.context purse.state index = .ok value) :
    (card.transmit raw).1 = Purse.shortBytes value ++ StatusWord.noError.toBytes ∧
      (card.transmit raw).2.platform = card.platform ∧
      (card.transmit raw).2.Tends entry purse channel numbers := by
  obtain ⟨config, hcoheres⟩ := htends.reachable.exists_coheres
  obtain ⟨left, hhandle, hfinish⟩ := Purse.handle_process_of_inquiry
    ⟨⟨entry.context, command.channel, false⟩, card.platform, card.host, none⟩ hasked hdata hvalue
    card.config.bufferSize
  rw [← show entry.applet.process = purse.process from congrArg _ htends.applet_eq] at hhandle
  obtain ⟨hreply, hplatform, hregistry, hselected⟩ := transmit_of_selected hparse
    (htends.route hchannel (isForApplet_of_asked hclass hasked))
    (hcoheres.inContext?_eq_some htends.registered) hhandle
  have hsettled : (card.transmit raw).2.platform = card.platform := by
    rw [hplatform]
    exact congrArg (Platform.mk · card.platform.contexts)
      (Store.settle_of_idle (Store.depth_eq_zero_iff.mp htends.reachable.rests.depth_eq))
  refine ⟨?_, hsettled, ?_⟩
  · rw [hreply, replyOf_of_finish hfinish, replyTo, if_neg]
    rw [Purse.shortBytes_eq]
    exact Nat.not_lt.mpr haccepted
  · exact {
      reachable := @Reachable.next _ _ htends.reachable (.transmit raw) trivial
      registered := hregistry ▸ htends.registered
      applet_eq := htends.applet_eq
      found := hsettled.symm ▸ htends.found
      selected := (hselected channel).trans htends.selected }

end Tends

/-! ### Selecting a purse -/

/-- Deselecting an applet fires no tear injector that is disarmed. -/
theorem tear_deselect (hdisarmed : card.platform.store.transaction.tear.remaining = none)
    (channel : Nat) :
    (card.deselect channel).platform.store.transaction.tear =
      card.platform.store.transaction.tear := by
  unfold deselect
  cases card.channels.selected channel with
  | none => rfl
  | some context =>
    dsimp only
    cases (card.setSelected channel none).registry.inContext? context with
    | none =>
      dsimp only
      split <;> exact Store.tear_abort _
    | some entry =>
      have hstop := @Piece.tear_stop σ ((card.setSelected channel none).code
        ⟨context, channel, false⟩ entry.applet.deselect) hdisarmed
      dsimp only
      split <;> exact (Store.tear_abort _).trans hstop

/-- A purse takes an open channel, whatever the applet that leaves it does, and no tear injector
that is disarmed fires. -/
theorem HasPurse.select {aid : Aid} (hpurse : card.HasPurse aid)
    (hopen : card.channels.isOpen channel = true) :
    ∃ entry purse numbers, (card.select aid channel).1 = true ∧
      (card.select aid channel).2.Tends entry purse channel numbers ∧
      (card.platform.store.transaction.tear.remaining = none →
        (card.select aid channel).2.platform.store.transaction.tear =
          card.platform.store.transaction.tear) := by
  obtain ⟨former, _, _, hformer, hkept⟩ := hpurse.exists_keeps
  obtain ⟨config, hcoheres⟩ := hkept.reachable.exists_coheres
  have hfound := hcoheres.inContext?_eq_some hkept.registered
  have hfree : card.isBusy channel former = false := by
    rw [isBusy, hkept.applet_eq]
    rfl
  set seated := (card.deselect channel).setSelected channel (some former.context) with hseated
  have hselect : card.select aid channel = (true, seated.settle) := by
    have hconsents : former.applet.select = .done true := by
      rw [hkept.applet_eq]
      rfl
    unfold Card.select
    rw [hformer]
    dsimp only
    rw [if_pos hopen, selectContext_eq hfound hfree, seat, hconsents]
    rfl
  have hregistry : seated.settle.registry = card.registry := card.registry_deselect channel
  have hnext : seated.settle.HasPurse aid := by
    obtain ⟨origin, installed, data, entry, horigin, hinstalled, hleads, hfind⟩ := hpurse
    refine ⟨origin, installed, data, entry, horigin, hinstalled, ?_, hregistry ▸ hfind⟩
    have hmore := @LeadsTo.next _ _ _ hleads (.select aid channel) trivial
    rw [Card.next, hselect] at hmore
    exact hmore
  obtain ⟨entry, purse, numbers, hfind, hkeeps⟩ := hnext.exists_keeps
  obtain rfl : former = entry := Option.some_inj.mp (hformer.symm.trans (hregistry ▸ hfind))
  rw [hselect]
  refine ⟨former, purse, numbers, rfl, ⟨hkeeps, ?_⟩, fun hdisarmed ↦ ?_⟩
  · refine ChannelTable.selected_setSelected_self ?_ _
    rw [card.channels_deselect, ChannelTable.isOpen_setSelected]
    exact hopen
  · exact (Store.tear_abort _).trans (tear_deselect hdisarmed channel)

end Card

end SmartCard
