import Mathlib.Algebra.Order.BigOperators.Group.List
import Mathlib.Algebra.Ring.Int.Defs
import SmartCard.Proofs.Card.Tending
import SmartCard.Proofs.Terminal.Serialization

/-!
# Credits of several clients

A purse that nothing disturbs makes every credit that its balance can take (`Card.Accepts.credit`).
So credits come out the same in whatever order they are made, as long as the balance can take them
all (`Card.Accepts.attend`). Clients of a terminal that send nothing else are all answered that all
went well, and the balance they leave is the one that their credits add up to
(`Traffic.clients_serialised`).
-/

set_option autoImplicit false
set_option relaxedAutoImplicit false

namespace SmartCard

variable {σ : Type} {card : Card σ} {config : Config} {entry : Registration σ} {purse : Purse}
  {channel : Nat} {numbers : Purse.Numbers} {errand : Errand} {amount : Int16}

/-! ### Credits -/

namespace Errand

/-- The amount that an errand credits on a channel, if it is a credit. -/
def credit? (config : Config) (channel : Nat) : Errand → Option Int16
  | .transmit raw =>
    match Command.parse raw config.extendedLength with
    | .ok command =>
      if command.channel = channel ∧ command.classByte ≠ Card.invalidClass then
        match Purse.order? command with
        | some (.ok ⟨true, amount⟩) => some amount
        | _ => none
      else none
    | .error _ => none
  | .reset => none

/-- The sum of the amounts that some errands credit. -/
def total (config : Config) (channel : Nat) (errands : List Errand) : Int :=
  (errands.map fun errand ↦ ((errand.credit? config channel).getD 0).toInt).sum

/-- A credit is an order of a payment on the channel. -/
theorem credit?_eq_some (hcredit : errand.credit? config channel = some amount) :
    ∃ raw command, errand = .transmit raw ∧
      Command.parse raw config.extendedLength = .ok command ∧ command.channel = channel ∧
      command.classByte ≠ Card.invalidClass ∧ Purse.order? command = some (.ok ⟨true, amount⟩) := by
  cases errand with
  | reset => cases hcredit
  | transmit raw =>
    rw [credit?] at hcredit
    cases hparse : Command.parse raw config.extendedLength with
    | error word =>
      rw [hparse] at hcredit
      cases hcredit
    | ok command =>
      rw [hparse] at hcredit
      dsimp only at hcredit
      split at hcredit
      · rename_i hown
        generalize horder : Purse.order? command = order at hcredit
        obtain _ | _ | ⟨_ | _, credited⟩ := order
        · cases hcredit
        · cases hcredit
        · cases hcredit
        · obtain rfl := Option.some_inj.mp hcredit
          exact ⟨raw, command, rfl, hparse, hown.1, hown.2, horder⟩
      · cases hcredit

/-- Amounts are not negative. -/
theorem credit?_nonneg (hcredit : errand.credit? config channel = some amount) :
    0 ≤ amount.toInt := by
  obtain ⟨_, _, -, -, -, -, horder⟩ := credit?_eq_some hcredit
  obtain ⟨payment, hpayment, hamount⟩ | hmalformed | hmalformed := Purse.order?_cases horder
  · obtain rfl := Except.ok.inj hpayment
    exact hamount
  · cases hmalformed
  · cases hmalformed

theorem total_append (first second : List Errand) :
    total config channel (first ++ second) =
      total config channel first + total config channel second := by
  unfold total
  rw [List.map_append, List.sum_append]

theorem total_singleton (hcredit : errand.credit? config channel = some amount) :
    total config channel [errand] = amount.toInt := by
  rw [total, List.map_singleton, List.sum_singleton, hcredit, Option.getD_some]

theorem total_nonneg (errands : List Errand) : 0 ≤ total config channel errands := by
  refine List.sum_nonneg fun value hvalue ↦ ?_
  obtain ⟨errand, -, rfl⟩ := List.mem_map.mp hvalue
  cases hcredit : errand.credit? config channel with
  | none => exact Int.le_refl 0
  | some amount => exact credit?_nonneg hcredit

theorem total_perm {first second : List Errand} (hperm : first.Perm second) :
    total config channel first = total config channel second :=
  (hperm.map _).sum_eq

end Errand

/-! ### Credits to a purse -/

namespace Card

/-- Whether a purse is selected on a channel and nothing disturbs its payments. -/
structure Accepts (card : Card σ) (config : Config) (entry : Registration σ) (purse : Purse)
    (channel : Nat) (numbers : Purse.Numbers) : Prop
    extends card.Tends entry purse channel numbers where
  config_eq : card.config = config
  roomy : 6 ≤ config.commitCapacity
  disarmed : card.platform.store.transaction.tear.remaining = none
  balance_nonneg : 0 ≤ numbers.balance.toInt

namespace Accepts

/-- A credit that the balance can take is made. -/
theorem credit (haccepts : card.Accepts config entry purse channel numbers)
    (hcredit : errand.credit? config channel = some amount)
    (hfits : numbers.balance.toInt + amount.toInt ≤ 32767) :
    errand.reply card = .response StatusWord.noError.toBytes ∧
      ∃ updated, (card.next errand.operation).Accepts config entry purse channel updated ∧
        updated.balance.toInt = numbers.balance.toInt + amount.toInt ∧
        updated.count = numbers.count + 1 := by
  obtain ⟨raw, command, rfl, hparse, hchannel, hclass, hordered⟩ := Errand.credit?_eq_some hcredit
  obtain ⟨isCredit, hinstruction, hamount⟩ := Option.map_eq_some_iff.mp hordered
  have horder : card.order? entry.context raw = some (.ok ⟨true, amount⟩) := by
    rw [haccepts.order?_eq (haccepts.config_eq.symm ▸ hparse) hchannel hclass hinstruction, hamount]
  obtain ⟨word, updated, hanswered, hreply, hafter, htells⟩ := haccepts.pay horder
  have hsafe : Purse.IsSafe card.platform.store := by
    refine ⟨fun writes hwrites ↦ ?_, ?_⟩
    · rw [haccepts.disarmed] at hwrites
      cases hwrites
    · have hcapacity := haccepts.reachable.commitCapacity_eq
      rw [haccepts.config_eq] at hcapacity
      exact le_of_le_of_eq haccepts.roomy hcapacity.symm
  have hword : word = .noError :=
    (hanswered.noError_iff hsafe haccepts.balance_nonneg (Errand.credit?_nonneg hcredit)).mpr hfits
  have hpaid : numbers.pay ⟨true, amount⟩ = .ok updated := by
    rcases hanswered.cases ⟨command, hordered⟩ with ⟨-, payment, hpayment, hpaid⟩ | ⟨hrefused, -⟩
    · exact Except.ok.inj hpayment ▸ hpaid
    · rw [hword] at hrefused
      exact absurd hrefused (by decide)
  obtain ⟨hbalance, hsign, hcount, -⟩ := Purse.Numbers.pay_eq_ok hpaid
  refine ⟨congrArg Reply.response (hword ▸ hreply), updated,
    ⟨hafter, ?_, haccepts.roomy, ?_, hsign⟩, hbalance, hcount⟩
  · exact (card.config_next (.transmit raw)).trans haccepts.config_eq
  · exact (congrArg TearInjector.remaining (htells.disarmed haccepts.disarmed)).trans
      haccepts.disarmed

/-- So are credits one after the other, and they add up. -/
theorem attend (haccepts : card.Accepts config entry purse channel numbers)
    {messages : List Message} (hstop : .stop ∉ messages)
    (hcredits : ∀ errand ∈ messages.filterMap Message.errand?,
      (errand.credit? config channel).isSome = true)
    (hfits : numbers.balance.toInt +
      Errand.total config channel (messages.filterMap Message.errand?) ≤ 32767) :
    ∃ updated, (card.attend messages).Accepts config entry purse channel updated ∧
      updated.balance.toInt = numbers.balance.toInt +
        Errand.total config channel (messages.filterMap Message.errand?) ∧
      updated.count = numbers.count +
        Int16.ofNat (messages.filterMap Message.errand?).length := by
  induction messages generalizing card numbers with
  | nil => exact ⟨numbers, haccepts, (Int.add_zero _).symm, (Int16.add_zero _).symm⟩
  | cons message rest ih =>
    rw [List.mem_cons, not_or] at hstop
    cases message with
    | stop => exact absurd rfl hstop.1
    | ask ticket errand =>
      have herrands : (Message.ask ticket errand :: rest).filterMap Message.errand? =
          [errand] ++ rest.filterMap Message.errand? := rfl
      rw [herrands] at hcredits hfits ⊢
      rw [Errand.total_append] at hfits ⊢
      obtain ⟨hfirst, hrest⟩ := List.forall_mem_cons.mp hcredits
      obtain ⟨amount, hcredit⟩ := Option.isSome_iff_exists.mp hfirst
      have hpositive := @Errand.total_nonneg config channel (rest.filterMap Message.errand?)
      rw [Errand.total_singleton hcredit] at hfits ⊢
      obtain ⟨-, middle, hmiddle, hbalance, hcount⟩ := haccepts.credit hcredit (by omega)
      obtain ⟨updated, hupdated, hsum, hnumber⟩ := ih hmiddle hstop.2 hrest (by omega)
      refine ⟨updated, hupdated, by omega, ?_⟩
      rw [hnumber, hcount, Int16.add_assoc, List.length_append, Int16.ofNat_add]
      rfl

end Accepts

end Card

/-! ### Clients that send credits -/

namespace Traffic

variable {traffic : Traffic σ} {clients : List (List Errand)}

/-- Whether the credits of some clients are all answered that all went well until the terminal is
told to stop, and leave the balance that they add up to once all of them have been made. -/
structure Credits (traffic : Traffic σ) (config : Config) (entry : Registration σ) (purse : Purse)
    (channel : Nat) (numbers : Purse.Numbers) (clients : List (List Errand)) : Prop where
  answered : ∀ {before rest : List Message} {ticket : Ticket} {errand : Errand},
    traffic.sent = before ++ .ask ticket errand :: rest → .stop ∉ before →
      ∀ answer, (ticket, answer) ∈ traffic.replies →
        answer = .ok (.response StatusWord.noError.toBytes)
  ends : .stop ∉ traffic.sent → traffic.left.flatten = [] → traffic.queue = [] →
    ∃ after updated, traffic.terminal.state = .serving after ∧
      purse.Shows after.platform.store.heap entry.context updated ∧
      updated.balance.toInt = numbers.balance.toInt + Errand.total config channel clients.flatten ∧
      updated.count = numbers.count + Int16.ofNat clients.flatten.length

/-- A terminal that serialises its clients makes their credits, if the balance can take them all. -/
theorem Serialises.credits (hserialises : traffic.Serialises card clients)
    (haccepts : card.Accepts config entry purse channel numbers)
    (hcredits : ∀ errand ∈ clients.flatten, (errand.credit? config channel).isSome = true)
    (hfits : numbers.balance.toInt + Errand.total config channel clients.flatten ≤ 32767) :
    traffic.Credits config entry purse channel numbers clients := by
  have hperm := hserialises.sends.perm
  have htotal := @Errand.total_perm config channel _ _ hperm
  rw [Errand.total_append] at htotal
  have hleft := @Errand.total_nonneg config channel traffic.left.flatten
  have hsent : ∀ errand ∈ traffic.sent.filterMap Message.errand?,
      (errand.credit? config channel).isSome = true :=
    fun errand herrand ↦ hcredits errand (hperm.mem_iff.mp (List.mem_append_left _ herrand))
  constructor
  case answered =>
    intro before rest ticket errand hsplit hstop answer hreply
    have herrands : traffic.sent.filterMap Message.errand? =
        before.filterMap Message.errand? ++ ([errand] ++ rest.filterMap Message.errand?) := by
      rw [hsplit, List.filterMap_append]
      rfl
    rw [herrands] at hsent htotal
    rw [Errand.total_append, Errand.total_append] at htotal
    have hrest := @Errand.total_nonneg config channel (rest.filterMap Message.errand?)
    obtain ⟨amount, hcredit⟩ := Option.isSome_iff_exists.mp
      (hsent errand (List.mem_append_right _ List.mem_cons_self))
    have hamount := Errand.total_singleton hcredit
    have hpositive := Errand.credit?_nonneg hcredit
    obtain ⟨middle, hmiddle, hbalance, -⟩ := haccepts.attend hstop
      (fun other hother ↦ hsent other (List.mem_append_left _ hother)) (by omega)
    obtain ⟨hdone, -⟩ := hmiddle.credit hcredit (by omega)
    rw [((hserialises.replied_iff hsplit answer).mp hreply).2, Card.verdict, if_neg hstop, hdone]
  case ends =>
    intro hstop hleft hqueue
    rw [hleft, List.append_nil] at hperm
    rw [← Errand.total_perm hperm] at hfits ⊢
    rw [← hperm.length_eq]
    obtain ⟨updated, hafter, hbalance, hcount⟩ := haccepts.attend hstop hsent hfits
    obtain ⟨done, hdone, -, hstate⟩ := hserialises.executed.resolve_right fun h ↦ hstop h.1
    rw [hqueue, List.append_nil] at hdone
    exact ⟨_, updated, hdone ▸ hstate, hafter.shows, hbalance, hcount⟩

/-- However sending and serving alternate, a terminal serialises its clients, if its card has a
buffer that can be laid out: what they ask for is carried out once each in the order in which it was
sent, until the terminal is told to stop, each client gets the replies to what it asks for itself,
and nothing behind the order to stop is carried out. If the clients do nothing but credit a purse
that nothing disturbs and whose balance can take all they credit, then each of them is answered that
all went well, and the balance and the count at the end do not depend on the order. -/
theorem clients_serialised (hbuffer : card.config.bufferSize < blockLimit) {name : String}
    (hrun : (opening (.insert name card) clients).LeadsTo traffic) :
    traffic.Serialises card clients ∧
      ∀ {entry : Registration σ} {purse : Purse} {channel : Nat} {numbers : Purse.Numbers},
        card.Accepts card.config entry purse channel numbers →
        (∀ errand ∈ clients.flatten, (errand.credit? card.config channel).isSome = true) →
        numbers.balance.toInt + Errand.total card.config channel clients.flatten ≤ 32767 →
          traffic.Credits card.config entry purse channel numbers clients := by
  have hstate : (Terminal.insert name card).state = .serving card := rfl
  have hserialises := serialises_of_run hstate hbuffer hrun
  exact ⟨hserialises, hserialises.credits⟩

/-- Two clients and three credits, of which one is served before the others are sent. -/
theorem clients_serialised_credits :
    let config : Config := { atr := "3B" }
    let card : Card Unit := {
      config := config
      atr := [0x3B]
      platform := ⟨.empty config.quotas config.commitCapacity, .initial⟩
      registry := .empty config.maxApplets
      channels := .initial config.logicalChannels
      host := () }
    let aid : Aid := ⟨[0xA0, 0, 0, 0, 1], by decide, by decide⟩
    let installed := (card.install aid [0, 100] Purse.install).2
    let purse := Purse.upcoming card.platform.store.heap ⟨1⟩
    let chosen := installed.next (.select aid 0)
    let credit (amount : UInt8) : Errand := .transmit [0x80, 0x30, 0, 0, 2, 0, amount]
    let message (client number : Nat) (amount : UInt8) : Message :=
      .ask ⟨client, number⟩ (credit amount)
    let clients := [[credit 50, credit 7], [credit 20]]
    let begun := (opening (.insert "reader" chosen) clients).send 0 (credit 50) [credit 7]
    let ended := ((((begun.send 1 (credit 20) []).serve (message 0 0 50) [message 1 0 20]).send 0
      (credit 7) []).serve (message 1 0 20) [message 0 1 7]).serve (message 0 1 7) []
    chosen.config.bufferSize < blockLimit ∧
      (opening (.insert "reader" chosen) clients).LeadsTo ended ∧
      ended.Serialises chosen clients ∧
      ended.replies = [(⟨0, 0⟩, .ok (.response [0x90, 0])), (⟨1, 0⟩, .ok (.response [0x90, 0])),
        (⟨0, 1⟩, .ok (.response [0x90, 0]))] ∧
      ∃ entry, chosen.Accepts config entry purse 0 ⟨100, 0, 0⟩ ∧
        (∀ errand ∈ clients.flatten, (errand.credit? config 0).isSome = true) ∧
        100 + Errand.total config 0 clients.flatten = 177 ∧
        ended.Credits config entry purse 0 ⟨100, 0, 0⟩ clients := by
  intro config card aid installed purse chosen credit message clients begun ended
  have hvalid : config.validate = .ok () := by decide
  have hatr : config.readAtr = .ok [0x3B] := by decide
  have hpowered : Card.ofConfig config () = .ok card := by rw [Card.ofConfig, hvalid, hatr]
  have hreach : card.Reachable := .ofConfig hpowered
  have hcontext : (card.install aid [0, 100] Purse.install).1 = .ok ⟨1⟩ := by decide +kernel
  have hinstalled : card.install aid [0, 100] Purse.install = (.ok ⟨1⟩, installed) :=
    Prod.ext hcontext rfl
  have hreached := hreach.installed hinstalled
  obtain ⟨config', hcoheres⟩ := hreached.exists_coheres
  obtain ⟨entry, -, hentry, happlet, -, hholds⟩ := hreach.holds_installed hinstalled
  have hopening : Purse.opening [0, 100] = 100 := by decide +kernel
  rw [hopening] at hholds
  have hnext : chosen.Holds entry purse.state.id
      (Purse.Numbers.region ⟨100, 0, 0⟩ entry.context) :=
    @Card.Holds.next _ _ _ entry purse _ (.select aid 0) hholds happlet hcoheres trivial
      fun raw hselect ↦ by cases hselect
  have hselected : chosen.channels.selected 0 = some entry.context := by
    rw [hentry]
    decide +kernel
  have hconfig : chosen.config = config := by rfl
  have haccepts : chosen.Accepts config entry purse 0 ⟨100, 0, 0⟩ :=
    ⟨hnext.tends happlet (@Card.Reachable.next _ _ hreached (.select aid 0) trivial) hselected,
      hconfig, by decide, by decide +kernel, by decide⟩
  have hcredits : ∀ errand ∈ clients.flatten, (errand.credit? config 0).isSome = true := by
    decide +kernel
  have htotal : 100 + Errand.total config 0 clients.flatten = 177 := by decide +kernel
  have hbuffer : chosen.config.bufferSize < blockLimit := by
    rw [hconfig]
    decide
  have hrun : (opening (.insert "reader" chosen) clients).LeadsTo ended :=
    (((((Relation.ReflTransGen.refl.tail (.send rfl)).tail (.send rfl)).tail (.serve rfl)).tail
      (.send rfl)).tail (.serve rfl)).tail (.serve rfl)
  obtain ⟨hserialises, hpays⟩ := clients_serialised hbuffer hrun
  refine ⟨hbuffer, hrun, hserialises, by decide +kernel, entry, haccepts, hcredits, htotal, ?_⟩
  rw [hconfig] at hpays
  refine hpays haccepts hcredits ?_
  change 100 + Errand.total config 0 clients.flatten ≤ 32767
  rw [htotal]
  decide

/-- A terminal whose card is configured with a buffer that no memory holds breaks down with the
first command for an applet, and its client is left without the reply. -/
theorem huge_buffer_breaks_down :
    let config : Config := { atr := "3B", bufferSize := 9223372036854775808 }
    let card : Card Unit := {
      config := config
      atr := [0x3B]
      platform := ⟨.empty config.quotas config.commitCapacity, .initial⟩
      registry := .empty config.maxApplets
      channels := .initial config.logicalChannels
      host := () }
    let aid : Aid := ⟨[0xA0, 0, 0, 0, 1], by decide, by decide⟩
    let installed := (card.install aid [] Purse.install).2
    let selection : Errand := .transmit [0, 0xA4, 4, 0, 5, 0xA0, 0, 0, 0, 1]
    let traffic := ((opening (.insert "reader" installed) [[selection]]).send 0 selection []).serve
      (.ask ⟨0, 0⟩ selection) []
    Card.ofConfig config () = .ok card ∧
      (opening (.insert "reader" installed) [[selection]]).LeadsTo traffic ∧
      .stop ∉ traffic.sent ∧ selection.reply installed = .response [0x90, 0] ∧
      traffic.replies = [(⟨0, 0⟩, .error .disconnected)] ∧
      ¬ traffic.Serialises installed [[selection]] := by
  intro config card aid installed selection traffic
  have hvalid : config.validate = .ok () := by decide
  have hatr : config.readAtr = .ok [0x3B] := by decide
  have hrun : (opening (.insert "reader" installed) [[selection]]).LeadsTo traffic :=
    (Relation.ReflTransGen.refl.tail (.send rfl)).tail (.serve rfl)
  have hreplies : traffic.replies = [(⟨0, 0⟩, .error .disconnected)] := by decide +kernel
  refine ⟨by rw [Card.ofConfig, hvalid, hatr], hrun, by decide +kernel, by decide +kernel, hreplies,
    fun hserialises ↦ ?_⟩
  have hsplit : traffic.sent = [] ++ .ask ⟨0, 0⟩ selection :: [] := rfl
  obtain ⟨-, hanswer⟩ := (hserialises.replied_iff hsplit (.error .disconnected)).mp
    (hreplies ▸ List.mem_cons_self)
  rw [Card.verdict, if_neg List.not_mem_nil] at hanswer
  cases hanswer

end Traffic

end SmartCard
