import SmartCard.Campaign
import SmartCard.Proofs.Card.Tending

/-!
# Campaigns agree with the purse

After every round of a tear campaign the books say what the purse keeps (`Campaign.Balances`). A
round keeps it that way: an order that is answered with success has been made, with its whole
amount, and one that is not has left no trace (`Campaign.Balances.enter`), so that the readings that
follow find nothing wrong (`Campaign.Balances.audit`). Hence a campaign against a purse raises no
alarm (`Campaign.campaign_balances`).

The tears of a campaign are those that its rounds are answered with, but for one that the applet may
suffer that has to make way for the purse, if the injector was armed before.
-/

set_option autoImplicit false
set_option relaxedAutoImplicit false

namespace SmartCard

/-- The books change by a payment as the balance of the purse does. -/
theorem Draw.applyTo_eq {draw : Draw} {numbers updated : Purse.Numbers}
    (hpaid : numbers.pay ⟨draw.isCredit, draw.amount⟩ = .ok updated) :
    draw.applyTo numbers.balance = some updated.balance := by
  obtain ⟨hbalance, hsign, -, -⟩ := Purse.Numbers.pay_eq_ok hpaid
  have hlt := updated.balance.toInt_lt
  have hchanged : (if draw.isCredit then numbers.balance.toInt + draw.amount.toInt
      else numbers.balance.toInt - draw.amount.toInt) = updated.balance.toInt := by
    rw [hbalance, Purse.Payment.change]
    cases draw.isCredit <;> rfl
  rw [applyTo, hchanged, if_pos (by omega), Int16.ofInt_toInt]

namespace Campaign

variable {σ : Type} {card : Card σ} {entry : Registration σ} {purse : Purse}
  {numbers : Purse.Numbers} {campaign : Campaign σ} {config : Config} {fired done : Nat}

/-! ### Commands of a campaign -/

/-- Readings are inquiries on the basic channel. -/
theorem parse_inquiry (instruction : UInt8) (extended : Bool) :
    Command.parse (inquiry instruction) extended = .ok (Command.plain instruction (some 2)) :=
  rfl

theorem parse_commandOf (draw : Draw) (extended : Bool) :
    Command.parse (commandOf draw).encode extended = .ok (commandOf draw) := by
  rw [commandOf, Purse.shortBytes_eq]
  rfl

/-- The command of a round orders its payment, unless the amount is negative. -/
theorem order_commandOf (draw : Draw) :
    Purse.isCredit? (commandOf draw).instruction = some draw.isCredit ∧
      ∀ payment, (Purse.amountIn (commandOf draw).data).map (Purse.Payment.mk draw.isCredit) =
        .ok payment → payment = ⟨draw.isCredit, draw.amount⟩ := by
  constructor
  · rw [commandOf]
    cases draw.isCredit <;> rfl
  · intro payment horder
    have hdata : (commandOf draw).data = Purse.shortBytes draw.amount := rfl
    obtain ⟨high, low, hbytes⟩ : ∃ high low, Purse.shortBytes draw.amount = [high, low] :=
      ⟨_, _, Purse.shortBytes_eq draw.amount⟩
    rw [hdata, hbytes, Purse.amountIn, Purse.short_of_shortBytes hbytes] at horder
    split at horder
    · cases horder
    · exact (Except.ok.inj horder).symm

/-- The status word at the end of a bare status word. -/
theorem statusOf_toBytes (word : StatusWord) : statusOf word.toBytes = word :=
  word.ofBytes_high_low

/-- A purse that is selected on the basic channel tells its numbers, and nothing changes. -/
theorem readShort_eq (htends : card.Tends entry purse 0 numbers) {instruction : UInt8}
    {index : Nat} {value : Int16} (hasked : Purse.asked? instruction = some index)
    (hvalue : card.platform.store.heap.get .short entry.context purse.state index = .ok value) :
    ∃ after, readShort card instruction = (some value, after) ∧ after.platform = card.platform ∧
      after.config = card.config ∧ after.Tends entry purse 0 numbers := by
  obtain ⟨hreply, hplatform, hafter⟩ := htends.inquire (parse_inquiry instruction _)
    (by decide : Command.channelOfClass 0 = 0) (by decide : (0 : UInt8) ≠ Card.invalidClass) rfl
    (Nat.le_refl 2) hasked hvalue
  refine ⟨(card.transmit (inquiry instruction)).2, ?_, hplatform,
    card.config_next (.transmit (inquiry instruction)), hafter⟩
  obtain ⟨high, low, hbytes⟩ : ∃ high low, Purse.shortBytes value = [high, low] :=
    ⟨_, _, Purse.shortBytes_eq value⟩
  have htransmit : card.transmit (inquiry instruction) =
      ([high, low, 0x90, 0x00], (card.transmit (inquiry instruction)).2) := by
    refine Prod.ext (hreply.trans ?_) rfl
    rw [hbytes]
    rfl
  rw [readShort, htransmit, ← Purse.short_of_shortBytes hbytes]
  rfl

/-! ### The books -/

/-- Whether the books of a campaign agree with the purse after some rounds. -/
structure Balances (campaign : Campaign σ) (config : Config) (entry : Registration σ)
    (purse : Purse) (fired done : Nat) : Prop where
  config_eq : campaign.card.config = config
  tends : ∃ last, campaign.card.Tends entry purse 0 ⟨campaign.balance, campaign.count, last⟩
  violations_eq : campaign.report.violations = []
  rounds_eq : campaign.report.committed + campaign.report.torn + campaign.report.rejected = done
  disarmed : 0 < done → campaign.card.platform.store.transaction.tear.remaining = none
  fired_eq : 6 ≤ config.commitCapacity →
    campaign.card.tearsFired = fired + campaign.report.torn

namespace Balances

/-- The answer to the command of a round is entered into the books, whatever it is. -/
theorem enter (hbalances : campaign.Balances config entry purse fired done) (draw : Draw) :
    let outcome := (campaign.card.armTear draw.tearAfter).transmit (commandOf draw).encode
    ∃ entered : Campaign σ,
      ({ campaign with card := outcome.2.disarmTear } : Campaign σ).enter draw
        (statusOf outcome.1) = some entered ∧
      entered.Balances config entry purse fired (done + 1) ∧
      entered.report.rounds = campaign.report.rounds := by
  intro outcome
  obtain ⟨last, htends⟩ := hbalances.tends
  obtain ⟨hinstruction, hpayment⟩ := order_commandOf draw
  have harmed := htends.armTear draw.tearAfter
  have horder := harmed.order?_eq (parse_commandOf draw _)
    (by decide : Command.channelOfClass 0 = 0) (by decide : (0 : UInt8) ≠ Card.invalidClass)
    hinstruction
  obtain ⟨word, updated, hanswered, hreply, hleft, htells⟩ := harmed.pay horder
  have hafter : outcome.2.disarmTear.Tends entry purse 0 updated := hleft.disarmTear
  have hsame : outcome.2.config = campaign.card.config :=
    (campaign.card.armTear draw.tearAfter).config_next (.transmit (commandOf draw).encode)
  have hconfig : outcome.2.disarmTear.config = config := by
    rw [Card.config_disarmTear, hsame, hbalances.config_eq]
  have hfired : 6 ≤ config.commitCapacity → outcome.2.disarmTear.tearsFired =
      fired + campaign.report.torn + if word = .unknown then 1 else 0 := by
    intro hroom
    have hcapacity := htends.reachable.commitCapacity_eq
    rw [hbalances.config_eq] at hcapacity
    rw [Card.tearsFired_disarmTear, ← hbalances.fired_eq hroom]
    exact htells.fired_eq (le_of_le_of_eq hroom hcapacity.symm)
  have hword : statusOf outcome.1 = word := by
    rw [hreply, statusOf_toBytes]
  have hcommand : ∃ command, Purse.order? command =
      some ((Purse.amountIn (commandOf draw).data).map (.mk draw.isCredit)) :=
    ⟨commandOf draw, by rw [Purse.order?, hinstruction]; rfl⟩
  have hrounds := hbalances.rounds_eq
  rw [Campaign.enter, hword]
  dsimp only
  rcases hanswered.cases hcommand with ⟨rfl, payment, hordered, hpaid⟩ | ⟨hrefused, rfl, -⟩
  · -- the payment has been made, and the books can hold its balance
    obtain rfl := hpayment payment hordered
    obtain ⟨-, -, hcount, -⟩ := Purse.Numbers.pay_eq_ok hpaid
    rw [if_pos rfl, Draw.applyTo_eq hpaid]
    refine ⟨_, rfl, ⟨hconfig, ⟨updated.last, ?_⟩, hbalances.violations_eq, ?_, fun _ ↦ rfl,
      fun hroom ↦ (hfired hroom).trans ?_⟩, rfl⟩
    · exact hcount ▸ hafter
    · dsimp only
      omega
    · rw [if_neg (by decide)]
      rfl
  · have hother : word ≠ .noError := by
      rintro rfl
      exact absurd hrefused (by decide)
    rw [if_neg hother]
    by_cases htorn : word = .unknown
    · rw [if_pos htorn]
      refine ⟨_, rfl, ⟨hconfig, ⟨last, hafter⟩, hbalances.violations_eq, ?_, fun _ ↦ rfl,
        fun hroom ↦ (hfired hroom).trans ?_⟩, rfl⟩
      · dsimp only
        omega
      · rw [if_pos htorn, Nat.add_assoc]
    · rw [if_neg htorn]
      refine ⟨_, rfl, ⟨hconfig, ⟨last, hafter⟩, hbalances.violations_eq, ?_, fun _ ↦ rfl,
        fun hroom ↦ (hfired hroom).trans ?_⟩, rfl⟩
      · dsimp only
        omega
      · rw [if_neg htorn]
        rfl

/-- The readings after a round find nothing wrong. -/
theorem audit (hbalances : campaign.Balances config entry purse fired done) (round : Nat) :
    ∃ after, campaign.audit round = { campaign with card := after } ∧
      (campaign.audit round).Balances config entry purse fired done := by
  obtain ⟨last, htends⟩ := hbalances.tends
  obtain ⟨middle, hbalance, hplatform, hconfig, hmiddle⟩ := readShort_eq htends
    (by decide : Purse.asked? Purse.balanceInstruction = some Purse.balanceIndex)
    htends.shows.balance
  obtain ⟨after, hcount, hplatform', hconfig', hafter⟩ := readShort_eq hmiddle
    (by decide : Purse.asked? Purse.countInstruction = some Purse.countIndex) hmiddle.shows.count
  have hsame : after.platform = campaign.card.platform := hplatform'.trans hplatform
  have hdepth : after.transactionDepth = 0 := hafter.reachable.rests.depth_eq
  have haudit : campaign.audit round = { campaign with card := after } := by
    rw [Campaign.audit, hbalance]
    dsimp only
    rw [hcount]
    dsimp only
    rw [if_pos rfl, if_pos rfl, if_pos hdepth, List.append_nil, List.append_nil, List.append_nil]
  refine ⟨after, haudit, ?_⟩
  rw [haudit]
  exact {
    config_eq := (hconfig'.trans hconfig).trans hbalances.config_eq
    tends := ⟨last, hafter⟩
    violations_eq := hbalances.violations_eq
    rounds_eq := hbalances.rounds_eq
    disarmed := hsame.symm ▸ hbalances.disarmed
    fired_eq := fun hroom ↦ by
      rw [← hbalances.fired_eq hroom, Card.tearsFired, hsame]
      rfl }

/-- A round is played to its end, and the books still agree. -/
theorem step (hbalances : campaign.Balances config entry purse fired done) (round : Nat)
    (draw : Draw) :
    ∃ after : Campaign σ, campaign.step round draw = some after ∧
      after.Balances config entry purse fired (done + 1) ∧
      after.report.rounds = campaign.report.rounds := by
  obtain ⟨entered, henter, hentered, hrounds⟩ := hbalances.enter draw
  obtain ⟨after, haudit, hafter⟩ := hentered.audit round
  refine ⟨entered.audit round, ?_, hafter, ?_⟩
  · rw [Campaign.step]
    dsimp only
    rw [henter]
    rfl
  · rw [haudit]
    exact hrounds

/-- So are all rounds. -/
theorem rounds (hbalances : campaign.Balances config entry purse fired done) (draws : Nat → Draw)
    (round count : Nat) :
    ∃ after : Campaign σ, campaign.rounds draws round count = some after ∧
      after.Balances config entry purse fired (done + count) ∧
      after.report.rounds = campaign.report.rounds := by
  induction count generalizing campaign round done with
  | zero => exact ⟨campaign, rfl, hbalances, rfl⟩
  | succ count ih =>
    obtain ⟨middle, hstep, hmiddle, hfirst⟩ := hbalances.step round (draws round)
    obtain ⟨after, hrest, hafter, hlast⟩ := ih hmiddle (round + 1)
    refine ⟨after, ?_, ?_, hlast.trans hfirst⟩
    · rw [Campaign.rounds, hstep]
      exact hrest
    · rw [Nat.add_comm count, ← Nat.add_assoc]
      exact hafter

end Balances

/-! ### Whole campaigns -/

/-- What a campaign against a purse reports, and the card that it leaves behind. -/
structure Succeeds (config : Config) (fired count : Nat) (report : Report) (after : Card σ) :
    Prop where
  violations_eq : report.violations = []
  rounds_eq : report.rounds = count
  sum_eq : report.committed + report.torn + report.rejected = count
  observed_eq : report.observedBalance = report.expectedBalance
  disarmed : 0 < count → after.platform.store.transaction.tear.remaining = none
  fired_eq : 6 ≤ config.commitCapacity → after.tearsFired = fired + report.torn

/-- Books that agree with the purse are closed as they should be. -/
theorem Balances.close (hbalances : campaign.Balances config entry purse fired done)
    (hrounds : campaign.report.rounds = done) :
    Succeeds config fired done campaign.close.1 campaign.close.2 := by
  obtain ⟨last, htends⟩ := hbalances.tends
  obtain ⟨after, hbalance, hplatform, -, -⟩ := readShort_eq htends
    (by decide : Purse.asked? Purse.balanceInstruction = some Purse.balanceIndex)
    htends.shows.balance
  rw [Campaign.close, hbalance]
  exact {
    violations_eq := hbalances.violations_eq
    rounds_eq := hrounds
    sum_eq := hbalances.rounds_eq
    observed_eq := rfl
    disarmed := fun hany ↦ hplatform.symm ▸ hbalances.disarmed hany
    fired_eq := fun hroom ↦ by
      rw [← hbalances.fired_eq hroom, Card.tearsFired, hplatform]
      rfl }

/-- A campaign against a purse raises no alarm and misses no round, whatever is drawn: the numbers
of the rounds that were committed, torn and rejected add up, the balance observed is the one
expected, and the injector is disarmed after any round. With room for six bytes in the commit
buffer the injector has fired once for every round that was torn since the purse was selected, and
selecting it fires no injector that is disarmed. -/
theorem campaign_balances {aid : Aid} (hpurse : card.HasPurse aid)
    (hbuffer : card.config.bufferSize < blockLimit) (draws : Nat → Draw) (count : Nat) :
    ∃ report after, Campaign.run card aid draws count = some (report, after) ∧
      Succeeds card.config (card.select aid 0).2.tearsFired count report after ∧
      (card.platform.store.transaction.tear.remaining = none →
        (card.select aid 0).2.tearsFired = card.tearsFired) := by
  obtain ⟨_, _, _, -, hkeeps⟩ := hpurse.exists_keeps
  obtain ⟨config, hcoheres⟩ := hkeeps.reachable.exists_coheres
  obtain ⟨entry, purse, numbers, hselected, htends, htear⟩ := hpurse.select hcoheres.seats.basic
  have hconfig := card.config_next (.select aid 0)
  rw [Card.next] at hconfig
  have hselect : card.select aid 0 = (true, (card.select aid 0).2) := Prod.ext hselected rfl
  set chosen := (card.select aid 0).2
  have hfits : chosen.isOverburdenedBy (inquiry Purse.balanceInstruction) = false := by
    rw [Card.isOverburdenedBy, hconfig, decide_eq_false (Nat.not_le.mpr hbuffer), Bool.false_and]
  obtain ⟨middle, hbalance, hplatform, hconfig', hmiddle⟩ := readShort_eq htends
    (by decide : Purse.asked? Purse.balanceInstruction = some Purse.balanceIndex)
    htends.shows.balance
  obtain ⟨opened, hcount, hplatform', hconfig'', hopened⟩ := readShort_eq hmiddle
    (by decide : Purse.asked? Purse.countInstruction = some Purse.countIndex) hmiddle.shows.count
  -- the books open with what the purse has told
  have hbooks : (⟨opened, numbers.balance, numbers.count, { rounds := count }⟩ :
      Campaign σ).Balances card.config entry purse chosen.tearsFired 0 := {
    config_eq := (hconfig''.trans hconfig').trans hconfig
    tends := ⟨numbers.last, hopened⟩
    violations_eq := rfl
    rounds_eq := rfl
    disarmed := fun hany ↦ absurd hany (Nat.lt_irrefl 0)
    fired_eq := fun _ ↦ by
      rw [Card.tearsFired, hplatform', hplatform]
      rfl }
  obtain ⟨after, hrounds, hafter, hreport⟩ := hbooks.rounds draws 0 count
  rw [Nat.zero_add] at hafter
  refine ⟨after.close.1, after.close.2, ?_, hafter.close hreport, fun hdisarmed ↦ ?_⟩
  · rw [Campaign.run, hselect]
    dsimp only
    rw [hfits, if_neg Bool.false_ne_true, hbalance]
    dsimp only
    rw [hcount]
    dsimp only [Option.getD_some]
    rw [hrounds]
    rfl
  · exact congrArg TearInjector.fired (htear hdisarmed)

/-- A round that is committed, one that is refused and one that is torn. -/
theorem campaign_balances_torn :
    let config : Config := { atr := "3B" }
    let card : Card Unit := {
      config := config
      atr := [0x3B]
      platform := ⟨.empty config.quotas config.commitCapacity, .initial⟩
      registry := .empty config.maxApplets
      channels := .initial config.logicalChannels
      host := () }
    let aid : Aid := ⟨[0xA0, 0, 0, 0, 1], by decide, by decide⟩
    let installed := (card.install aid [0, 100] Purse.install).2
    let draws : Nat → Draw := fun round ↦
      if round = 0 then ⟨50, true, 3⟩ else if round = 1 then ⟨151, false, 0⟩ else ⟨30, false, 1⟩
    installed.HasPurse aid ∧ installed.config.bufferSize < blockLimit ∧
      (Campaign.run installed aid draws 3).map (fun outcome ↦
        (outcome.1.committed, outcome.1.rejected, outcome.1.torn)) = some (1, 1, 1) ∧
      ∃ report after, Campaign.run installed aid draws 3 = some (report, after) ∧
        Succeeds config (installed.select aid 0).2.tearsFired 3 report after ∧
        (installed.select aid 0).2.tearsFired = installed.tearsFired := by
  intro config card aid installed draws
  have hvalid : config.validate = .ok () := by decide
  have hatr : config.readAtr = .ok [0x3B] := by decide
  have hpowered : Card.ofConfig config () = .ok card := by rw [Card.ofConfig, hvalid, hatr]
  have hcontext : (card.install aid [0, 100] Purse.install).1 = .ok ⟨1⟩ := by decide +kernel
  have hpurse : installed.HasPurse aid :=
    Card.hasPurse_of_context (.ofConfig hpowered) (Prod.ext hcontext rfl) .refl
      (by decide +kernel)
  have hbuffer : installed.config.bufferSize < blockLimit := by decide +kernel
  obtain ⟨report, after, hrun, hsucceeds, hquiet⟩ := campaign_balances hpurse hbuffer draws 3
  exact ⟨hpurse, hbuffer, by decide +kernel, report, after, hrun, hsucceeds,
    hquiet (by decide +kernel)⟩

/-- An injector armed before the campaign tears the farewell of the applet that makes way for the
purse, and that tear is in no book. -/
theorem campaign_tears_farewell :
    let config : Config := { atr := "3B" }
    let card : Card Unit := {
      config := config
      atr := [0x3B]
      platform := ⟨.empty config.quotas config.commitCapacity, .initial⟩
      registry := .empty config.maxApplets
      channels := .initial config.logicalChannels
      host := () }
    let aid : Aid := ⟨[0xA0, 0, 0, 0, 1], by decide, by decide⟩
    let other : Aid := ⟨[0xA0, 0, 0, 0, 2], by decide, by decide⟩
    let factory : Factory Unit := fun _ ↦ do
      let array ← Code.allocate .persistent .byte 1
      Code.register
      return {
        process := Code.refuse .noError
        deselect := do
          let _ ← (Code.fill array 0 1 7).run
          return () }
    let armed := [.install other [] factory, .select other 0, .armTear 0].foldl Card.next
      (card.install aid [0, 100] Purse.install).2
    let draws : Nat → Draw := fun _ ↦ ⟨1, true, 0⟩
    armed.HasPurse aid ∧ 6 ≤ armed.config.commitCapacity ∧
      (∀ round, 1 ≤ (draws round).amount.toInt ∧ (draws round).tearAfter ≤ 0) ∧
      (Campaign.run armed aid draws 1).isSome = true ∧
      ¬ ∃ report after, Campaign.run armed aid draws 1 = some (report, after) ∧
        after.tearsFired = armed.tearsFired + report.torn := by
  intro config card aid other factory armed draws
  have hvalid : config.validate = .ok () := by decide
  have hatr : config.readAtr = .ok [0x3B] := by decide
  have hpowered : Card.ofConfig config () = .ok card := by rw [Card.ofConfig, hvalid, hatr]
  have hcontext : (card.install aid [0, 100] Purse.install).1 = .ok ⟨1⟩ := by decide +kernel
  have hleads : (card.install aid [0, 100] Purse.install).2.LeadsTo armed :=
    @Card.LeadsTo.next _ _ _ (@Card.LeadsTo.next _ _ _ (@Card.LeadsTo.next _ _ _ .refl
      (.install other [] factory) trivial) (.select other 0) trivial) (.armTear 0) trivial
  have hpurse : armed.HasPurse aid :=
    Card.hasPurse_of_context (.ofConfig hpowered) (Prod.ext hcontext rfl) hleads
      (by decide +kernel)
  have htears : (Campaign.run armed aid draws 1).map (fun outcome ↦
      (outcome.2.tearsFired, armed.tearsFired + outcome.1.torn)) = some (2, 1) := by
    decide +kernel
  refine ⟨hpurse, by decide +kernel, fun round ↦ ⟨by decide, Nat.le_refl 0⟩, by decide +kernel, ?_⟩
  rintro ⟨report, after, hrun, hequal⟩
  rw [hrun, Option.map_some] at htears
  obtain ⟨htwo, hone⟩ := Prod.mk.inj (Option.some.inj htears)
  exact absurd ((htwo.symm.trans hequal).trans hone) (by decide)

end Campaign

end SmartCard
