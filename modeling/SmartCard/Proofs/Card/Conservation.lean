import SmartCard.Proofs.Applet.Opening
import SmartCard.Proofs.Card.Handling
import SmartCard.Proofs.Card.Permission

/-!
# Purses conserve money

A run makes the payments that it is answered to have made: `Card.payments` reads them off the bytes
sent, the applet that they are for and the answers to them, without a look at memory. They are made,
all of them and nothing else (`Card.Holds.run`), because an operation does one of two things. It may
order something of the purse (`Card.order?`), and then `Card.Holds.transmit` says what comes of it,
or all its stages overlook the purse (`Card.overlooks_stages`), and then nothing does.

So a purse conserves money (`Card.purse_conserves`). Code that looks at memory runs in the context
of the applet that it looks at, where nothing keeps it from the array; runs in which it writes to
the array, itself or through somebody to whom it offers the array, are left out
(`Card.Undisturbed`). And a card whose buffers no memory holds breaks down by the first order
(`Card.huge_buffer_pays_nothing`).
-/

set_option autoImplicit false
set_option relaxedAutoImplicit false

namespace SmartCard

namespace Card

variable {σ : Type}

/-! ### Orders in a run -/

/-- The order that some bytes are for the purse in a context, if they are one: they are read as a
command that the applet there is to handle, and not because it is being selected. -/
def order? (card : Card σ) (context : ContextId) (raw : List UInt8) :
    Option (Except StatusWord Purse.Payment) :=
  match Command.parse raw card.config.extendedLength with
  | .error _ => none
  | .ok command =>
    if (card.route command).1 = .ok (.handled context false) then Purse.order? command else none

/-- The payment that an operation makes, if it orders one and is answered that all went well. -/
def payment? (card : Card σ) (context : ContextId) : Operation σ → Option Purse.Payment
  | .transmit raw =>
    if (card.transmit raw).1 = StatusWord.noError.toBytes then
      (card.order? context raw).bind Except.toOption
    else none
  | _ => none

/-- The payments that a run makes, in order. -/
def payments (card : Card σ) (context : ContextId) : List (Operation σ) → List Purse.Payment
  | [] => []
  | operation :: rest =>
    (card.payment? context operation).toList ++ (card.next operation).payments context rest

variable {card : Card σ} {config : Config} {entry : Registration σ} {aid : Aid} {purse : Purse}
  {numbers : Purse.Numbers} {operation : Operation σ}

/-! ### What does not concern a purse -/

/-- A stage that leaves to the purse only selections and commands that order nothing spares it and
its array. -/
theorem spares_of_overlooks {stage : Stage σ} (happlet : entry.applet = purse.applet)
    (hoverlooks : stage.Overlooks card entry.context purse.state.id fun command selecting ↦
      selecting = true ∨ Purse.isCredit? command.instruction = none) :
    stage.Spares card entry purse.state.id (numbers.region entry.context) :=
  hoverlooks.spares happlet fun hother session bufferSize hkeeps ↦
    (congrArg (·.platform.Keeps purse.state.id (numbers.region entry.context))
      (Purse.keeps_process purse session hother bufferSize)).mpr hkeeps

/-- So it changes neither the purse nor its array. -/
theorem Holds.next (hholds : card.Holds entry purse.state.id (numbers.region entry.context))
    (happlet : entry.applet = purse.applet) (hcoheres : card.Coheres config)
    (hpermits : card.Permits entry.aid purse.state.id operation)
    (hnone : ∀ raw, operation = .transmit raw → card.order? entry.context raw = none) :
    (card.next operation).Holds entry purse.state.id (numbers.region entry.context) := by
  rw [← foldl_stages]
  refine hholds.foldl_perform hcoheres (card.isReady_stages operation) fun scene hscene ↦ ?_
  refine spares_of_overlooks happlet
    (overlooks_stages hholds.registered hcoheres hpermits ?_ scene hscene)
  intro raw command selecting hoperation hparse hroute
  have horder := hnone raw hoperation
  rw [order?, hparse] at horder
  dsimp only at horder
  cases selecting with
  | true => exact .inl rfl
  | false =>
    rw [if_pos hroute] at horder
    exact .inr (Option.map_eq_none_iff.mp horder)

/-! ### Orders -/

/-- Code that has sent nothing is answered with a status word alone. -/
theorem replyOf_of_silent {left : Exchange} (hsilent : left.finish = .ok [])
    (result : Except CardError Unit) (accepted : Nat) :
    replyOf result left accepted = (Purse.wordOf result).toBytes := by
  cases result with
  | error error => rfl
  | ok done => exact replyOf_of_finish hsilent accepted

/-- Bytes that order something are a command that orders it. -/
theorem order?_eq_some {context : ContextId} {raw : List UInt8}
    {order : Except StatusWord Purse.Payment} (horder : card.order? context raw = some order) :
    ∃ command, Command.parse raw card.config.extendedLength = .ok command ∧
      (card.route command).1 = .ok (.handled context false) ∧
      Purse.order? command = some order := by
  unfold order? at horder
  cases hparse : Command.parse raw card.config.extendedLength with
  | error word =>
    rw [hparse] at horder
    cases horder
  | ok command =>
    rw [hparse] at horder
    dsimp only at horder
    split at horder
    · exact ⟨command, rfl, ‹_›, horder⟩
    · cases horder

/-- What becomes of a card by an order to a purse that keeps some numbers: the status word that
answers it, and the numbers that the array keeps afterwards. -/
structure Settles (card : Card σ) (entry : Registration σ) (purse : Purse)
    (numbers : Purse.Numbers) (grants : List ContextId) (raw : List UInt8)
    (order : Except StatusWord Purse.Payment) (word : StatusWord) (updated : Purse.Numbers) :
    Prop where
  answered : Purse.Answered numbers (Purse.IsSafe card.platform.store) order word updated
  reply_eq : (card.transmit raw).1 = word.toBytes
  registry_eq : (card.transmit raw).2.registry = card.registry
  selected_eq : ∀ channel,
    (card.transmit raw).2.channels.selected channel = card.channels.selected channel
  contexts_eq : (card.transmit raw).2.platform.contexts = card.platform.contexts
  rests : (card.transmit raw).2.platform.store.Rests
  tells : Purse.TellsTear card.platform.store (card.transmit raw).2.platform.store word
  found : (card.transmit raw).2.platform.store.heap.find? purse.state.id =
    some (updated.sharedRegion entry.context grants)

/-- An order is answered as it should be, and the array keeps the numbers that it should. -/
theorem exists_settles (hentry : entry ∈ card.registry.entries)
    (happlet : entry.applet = purse.applet) (hcoheres : card.Coheres config)
    (hrests : card.platform.store.Rests) {grants : List ContextId}
    (hfound : card.platform.store.heap.find? purse.state.id =
      some (numbers.sharedRegion entry.context grants)) {raw : List UInt8}
    {order : Except StatusWord Purse.Payment}
    (horder : card.order? entry.context raw = some order) :
    ∃ word updated, card.Settles entry purse numbers grants raw order word updated := by
  obtain ⟨command, hparse, hroute, hordered⟩ := order?_eq_some horder
  obtain ⟨result, after, left, updated, hhandle, hreceiving, hanswered, hsettled, hcontexts, htells,
    hfind⟩ := @Purse.settle_process σ purse grants numbers
      ⟨⟨entry.context, command.channel, false⟩, card.platform, card.host, none⟩ command hrests
      hfound order hordered card.config.bufferSize
  obtain ⟨hreply, hplatform, hregistry, hselected⟩ := @transmit_of_selected σ card raw command
    entry.context entry hparse hroute (hcoheres.inContext?_eq_some hentry) result after left
    (happlet ▸ hhandle)
  exact ⟨Purse.wordOf result, updated, {
    answered := hanswered
    reply_eq := hreply.trans (replyOf_of_silent hreceiving.finish_eq result command.accepted)
    registry_eq := hregistry
    selected_eq := hselected
    contexts_eq := hplatform ▸ hcontexts
    rests := hplatform ▸ hsettled
    tells := hplatform ▸ htells
    found := hplatform ▸ hfind }⟩

/-- A purse that keeps its array to itself still does after an order. -/
theorem Holds.transmit (hholds : card.Holds entry purse.state.id (numbers.region entry.context))
    (happlet : entry.applet = purse.applet) (hcoheres : card.Coheres config)
    (hrests : card.platform.store.Rests) {raw : List UInt8}
    {order : Except StatusWord Purse.Payment}
    (horder : card.order? entry.context raw = some order) :
    ∃ word updated, Purse.Answered numbers (Purse.IsSafe card.platform.store) order word updated ∧
      (card.transmit raw).1 = word.toBytes ∧
      (card.transmit raw).2.Holds entry purse.state.id (updated.region entry.context) := by
  obtain ⟨word, updated, hsettles⟩ := @exists_settles σ card config entry purse numbers
    hholds.registered happlet hcoheres hrests [] hholds.keeps.store.found raw order horder
  refine ⟨word, updated, hsettles.answered, hsettles.reply_eq,
    hsettles.registry_eq ▸ hholds.registered, rfl, rfl, rfl, ?_⟩
  exact ⟨hsettles.rests.keeps hsettles.found, hsettles.contexts_eq ▸ hholds.keeps.unoffered⟩

/-- An operation makes the payment that it is answered to have made, if any, and leaves the rest of
the purse as it is. -/
theorem Holds.pay (hholds : card.Holds entry purse.state.id (numbers.region entry.context))
    (happlet : entry.applet = purse.applet) (hcoheres : card.Coheres config)
    (hrests : card.platform.store.Rests)
    (hpermits : card.Permits entry.aid purse.state.id operation) :
    ∃ updated, (card.payment? entry.context operation).toList.foldlM Purse.Numbers.pay numbers =
        .ok updated ∧
      (card.next operation).Holds entry purse.state.id (updated.region entry.context) := by
  by_cases horders : ∃ raw order, operation = .transmit raw ∧
      card.order? entry.context raw = some order
  · obtain ⟨raw, order, rfl, horder⟩ := horders
    obtain ⟨word, updated, hanswered, hreply, hafter⟩ :=
      hholds.transmit happlet hcoheres hrests horder
    obtain ⟨command, -, -, hordered⟩ := order?_eq_some horder
    refine ⟨updated, ?_, hafter⟩
    rw [payment?, horder, hreply]
    rcases hanswered.cases ⟨command, hordered⟩ with ⟨rfl, payment, rfl, hpaid⟩ | ⟨hword, rfl, -⟩
    · rw [if_pos rfl]
      exact (List.foldlM_cons ..).trans (by rw [hpaid]; rfl)
    · -- an order that came to nothing is not counted, for no refusal reads as success
      have hrefused : word.toBytes ≠ StatusWord.noError.toBytes := by
        intro hbytes
        obtain rfl := StatusWord.toBytes_injective hbytes
        exact absurd hword (by decide)
      rw [if_neg hrefused]
      rfl
  · have hnone : ∀ raw, operation = .transmit raw → card.order? entry.context raw = none := by
      intro raw hoperation
      refine Option.eq_none_iff_forall_ne_some.mpr fun order horder ↦ ?_
      exact horders ⟨raw, order, hoperation, horder⟩
    refine ⟨numbers, ?_, hholds.next happlet hcoheres hpermits hnone⟩
    have hquiet : card.payment? entry.context operation = none := by
      cases operation with
      | transmit raw =>
        rw [payment?, hnone raw rfl]
        exact ite_self none
      | _ => rfl
    rw [hquiet]
    rfl

/-- A run makes the payments that it is answered to have made. -/
theorem Holds.run (hholds : card.Holds entry purse.state.id (numbers.region entry.context))
    (happlet : entry.applet = purse.applet) (hreach : card.Reachable)
    {operations : List (Operation σ)}
    (hundisturbed : card.Undisturbed entry.aid purse.state.id operations) :
    ∃ updated, (card.payments entry.context operations).foldlM Purse.Numbers.pay numbers =
        .ok updated ∧ (operations.foldl Card.next card).Reachable ∧
      (operations.foldl Card.next card).Holds entry purse.state.id
        (updated.region entry.context) := by
  induction operations generalizing card numbers with
  | nil => exact ⟨numbers, rfl, hreach, hholds⟩
  | cons operation rest ih =>
    obtain ⟨hpermits, hrest⟩ := hundisturbed
    obtain ⟨config, hcoheres⟩ := hreach.exists_coheres
    obtain ⟨middle, hfirst, hnext⟩ := hholds.pay happlet hcoheres hreach.rests hpermits
    obtain ⟨updated, hothers, hreached, hlast⟩ := ih hnext (.next hreach hpermits.returns) hrest
    refine ⟨updated, ?_, hreached, hlast⟩
    rw [payments, List.foldlM_append, hfirst]
    exact hothers

/-! ### The purse that is installed -/

/-- A purse that has been installed holds its opening balance. -/
theorem Reachable.holds_installed {installed : Card σ} {data : List UInt8} {context : ContextId}
    (hreach : card.Reachable)
    (hinstalled : card.install aid data Purse.install = (.ok context, installed)) :
    ∃ entry : Registration σ, entry.aid = aid ∧ entry.context = context ∧
      entry.applet = (Purse.upcoming card.platform.store.heap context).applet ∧
      0 ≤ (Purse.opening data).toInt ∧
      installed.Holds entry card.platform.store.heap.nextId
        (Purse.Numbers.region ⟨Purse.opening data, 0, 0⟩ entry.context) := by
  obtain ⟨params, applet, first, after, rfl, hstore, hidle, rfl, hplay, hfurnished⟩ :=
    hreach.exists_furnished hinstalled
  rw [← hstore]
  have hopens := Purse.play_install (hstore ▸ hreach.rests.wellFormed) hidle hplay
  obtain ⟨entry, hregistered, haid, hcontext, rfl, hkeeps⟩ :=
    hfurnished ⟨Nat.le_refl _, hopens.idle, hopens.found, hopens.exports_eq, hopens.registered_eq⟩
  rw [← hcontext] at hkeeps
  exact ⟨entry, haid, hcontext, hopens.applet_eq, hopens.opening_nonneg, hregistered, rfl, rfl, rfl,
    hkeeps⟩

/-! ### Conservation -/

/-- Whether nothing can come between a payment and its end: no tear is to come with one of the next
three writes, and the commit buffer holds six bytes. -/
def IsSteady (card : Card σ) : Prop :=
  (∀ writes, card.platform.store.transaction.tear.remaining = some writes → 3 ≤ writes) ∧
    6 ≤ card.config.commitCapacity

/-- Whether an order to a purse is answered as it should be: that all went well only if a payment is
ordered, else with one of the refusals and without any change, with a failure only if something
could come between, and otherwise as the balance allows. -/
structure Serves (card : Card σ) (purse : Purse) (context : ContextId) (numbers : Purse.Numbers)
    (raw : List UInt8) (order : Except StatusWord Purse.Payment) : Prop where
  ordered : (card.transmit raw).1 = StatusWord.noError.toBytes → ∃ payment, order = .ok payment
  refused : (card.transmit raw).1 ≠ StatusWord.noError.toBytes →
    (∃ word ∈ Purse.refusals, (card.transmit raw).1 = word.toBytes) ∧
      purse.Shows (card.transmit raw).2.platform.store.heap context numbers
  failed : (card.transmit raw).1 = StatusWord.unknown.toBytes → ¬card.IsSteady
  answered_iff : card.IsSteady → ∀ payment, order = .ok payment →
    ((card.transmit raw).1 = StatusWord.noError.toBytes ↔ numbers.Affords payment)

/-- A purse serves every order. -/
theorem Holds.serves (hholds : card.Holds entry purse.state.id (numbers.region entry.context))
    (happlet : entry.applet = purse.applet) (hreach : card.Reachable)
    (hbalance : 0 ≤ numbers.balance.toInt) {raw : List UInt8}
    {order : Except StatusWord Purse.Payment}
    (horder : card.order? entry.context raw = some order) :
    card.Serves purse entry.context numbers raw order := by
  obtain ⟨config, hcoheres⟩ := hreach.exists_coheres
  obtain ⟨word, updated, hanswered, hreply, hafter⟩ :=
    hholds.transmit happlet hcoheres hreach.rests horder
  obtain ⟨command, -, -, hordered⟩ := order?_eq_some horder
  -- the capacity of the journal is the one configured, whatever has happened
  have hsteady : card.IsSteady ↔ Purse.IsSafe card.platform.store := by
    rw [IsSteady, ← hreach.commitCapacity_eq]
    rfl
  have hcases := hanswered.cases ⟨command, hordered⟩
  constructor
  case ordered =>
    intro hdone
    rcases hcases with ⟨-, payment, hpayment, -⟩ | ⟨hrefused, -⟩
    · exact ⟨payment, hpayment⟩
    · obtain rfl := StatusWord.toBytes_injective (hreply.symm.trans hdone)
      exact absurd hrefused (by decide)
  case refused =>
    intro hother
    rcases hcases with ⟨rfl, -⟩ | ⟨hrefused, rfl, -⟩
    · exact absurd hreply hother
    · exact ⟨⟨word, hrefused, hreply⟩, Purse.shows_region hafter.keeps.store.found⟩
  case failed =>
    intro hfailed
    obtain rfl := StatusWord.toBytes_injective (hreply.symm.trans hfailed)
    rcases hcases with ⟨hdone, -⟩ | ⟨-, -, hexposed⟩
    · exact absurd hdone (by decide)
    · exact hsteady.not.mpr (hexposed rfl)
  case answered_iff =>
    rintro hsafe payment rfl
    rw [hreply, StatusWord.toBytes_injective.eq_iff]
    obtain ⟨_, hpayment, hamount⟩ | hmalformed | hmalformed := Purse.order?_cases hordered
    · cases hpayment
      exact hanswered.noError_iff (hsteady.mp hsafe) hbalance hamount
    · cases hmalformed
    · cases hmalformed

/-- A purse conserves money. Whatever is done to a card on which it has been installed, and whose
buffers can be laid out, as long as it is not removed and its array not given away by code that
looks at memory, the balance is the opening balance with all credits added and all debits taken away
that were answered to have gone well, the number of changes is their number, and the last amount
that of the last one. And whatever is sent is answered, every order as it should be. -/
theorem purse_conserves {installed : Card σ} {data : List UInt8} {context : ContextId}
    (hreach : card.Reachable) (hbuffer : card.config.bufferSize < blockLimit)
    (hinstalled : card.install aid data Purse.install = (.ok context, installed)) :
    let purse := Purse.upcoming card.platform.store.heap context
    (∃ entry ∈ installed.registry.entries,
      entry.aid = aid ∧ entry.context = context ∧ entry.applet = purse.applet) ∧
    ∀ operations : List (Operation σ), installed.Undisturbed aid purse.state.id operations →
      let reached := operations.foldl next installed
      (∀ raw, reached.attempt? raw = some (reached.transmit raw)) ∧
      ∃ numbers : Purse.Numbers,
        purse.Shows reached.platform.store.heap context numbers ∧
        numbers.Tallies (Purse.opening data) (installed.payments context operations) ∧
        ∀ raw order, reached.order? context raw = some order →
          reached.Serves purse context numbers raw order := by
  intro purse
  obtain ⟨entry, rfl, rfl, happlet, hopening, hholds⟩ := hreach.holds_installed hinstalled
  refine ⟨⟨entry, hholds.registered, rfl, rfl, happlet⟩, fun operations hundisturbed ↦ ⟨?_, ?_⟩⟩
  · have hconfig := card.config_foldl (.install entry.aid data Purse.install :: operations)
    rw [List.foldl_cons, Card.next, hinstalled] at hconfig
    exact fun raw ↦ attempt?_eq_some (hconfig ▸ hbuffer) raw
  obtain ⟨numbers, hpaid, hreached, hlast⟩ := @Holds.run σ installed entry purse _ hholds happlet
    (hreach.installed hinstalled) operations hundisturbed
  have htallies := Purse.tallies_of_foldlM hopening hpaid
  exact ⟨numbers, Purse.shows_region hlast.keeps.store.found, htallies, fun raw order horder ↦
    hlast.serves happlet hreached htallies.balance_nonneg horder⟩

/-- Four orders, of which one exceeds the balance and one is torn, with a reset between and another
applet that comes and goes. -/
theorem purse_conserves_torn :
    let config : Config := { atr := "3B" }
    let card : Card Unit := {
      config := config
      atr := [0x3B]
      platform := ⟨.empty config.quotas config.commitCapacity, .initial⟩
      registry := .empty config.maxApplets
      channels := .initial config.logicalChannels
      host := () }
    let aid : Aid := ⟨[0xA0, 0, 0, 0, 1], by decide, by decide⟩
    let other : Aid := ⟨[0xA0, 0, 0, 0, 2], by decide, by decide⟩
    let order (instruction amount : UInt8) : Operation Unit :=
      .transmit [0x80, instruction, 0, 0, 2, 0, amount]
    let installed := (card.install aid [0, 100] Purse.install).2
    let purse := Purse.upcoming card.platform.store.heap ⟨1⟩
    let operations : List (Operation Unit) := [.select aid 0, order 0x30 50, order 0x40 200,
      .install other [] Purse.install, .armTear 1, order 0x40 30, .reset, .select aid 0,
      order 0x40 30, .uninstall other]
    card.Reachable ∧ card.config.bufferSize < blockLimit ∧
      card.install aid [0, 100] Purse.install = (.ok ⟨1⟩, installed) ∧
      installed.Undisturbed aid purse.state.id operations ∧
      installed.payments ⟨1⟩ operations = [⟨true, 50⟩, ⟨false, 30⟩] ∧
      ∃ numbers : Purse.Numbers,
        purse.Shows (operations.foldl next installed).platform.store.heap ⟨1⟩ numbers ∧
        numbers.Tallies 100 [⟨true, 50⟩, ⟨false, 30⟩] := by
  intro config card aid other order installed purse operations
  have hvalid : config.validate = .ok () := by decide
  have hatr : config.readAtr = .ok [0x3B] := by decide
  have hpowered : Card.ofConfig config () = .ok card := by rw [Card.ofConfig, hvalid, hatr]
  have hbuffer : card.config.bufferSize < blockLimit := by decide
  have hcontext : (card.install aid [0, 100] Purse.install).1 = .ok ⟨1⟩ := by decide +kernel
  have hinstalled : card.install aid [0, 100] Purse.install = (.ok ⟨1⟩, installed) :=
    Prod.ext hcontext rfl
  have hother : other ≠ aid := by decide
  have hundisturbed : installed.Undisturbed aid purse.state.id operations :=
    ⟨trivial, trivial, trivial, trivial, trivial, trivial, trivial, trivial, trivial, hother,
      trivial⟩
  have hpayments : installed.payments ⟨1⟩ operations = [⟨true, 50⟩, ⟨false, 30⟩] := by
    decide +kernel
  have hopening : Purse.opening [0, 100] = 100 := by decide +kernel
  obtain ⟨-, numbers, hshows, htallies, -⟩ :=
    (purse_conserves (.ofConfig hpowered) hbuffer hinstalled).2 operations hundisturbed
  rw [hpayments, hopening] at htallies
  exact ⟨.ofConfig hpowered, hbuffer, hinstalled, hundisturbed, hpayments, numbers, hshows,
    htallies⟩

/-- With a buffer that no memory holds the card breaks down where a debit should be answered,
although the configuration passes its check, the purse is selected, the balance allows the debit and
nothing is to come between. -/
theorem huge_buffer_pays_nothing :
    let config : Config := { atr := "3B", bufferSize := 9223372036854775808 }
    let card : Card Unit := {
      config := config
      atr := [0x3B]
      platform := ⟨.empty config.quotas config.commitCapacity, .initial⟩
      registry := .empty config.maxApplets
      channels := .initial config.logicalChannels
      host := () }
    let aid : Aid := ⟨[0xA0, 0, 0, 0, 1], by decide, by decide⟩
    let installed := (card.install aid [0, 100] Purse.install).2
    let purse := Purse.upcoming card.platform.store.heap ⟨1⟩
    let selected := installed.next (.select aid 0)
    let raw : List UInt8 := [0x80, 0x40, 0, 0, 2, 0, 10]
    Card.ofConfig config () = .ok card ∧
      card.install aid [0, 100] Purse.install = (.ok ⟨1⟩, installed) ∧
      installed.Undisturbed aid purse.state.id [.select aid 0] ∧
      selected.IsSteady ∧ selected.order? ⟨1⟩ raw = some (.ok ⟨false, 10⟩) ∧
      Purse.Numbers.Affords ⟨100, 0, 0⟩ ⟨false, 10⟩ ∧ selected.attempt? raw = none := by
  intro config card aid installed purse selected raw
  have hvalid : config.validate = .ok () := by decide
  have hatr : config.readAtr = .ok [0x3B] := by decide
  have hcontext : (card.install aid [0, 100] Purse.install).1 = .ok ⟨1⟩ := by decide +kernel
  have hdisarmed : selected.platform.store.transaction.tear.remaining = none := by decide +kernel
  have hsteady : selected.IsSteady := by
    refine ⟨fun writes hremaining ↦ ?_, by decide⟩
    rw [hdisarmed] at hremaining
    cases hremaining
  have haffords : Purse.Numbers.Affords ⟨100, 0, 0⟩ ⟨false, 10⟩ := by
    rw [Purse.Numbers.Affords]
    decide
  exact ⟨by rw [Card.ofConfig, hvalid, hatr], Prod.ext hcontext rfl, ⟨trivial, trivial⟩, hsteady,
    by decide +kernel, haffords, if_pos (by decide +kernel)⟩

end Card

end SmartCard
