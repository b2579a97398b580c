import SmartCard.Applet.Samples
import SmartCard.Card.Dispatch

/-!
# Tear campaigns

A campaign sends a purse one credit or debit a round, with a tear armed at some write, and keeps
books of its own: a change counts when it was answered with success, and then with its whole
amount. After every round the balance and the count of the purse have to agree with the books and
no transaction may be open; whatever does not is a violation. What each round draws is given by the
number of the round, so a campaign is a function of the card, the draws and how many rounds there
are. The balance by the books has 16 bits: a campaign in which it needs more breaks down, and so
does one on a card whose buffer no memory holds.
-/

set_option autoImplicit false
set_option relaxedAutoImplicit false

namespace SmartCard

/-- The settings of a campaign. -/
structure CampaignPlan where
  rounds : Nat := 200
  seed : UInt64 := 0x5EED
  /-- The largest amount of a round. -/
  maxAmount : Nat := 50
  /-- The most writes that come through before a tear. -/
  maxTearAfter : Nat := 5
  deriving DecidableEq, Repr

/-- What happens in one round. -/
structure Draw where
  amount : Int16
  /-- Whether the amount is credited; it is debited otherwise. -/
  isCredit : Bool
  /-- How many writes come through before the tear. -/
  tearAfter : Nat
  deriving DecidableEq, Repr

/-- What a balance becomes by the change of a round, unless it leaves 16 bits. -/
def Draw.applyTo (draw : Draw) (balance : Int16) : Option Int16 :=
  let changed := if draw.isCredit then balance.toInt + draw.amount.toInt
    else balance.toInt - draw.amount.toInt
  if -32768 ≤ changed ∧ changed ≤ 32767 then some (Int16.ofInt changed) else none

/-- What is wrong after a round, or before the first one. -/
inductive Violation where
  | unselectable (purse : Aid)
  | unreadableBalance
  | balance (round : Nat) (observed : Option Int16) (expected : Int16)
  | count (round : Nat) (observed : Option Int16) (expected : Int16)
  | openTransaction (round : Nat)
  deriving DecidableEq

namespace Violation

/-- A reading that may have failed, as messages show it. -/
def readingText : Option Int16 → String
  | none => "None"
  | some value => s!"Some({value.toInt})"

/-- The wording of a violation. -/
def message : Violation → String
  | .unselectable purse => s!"purse {purse} could not be selected"
  | .unreadableBalance => "initial balance unreadable"
  | .balance round observed expected =>
    s!"round {round}: balance {readingText observed}, expected {expected.toInt}"
  | .count round observed expected =>
    s!"round {round}: count {readingText observed}, expected {expected.toInt}"
  | .openTransaction round => s!"round {round}: transaction left open"

end Violation

/-- What happened in a campaign. -/
structure Report where
  rounds : Nat
  committed : Nat := 0
  torn : Nat := 0
  /-- Rounds refused before any write. -/
  rejected : Nat := 0
  expectedBalance : Int16 := 0
  observedBalance : Int16 := 0
  violations : List Violation := []
  deriving DecidableEq

/-- Whether nothing was wrong. -/
def Report.isConsistent (report : Report) : Bool :=
  report.violations.isEmpty

/-- A campaign after some rounds: the card, the balance and the count by the books, and the report
so far. -/
structure Campaign (σ : Type) where
  card : Card σ
  balance : Int16
  count : Int16
  report : Report

namespace Campaign

variable {σ : Type}

/-- The bytes of a command that asks the purse for one of its numbers. -/
def inquiry (instruction : UInt8) : List UInt8 :=
  (Command.plain instruction (some 2)).encode

/-- Asks the selected purse for one of its numbers. -/
def readShort (card : Card σ) (instruction : UInt8) : Option Int16 × Card σ :=
  match card.transmit (inquiry instruction) with
  | ([high, low, 0x90, 0x00], card) => (some (Purse.short high low), card)
  | (_, card) => (none, card)

/-- The status word at the end of a response. -/
def statusOf (response : List UInt8) : StatusWord :=
  match response.reverse with
  | low :: high :: _ => .ofBytes high low
  | _ => .unknown

/-- The command of a round. -/
def commandOf (draw : Draw) : Command :=
  .withData (if draw.isCredit then Purse.creditInstruction else Purse.debitInstruction)
    (Purse.shortBytes draw.amount)

/-- Enters the answer to the command of a round into the books, unless the balance leaves 16
bits. -/
def enter (campaign : Campaign σ) (draw : Draw) (word : StatusWord) : Option (Campaign σ) :=
  let report := campaign.report
  if word = .noError then
    (draw.applyTo campaign.balance).map fun balance ↦
      { campaign with
        balance := balance
        count := campaign.count + 1
        report := { report with committed := report.committed + 1 } }
  else if word = .unknown then
    some { campaign with report := { report with torn := report.torn + 1 } }
  else some { campaign with report := { report with rejected := report.rejected + 1 } }

/-- Compares the purse with the books. -/
def audit (campaign : Campaign σ) (round : Nat) : Campaign σ :=
  let (balance, card) := readShort campaign.card Purse.balanceInstruction
  let (count, card) := readShort card Purse.countInstruction
  let found :=
    (if balance = some campaign.balance then []
      else [Violation.balance round balance campaign.balance]) ++
    (if count = some campaign.count then [] else [Violation.count round count campaign.count]) ++
    (if card.transactionDepth = 0 then [] else [Violation.openTransaction round])
  { campaign with
    card := card
    report := { campaign.report with violations := campaign.report.violations ++ found } }

/-- One round. -/
def step (campaign : Campaign σ) (round : Nat) (draw : Draw) : Option (Campaign σ) :=
  let (response, card) :=
    (campaign.card.armTear draw.tearAfter).transmit (commandOf draw).encode
  (({ campaign with card := card.disarmTear } : Campaign σ).enter draw (statusOf response)).map
    fun entered ↦ entered.audit round

/-- As many rounds as asked for, from a number on. -/
def rounds (campaign : Campaign σ) (draws : Nat → Draw) (round : Nat) :
    (count : Nat) → Option (Campaign σ)
  | 0 => some campaign
  | count + 1 =>
    match campaign.step round (draws round) with
    | none => none
    | some campaign => campaign.rounds draws (round + 1) count

/-- Closes the books. -/
def close (campaign : Campaign σ) : Report × Card σ :=
  let (observed, card) := readShort campaign.card Purse.balanceInstruction
  ({ campaign.report with
      expectedBalance := campaign.balance
      observedBalance := observed.getD 0 }, card)

/-- Runs a campaign against the purse with the given identifier, which is selected on the basic
channel first. Nothing is drawn before the purse has told its balance, and the first question shows
whether there is a buffer for all that follow. -/
def run (card : Card σ) (purse : Aid) (draws : Nat → Draw) (count : Nat) :
    Option (Report × Card σ) :=
  let report : Report := { rounds := count }
  match card.select purse 0 with
  | (false, card) => some ({ report with violations := [.unselectable purse] }, card)
  | (true, card) =>
    if card.isOverburdenedBy (inquiry Purse.balanceInstruction) then none
    else
      match readShort card Purse.balanceInstruction with
      | (none, card) => some ({ report with violations := [.unreadableBalance] }, card)
      | (some balance, card) =>
        let (changes, card) := readShort card Purse.countInstruction
        ((⟨card, balance, changes.getD 0, report⟩ : Campaign σ).rounds draws 0 count).map close

end Campaign

end SmartCard
