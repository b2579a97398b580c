import SmartCard.Applet.Purse

/-!
# Payments

A purse keeps three numbers (`Purse.Numbers`). A command orders a credit or a debit, or is a
malformed order, or is none of these (`Purse.order?`). A payment is refused if the balance would
leave its range; otherwise it changes all three numbers (`Purse.Numbers.pay`). `Purse.Answered`
lists what can become of an order: which status word it is answered with and which numbers there are
afterwards.

Payments made one after another add up (`Purse.Numbers.Tallies`).
-/

set_option autoImplicit false
set_option relaxedAutoImplicit false

namespace SmartCard

/-- Different status words have different bytes. -/
theorem StatusWord.toBytes_injective : Function.Injective StatusWord.toBytes := by
  intro word other hbytes
  obtain ⟨hhigh, hlow⟩ : word.high = other.high ∧ word.low = other.low := by
    simpa [toBytes] using hbytes
  rw [← word.ofBytes_high_low, hhigh, hlow, other.ofBytes_high_low]

namespace Purse

/-! ### Numbers and payments -/

/-- The three numbers that a purse keeps. -/
structure Numbers where
  balance : Int16
  count : Int16
  last : Int16
  deriving DecidableEq, Repr

/-- A credit or a debit. -/
structure Payment where
  isCredit : Bool
  amount : Int16
  deriving DecidableEq, Repr

/-- What a payment adds to the balance. -/
def Payment.change (payment : Payment) : Int :=
  if payment.isCredit then payment.amount.toInt else -payment.amount.toInt

/-- The amount in some data, or the status word that refuses them. -/
def amountIn : List UInt8 → Except StatusWord Int16
  | [high, low] =>
    if (short high low).toInt < 0 then .error .wrongData else .ok (short high low)
  | _ => .error .wrongLength

/-- Whether an instruction is that of credits, or that of debits. -/
def isCredit? (instruction : UInt8) : Option Bool :=
  if instruction = creditInstruction then some true
  else if instruction = debitInstruction then some false
  else none

/-- The payment that a command orders, or the status word that refuses a malformed order. Other
commands order nothing. -/
def order? (command : Command) : Option (Except StatusWord Payment) :=
  (isCredit? command.instruction).map fun isCredit ↦ (amountIn command.data).map (.mk isCredit)

/-- The numbers after a payment, or the status word that refuses it. -/
def Numbers.pay (numbers : Numbers) (payment : Payment) : Except StatusWord Numbers :=
  (changed numbers.balance payment.change).map fun balance ↦
    ⟨balance, numbers.count + 1, payment.amount⟩

/-- Whether the balance allows a payment. -/
def Numbers.Affords (numbers : Numbers) (payment : Payment) : Prop :=
  if payment.isCredit then numbers.balance.toInt + payment.amount.toInt ≤ 32767
  else payment.amount.toInt ≤ numbers.balance.toInt

variable {numbers updated : Numbers} {payment : Payment} {safe : Prop}
  {order : Except StatusWord Payment} {word : StatusWord}

/-- A payment changes the balance by what it adds, which does not become negative. -/
theorem Numbers.pay_eq_ok (hpaid : numbers.pay payment = .ok updated) :
    updated.balance.toInt = numbers.balance.toInt + payment.change ∧
      0 ≤ updated.balance.toInt ∧ updated.count = numbers.count + 1 ∧
      updated.last = payment.amount := by
  unfold pay changed maxBalance at hpaid
  dsimp only at hpaid
  split at hpaid
  · cases hpaid
  · split at hpaid
    · cases hpaid
    · rename_i hrange hsign
      cases hpaid
      have hvalue : (Int16.ofInt (numbers.balance.toInt + payment.change)).toInt =
          numbers.balance.toInt + payment.change :=
        Int16.toInt_ofInt_of_le (by omega) (by omega)
      refine ⟨hvalue, ?_, rfl, rfl⟩
      rw [hvalue]
      omega

/-- A payment is possible if and only if the balance allows it. -/
theorem Numbers.affords_iff (hbalance : 0 ≤ numbers.balance.toInt)
    (hamount : 0 ≤ payment.amount.toInt) :
    numbers.Affords payment ↔ ∃ updated, numbers.pay payment = .ok updated := by
  have hlt := numbers.balance.toInt_lt
  have hlt' := payment.amount.toInt_lt
  unfold Affords pay changed maxBalance Payment.change
  cases payment.isCredit with
  | true =>
    simp only [if_true]
    by_cases hroom : numbers.balance.toInt + payment.amount.toInt ≤ 32767
    · rw [if_neg (by omega), if_neg (by omega)]
      exact iff_of_true hroom ⟨_, rfl⟩
    · rw [if_pos (by omega)]
      exact iff_of_false hroom nofun
  | false =>
    simp only [Bool.false_eq_true, if_false]
    rw [if_neg (by omega)]
    by_cases hcovered : payment.amount.toInt ≤ numbers.balance.toInt
    · rw [if_neg (by omega)]
      exact iff_of_true hcovered ⟨_, rfl⟩
    · rw [if_pos (by omega)]
      exact iff_of_false hcovered nofun

/-! ### What becomes of an order -/

/-- The status words of orders that come to nothing. -/
def refusals : List StatusWord :=
  [.wrongLength, .wrongData, .fileFull, insufficientFunds, .unknown]

/-- An amount is refused for its length or because it is negative. -/
theorem amountIn_eq_error {data : List UInt8} (hrefused : amountIn data = .error word) :
    word = .wrongLength ∨ word = .wrongData := by
  unfold amountIn at hrefused
  split at hrefused
  · split at hrefused
    · exact .inr (Except.error.inj hrefused).symm
    · cases hrefused
  · exact .inl (Except.error.inj hrefused).symm

/-- An order is a payment of an amount that is not negative, or refused for its length or for a
negative amount. -/
theorem order?_cases {command : Command} (horder : order? command = some order) :
    (∃ payment, order = .ok payment ∧ 0 ≤ payment.amount.toInt) ∨
      order = .error .wrongLength ∨ order = .error .wrongData := by
  obtain ⟨isCredit, -, rfl⟩ := Option.map_eq_some_iff.mp horder
  unfold amountIn
  split
  · split
    · exact .inr (.inr rfl)
    · exact .inl ⟨_, rfl, Int.not_lt.mp ‹_›⟩
  · exact .inr (.inl rfl)

/-- A payment is refused because the balance would become too large or negative. -/
theorem Numbers.pay_eq_error (hrefused : numbers.pay payment = .error word) :
    word = .fileFull ∨ word = insufficientFunds := by
  unfold pay changed at hrefused
  dsimp only at hrefused
  split at hrefused
  · cases hrefused
    exact .inl rfl
  · split at hrefused
    · cases hrefused
      exact .inr rfl
    · cases hrefused

/-- What can become of an order: the status word that it is answered with, and the numbers
afterwards. Unless it is safe, a payment may fail on the way, and then nothing has changed. -/
inductive Answered (numbers : Numbers) (safe : Prop) :
    Except StatusWord Payment → StatusWord → Numbers → Prop
  | malformed {word : StatusWord} : Answered numbers safe (.error word) word numbers
  | refused {payment : Payment} {word : StatusWord} (hrefused : numbers.pay payment = .error word) :
    Answered numbers safe (.ok payment) word numbers
  | failed {payment : Payment} {updated : Numbers} (hpaid : numbers.pay payment = .ok updated)
    (hexposed : ¬ safe) : Answered numbers safe (.ok payment) .unknown numbers
  | paid {payment : Payment} {updated : Numbers} (hpaid : numbers.pay payment = .ok updated) :
    Answered numbers safe (.ok payment) .noError updated

/-- An order is answered that all went well if a payment has been made. Otherwise nothing has
changed, and only what is not safe has failed on the way. -/
theorem Answered.cases (hanswered : Answered numbers safe order word updated)
    (hordered : ∃ command, order? command = some order) :
    (word = .noError ∧ ∃ payment, order = .ok payment ∧ numbers.pay payment = .ok updated) ∨
      word ∈ refusals ∧ updated = numbers ∧ (word = .unknown → ¬safe) := by
  have hnever : ∀ {word : StatusWord}, word ∈ refusals → word ≠ .unknown →
      word ∈ refusals ∧ numbers = numbers ∧ (word = .unknown → ¬safe) :=
    fun hmem hother ↦ ⟨hmem, rfl, fun hfailed ↦ absurd hfailed hother⟩
  cases hanswered with
  | malformed =>
    obtain ⟨command, horder⟩ := hordered
    rcases order?_cases horder with ⟨_, hpayment, -⟩ | hlength | hdata
    · cases hpayment
    · cases hlength
      exact .inr (hnever (by decide) (by decide))
    · cases hdata
      exact .inr (hnever (by decide) (by decide))
  | refused hrefused =>
    rcases Numbers.pay_eq_error hrefused with rfl | rfl
    · exact .inr (hnever (by decide) (by decide))
    · exact .inr (hnever (by decide) (by decide))
  | failed _ hexposed => exact .inr ⟨by decide, rfl, fun _ ↦ hexposed⟩
  | paid hpaid => exact .inl ⟨rfl, _, rfl, hpaid⟩

/-- If nothing can come between, the balance decides. -/
theorem Answered.noError_iff {payment : Payment}
    (hanswered : Answered numbers safe (.ok payment) word updated) (hsafe : safe)
    (hbalance : 0 ≤ numbers.balance.toInt) (hamount : 0 ≤ payment.amount.toInt) :
    word = .noError ↔ numbers.Affords payment := by
  rw [Numbers.affords_iff hbalance hamount]
  cases hanswered with
  | refused hrefused =>
    rw [hrefused]
    rcases Numbers.pay_eq_error hrefused with rfl | rfl
    · exact iff_of_false (by decide) nofun
    · exact iff_of_false (by decide) nofun
  | failed _ hexposed => exact absurd hsafe hexposed
  | paid hpaid => exact iff_of_true rfl ⟨_, hpaid⟩

/-! ### Sums of payments -/

/-- The amounts of the credits, or of the debits, among some payments. -/
def total (isCredit : Bool) (payments : List Payment) : Int :=
  payments.foldr (fun payment sum ↦
    if payment.isCredit = isCredit then payment.amount.toInt + sum else sum) 0

/-- Whether numbers are what payments have made of an opening balance. -/
structure Numbers.Tallies (numbers : Numbers) (opening : Int16) (payments : List Payment) :
    Prop where
  balance_nonneg : 0 ≤ numbers.balance.toInt
  balance_le : numbers.balance.toInt ≤ 32767
  balance_eq : numbers.balance.toInt =
    opening.toInt + total true payments - total false payments
  count_eq : numbers.count.toUInt16.toNat = payments.length % 65536
  last_eq : numbers.last = (payments.getLast?.map (·.amount)).getD 0

theorem total_cons (payment : Payment) (payments : List Payment) :
    total true (payment :: payments) - total false (payment :: payments) =
      payment.change + (total true payments - total false payments) := by
  unfold Payment.change
  cases hcredit : payment.isCredit with
  | true =>
    simp only [total, List.foldr_cons, hcredit, if_true, Bool.true_eq_false, if_false]
    omega
  | false =>
    simp only [total, List.foldr_cons, hcredit, Bool.false_eq_true, if_false, if_true]
    omega

theorem foldlM_pay {numbers updated : Numbers} {payments : List Payment}
    (hpaid : payments.foldlM Numbers.pay numbers = .ok updated) :
    updated.balance.toInt =
        numbers.balance.toInt + (total true payments - total false payments) ∧
      (0 ≤ numbers.balance.toInt → 0 ≤ updated.balance.toInt) ∧
      updated.count = numbers.count + Int16.ofNat payments.length ∧
      updated.last = (payments.getLast?.map (·.amount)).getD numbers.last := by
  induction payments generalizing numbers with
  | nil =>
    obtain rfl := Except.ok.inj hpaid
    exact ⟨(Int.add_zero _).symm, id, (Int16.add_zero _).symm, rfl⟩
  | cons payment rest ih =>
    rw [List.foldlM_cons] at hpaid
    cases hfirst : numbers.pay payment with
    | error word =>
      rw [hfirst] at hpaid
      cases hpaid
    | ok middle =>
      rw [hfirst] at hpaid
      obtain ⟨hbalance, hsign, hcount, hlast⟩ := ih hpaid
      obtain ⟨hchange, hmiddle, hone, hamount⟩ := Numbers.pay_eq_ok hfirst
      refine ⟨?_, fun _ ↦ hsign hmiddle, ?_, ?_⟩
      · rw [total_cons]
        omega
      · rw [hcount, hone, List.length_cons, Int16.ofNat_add, Int16.add_assoc,
          Int16.add_comm (Int16.ofNat rest.length)]
        rfl
      · rw [hlast, hamount, List.getLast?_cons]
        cases rest.getLast? <;> rfl

/-- Payments that have all been possible add up. -/
theorem tallies_of_foldlM {opening : Int16} {numbers : Numbers} {payments : List Payment}
    (hopening : 0 ≤ opening.toInt)
    (hpaid : payments.foldlM Numbers.pay ⟨opening, 0, 0⟩ = .ok numbers) :
    numbers.Tallies opening payments := by
  obtain ⟨hbalance, hsign, hcount, hlast⟩ := foldlM_pay hpaid
  have hlt := numbers.balance.toInt_lt
  dsimp only at hbalance hsign hcount
  refine ⟨hsign hopening, by omega, by omega, ?_, hlast⟩
  rw [hcount, Int16.zero_add, Int16.toUInt16_ofNat', UInt16.toNat_ofNat']

end Purse

end SmartCard
