import SmartCard.Transaction.Journal
import SmartCard.Transaction.Tear

/-!
# Transactions

At most one transaction is open at a time. Writes are applied in place, so committing only drops
the journal; aborting hands the journal out, and whoever holds the memory puts the old contents
back.
-/

set_option autoImplicit false
set_option relaxedAutoImplicit false

namespace SmartCard

structure Transaction where
  /-- Whether a transaction is open. -/
  isActive : Bool
  journal : Journal
  tear : TearInjector
  commits : Nat
  aborts : Nat
  deriving DecidableEq, Repr

namespace Transaction

/-- No transaction yet, and room for `capacity` bytes of images. -/
def idle (capacity : Nat) : Transaction :=
  ⟨false, .empty capacity, .idle, 0, 0⟩

/-- How many transactions are open: none or one. -/
def depth (transaction : Transaction) : Nat :=
  if transaction.isActive then 1 else 0

/-- Opens a transaction. -/
def begin (transaction : Transaction) : Except TransactionError Transaction :=
  if transaction.isActive then .error .alreadyActive
  else .ok { transaction with isActive := true, journal := transaction.journal.clear }

/-- Makes the writes of the open transaction permanent and says how many entries are dropped. -/
def commit (transaction : Transaction) : Except TransactionError (Nat × Transaction) :=
  if transaction.isActive then
    .ok (transaction.journal.entries.length, { transaction with
      isActive := false
      journal := transaction.journal.clear
      commits := transaction.commits + 1 })
  else .error .notActive

/-- Closes the open transaction and hands out its journal. -/
def abort (transaction : Transaction) : Except TransactionError (Journal × Transaction) :=
  if transaction.isActive then
    .ok (transaction.journal, { transaction with
      isActive := false
      journal := transaction.journal.clear
      aborts := transaction.aborts + 1 })
  else .error .notActive

/-- What a persistent write of `length` cells from `start` on has to pass before it is made: it may
be torn, and inside a transaction its cells are recorded. -/
def prepareWrite (transaction : Transaction) (region start length : Nat) (current : Cells) :
    Except TransactionError Unit × Transaction :=
  match transaction.tear.pass with
  | (.error error, tear) => (.error error, { transaction with tear })
  | (.ok (), tear) =>
    if transaction.isActive then
      match transaction.journal.record region start length current with
      | .error error => (.error error, { transaction with tear })
      | .ok journal => (.ok (), { transaction with tear, journal })
    else (.ok (), { transaction with tear })

/-- Notes an array allocated while a transaction is open. -/
def noteAllocation (transaction : Transaction) (region : Nat) : Transaction :=
  if transaction.isActive then
    { transaction with journal := transaction.journal.recordAllocation region }
  else transaction

end Transaction

end SmartCard
