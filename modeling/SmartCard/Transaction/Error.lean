/-!
# Failures of transactions
-/

set_option autoImplicit false
set_option relaxedAutoImplicit false

namespace SmartCard

/-- Why a transaction operation or a persistent write is refused. -/
inductive TransactionError where
  | alreadyActive
  | notActive
  | bufferFull (needed available : Nat)
  | torn
  deriving DecidableEq, Repr

/-- The wording of a refusal. -/
def TransactionError.message : TransactionError → String
  | .alreadyActive => "transaction already in progress"
  | .notActive => "no transaction in progress"
  | .bufferFull needed available =>
    s!"commit buffer full: {needed} bytes needed, {available} available"
  | .torn => "power lost before persistent write (simulated tear)"

end SmartCard
