import SmartCard.Memory.Kind
import SmartCard.Transaction.Error

/-!
# Failures of memory operations
-/

set_option autoImplicit false
set_option relaxedAutoImplicit false

namespace SmartCard

/-- Why an allocation or an access is refused. -/
inductive MemoryError where
  | outOfMemory (lifetime : Lifetime) (requested available : Nat)
  | invalidHandle (id : Nat)
  | outOfBounds (index length arrayLength : Nat)
  | kindMismatch (kind expected : ElementKind)
  | securityViolation (caller owner : ContextId)
  | journal (error : TransactionError)
  deriving DecidableEq, Repr

/-- The wording of a refusal. -/
def MemoryError.message : MemoryError → String
  | .outOfMemory lifetime requested available =>
    s!"out of {lifetime.name} memory: {requested} bytes requested, {available} available"
  | .invalidHandle id => s!"invalid array handle {id}"
  | .outOfBounds index length arrayLength =>
    s!"index {index}+{length} out of bounds for array of length {arrayLength}"
  | .kindMismatch kind expected =>
    s!"array holds {kind.name} elements, access expected {expected.name}"
  | .securityViolation caller owner => s!"{caller} may not access array owned by {owner}"
  | .journal error => error.message

end SmartCard
