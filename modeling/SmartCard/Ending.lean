/-!
# Endings

How a piece of code ends: with a value, or in a crash, which ends all that would have come after it.
-/

set_option autoImplicit false
set_option relaxedAutoImplicit false

namespace SmartCard

/-- How code ends. A crash has a text or none. -/
inductive Ending (α : Type) where
  | value (value : α)
  | crash (text : Option String)
  deriving DecidableEq, Repr

namespace Ending

variable {α β : Type}

/-- The ending with its value, if there is one, put through a function. -/
def map (change : α → β) : Ending α → Ending β
  | .value result => .value (change result)
  | .crash text => .crash text

end Ending

end SmartCard
