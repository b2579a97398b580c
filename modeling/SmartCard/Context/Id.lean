/-!
# Context identifiers

Every installed applet runs in a context of its own, and context 0 is the card itself. The names
of contexts in messages are fixed here.
-/

set_option autoImplicit false
set_option relaxedAutoImplicit false

namespace SmartCard

structure ContextId where
  number : Nat
  deriving DecidableEq, Repr

namespace ContextId

/-- The context of the card itself, which may touch every array. -/
def system : ContextId := ⟨0⟩

/-- Whether a context is the card's own. -/
def isSystem (context : ContextId) : Bool :=
  context == system

instance : ToString ContextId where
  toString context := s!"ctx#{context.number}"

end ContextId

end SmartCard
