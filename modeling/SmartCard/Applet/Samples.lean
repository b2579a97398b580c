import SmartCard.Applet.Hello
import SmartCard.Applet.Purse

/-!
# The sample applets

The catalog of the applets that come with the card, and the identifiers that they are installed
under where nothing else is asked for.
-/

set_option autoImplicit false
set_option relaxedAutoImplicit false

namespace SmartCard.Samples

/-- The identifier of the hello applet. -/
def helloAid : Aid :=
  ⟨[0xF0, 0, 0, 0, 1], by decide, by decide⟩

/-- The identifier of the purse applet. -/
def purseAid : Aid :=
  ⟨[0xF0, 0, 0, 0, 2], by decide, by decide⟩

/-- The sample applets by class name. -/
def catalog (σ : Type) : Catalog σ :=
  ⟨[("hello", Hello.install), ("purse", Purse.install)]⟩

end SmartCard.Samples
