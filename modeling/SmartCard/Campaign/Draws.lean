import SmartCard.Campaign

/-!
# Draws from a seed

A campaign runs on any draws. Where a program has to come by some, this generator stands in for a
random one: 64-bit words whose state advances by a fixed odd number and is mixed before use, so that
every round can be drawn without those before it. Nothing is made to depend on which words these
are, only that the same seed draws the same again.
-/

set_option autoImplicit false
set_option relaxedAutoImplicit false

namespace SmartCard

namespace Draw

/-- The number by which the state of the generator advances. -/
def stride : UInt64 := 0x9E3779B97F4A7C15

/-- The word drawn in a state. -/
def mix (state : UInt64) : UInt64 :=
  let first := (state ^^^ (state >>> 30)) * 0xBF58476D1CE4E5B9
  let second := (first ^^^ (first >>> 27)) * 0x94D049BB133111EB
  second ^^^ (second >>> 31)

/-- The draw made in a state, which uses three words. -/
def ofState (state : UInt64) (maxAmount maxTearAfter : Nat) : Draw where
  amount := Int16.ofNat (1 + (mix state).toNat % maxAmount)
  isCredit := (mix (state + stride)) % 2 = 0
  tearAfter := (mix (state + 2 * stride)).toNat % (maxTearAfter + 1)

end Draw

/-- What a round draws: each uses three words of the generator. -/
def CampaignPlan.draw (plan : CampaignPlan) (round : Nat) : Draw :=
  Draw.ofState (plan.seed + 3 * UInt64.ofNat round * Draw.stride) plan.maxAmount plan.maxTearAfter

end SmartCard
