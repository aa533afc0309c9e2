namespace NodeTrial

inductive Tier
  | none
  | basic
  | premium
  | vip
  deriving DecidableEq, Repr

namespace Tier

def rank : Tier → Nat
  | none => 0
  | basic => 1
  | premium => 2
  | vip => 3

/-- The name under which a contract takes and returns the tier. -/
def name : Tier → String
  | none => "None"
  | basic => "Basic"
  | premium => "Premium"
  | vip => "Vip"

def satisfies (tier required : Tier) : Bool := required.rank ≤ tier.rank

end Tier

end NodeTrial
