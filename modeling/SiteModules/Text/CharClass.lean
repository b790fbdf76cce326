namespace SiteModules.Text

/-- The code points at which membership changes, in rising order; code point 0 is outside. -/
structure CharClass where
  flips : List Nat

namespace CharClass

def holdsAt : List Nat → Nat → Bool
  | [], _ => false
  | b :: bs, n => if n < b then false else !holdsAt bs n

def contains (k : CharClass) (c : Char) : Bool := holdsAt k.flips c.toNat

end CharClass

end SiteModules.Text
