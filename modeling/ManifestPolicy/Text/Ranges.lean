/-!
# Sets of code points

A set of characters given as closed ranges of code points, in rising order.
-/

namespace ManifestPolicy.Text

/-- Closed ranges of code points, lowest first. -/
abbrev Ranges := List (Nat × Nat)

/-- Whether the code point lies in one of the ranges. The ranges rise, so the search ends at
the first one that begins above it. -/
def Ranges.hasCode : Ranges → Nat → Bool
  | [], _ => false
  | (lo, hi) :: rest, n => if n < lo then false else n ≤ hi || Ranges.hasCode rest n

/-- Whether the character lies in one of the ranges. -/
def Ranges.has (rs : Ranges) (c : Char) : Bool := rs.hasCode c.toNat

end ManifestPolicy.Text
