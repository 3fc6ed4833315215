/-!
# Bands of Code Points

A property of characters is given as the code points that have it, written as inclusive bands in
ascending order.  Membership walks the bands and stops at the first one that starts above the
point, so a list must be ascending for the answer to be the union of its bands.
-/

namespace PayFormula.Text

/-- Inclusive bands of code points, in ascending order. -/
abbrev Bands := List (Nat × Nat)

namespace Bands

def has : Bands → Nat → Bool
  | [], _ => false
  | (low, high) :: rest, point =>
    if point < low then false else decide (point ≤ high) || has rest point

/-- Every band is nonempty and lies wholly below the next one. -/
def Ascending : Bands → Prop
  | [] => True
  | [(low, high)] => low ≤ high
  | (low, high) :: (low', high') :: rest =>
    low ≤ high ∧ high < low' ∧ Ascending ((low', high') :: rest)

end Bands

end PayFormula.Text
