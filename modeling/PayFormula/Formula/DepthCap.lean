/-!
# Caps on Depth

A cap says how many levels of a formula may be open at once, and how messages name that bound.  The
bound of a caller may be any number: what counts is how many whole levels lie within it, while the
message shows the number as it was given.  A bound that no depth exceeds is no bound.
-/

namespace PayFormula

structure DepthCap where
  /-- The levels that may be open at once; no number means that there is no bound. -/
  levels? : Option Nat
  shown : String
  deriving DecidableEq, Repr

namespace DepthCap

/-- An integer as the cap; no formula lies within a negative one. -/
def ofInt (n : Int) : DepthCap := ⟨some n.toNat, toString n⟩

/-- The levels to start with on `count` tokens.  A token opens two levels at most, after the one
that the formula itself opens, so without a bound these never run out. -/
def room (cap : DepthCap) (count : Nat) : Nat := cap.levels?.getD (2 * count + 1)

end DepthCap

end PayFormula
