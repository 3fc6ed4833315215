/-!
# Powers of Ten and Two

The steps of the grids that decimal and binary numbers lie on.
-/

namespace PayFormula

def tenTo (n : Nat) : Nat := Nat.pow 10 n

def twoTo (n : Nat) : Nat := Nat.pow 2 n

end PayFormula
