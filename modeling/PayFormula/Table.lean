/-!
# Tables

A table is a list of keys with their values in the order in which the keys first came.  Putting a
key that is already there replaces its value and keeps its place.
-/

namespace PayFormula

abbrev Table (κ α : Type) := List (κ × α)

namespace Table

variable {κ α : Type} [BEq κ]

def get? (key : κ) (table : Table κ α) : Option α :=
  (table.find? (·.1 == key)).map (·.2)

def put (key : κ) (value : α) : Table κ α → Table κ α
  | [] => [(key, value)]
  | (key', value') :: rest =>
    if key' == key then (key', value) :: rest else (key', value') :: put key value rest

/-- The table that pairs build when they are put one after another. -/
def ofPairs (pairs : List (κ × α)) : Table κ α :=
  pairs.foldl (fun table (key, value) ↦ table.put key value) []

/-- Everything of `later` put on top of `earlier`. -/
def overlay (earlier later : Table κ α) : Table κ α :=
  later.foldl (fun table (key, value) ↦ table.put key value) earlier

end Table

end PayFormula
