import Mathlib
import PayFormula.Decimal.Grouped
import PayFormula.Proofs.Decimal.Numeral

/-!
# Digits in Groups

The whole digits of a grouped number are cut into groups of three from the right.  Put together the
groups are the digits again, and the one group that may be shorter is the first.  The text of a
grouped number is that of the rounded number with marks between the groups and its own mark before
the fraction.
-/

namespace PayFormula.Decimal

/-- All groups have three digits, but for the first, which may have one or two. -/
def IsGrouped (groups : List (List Char)) : Prop :=
  ∃ first rest, groups = first :: rest ∧ 1 ≤ first.length ∧ first.length ≤ 3 ∧
    ∀ group ∈ rest, group.length = 3

theorem isGrouped_groupsOfThree {digits : List Char} (h : digits ≠ []) :
    IsGrouped (groupsOfThree digits) := by
  induction digits using groupsOfThree.induct with
  | case1 digits hlength =>
    rw [groupsOfThree, if_pos hlength]
    exact ⟨digits, [], rfl, List.length_pos_iff.2 h, hlength, by simp⟩
  | case2 digits hlength ih =>
    have hfront : digits.take (digits.length - 3) ≠ [] := by
      rw [ne_eq, ← List.length_eq_zero_iff, List.length_take]
      omega
    obtain ⟨first, rest, hgroups, hlow, hhigh, hrest⟩ := ih hfront
    rw [groupsOfThree, if_neg hlength, hgroups]
    refine ⟨first, rest ++ [digits.drop (digits.length - 3)], rfl, hlow, hhigh, ?_⟩
    rw [List.forall_mem_append, List.forall_mem_singleton, List.length_drop]
    exact ⟨hrest, by omega⟩

theorem flatten_groupsOfThree (digits : List Char) : (groupsOfThree digits).flatten = digits := by
  induction digits using groupsOfThree.induct with
  | case1 digits hlength =>
    rw [groupsOfThree, if_pos hlength]
    simp
  | case2 digits hlength ih =>
    rw [groupsOfThree, if_neg hlength, List.flatten_append, ih, List.flatten_singleton,
      List.take_append_drop]

/-- A grouped number is its rounded numeral with other marks. -/
theorem toList_grouped (places : ℕ) (point group : String) (d : Decimal) :
    (d.grouped places point group).toList =
      (if (d.round .halfUp places).numeral.negative then ['-'] else []) ++
        group.toList.intercalate
          (groupsOfThree (d.round .halfUp places).numeral.magnitude.whole) ++
        ((d.round .halfUp places).numeral.magnitude.fraction?.map (point.toList ++ ·)).getD [] := by
  have hplaces : (d.round .halfUp places).places = places := rfl
  have hmap (groups : List (List Char)) :
      (groups.map String.ofList).map String.toList = groups := by
    simp [Function.comp_def]
  rw [grouped]
  simp only [String.toList_append, String.toList_intercalate, hmap, numeral, hplaces]
  congr 1
  · congr 1
    split <;> rfl
  · split
    · rfl
    · simp

end PayFormula.Decimal
