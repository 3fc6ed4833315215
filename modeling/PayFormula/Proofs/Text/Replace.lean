import Mathlib
import PayFormula.Text.Replace

/-!
# Replacing a Character

Where the part that is replaced is a single character, every occurrence stands alone, so replacing
works character by character.  Hence it goes through a text piece by piece, leaves texts without the
character alone, and takes the marks between the pieces of a text out again.
-/

namespace PayFormula.Text

variable {c : Char} {new : List Char}

theorem replaceChars_eq_flatMap (c : Char) (new cs : List Char) :
    replaceChars [c] new cs = cs.flatMap fun d ↦ if d = c then new else [d] := by
  rw [replaceChars, if_neg (by simp)]
  induction cs with
  | nil => rfl
  | cons d cs ih =>
    rw [List.flatMap_cons, ← ih, replaceFrom]
    by_cases h : d = c
    · have hprefix : [c].isPrefixOf (d :: cs) = true := by simp [List.isPrefixOf, h]
      rw [if_pos hprefix, if_pos h]
      rfl
    · have hprefix : ¬[c].isPrefixOf (d :: cs) = true := by simp [List.isPrefixOf, Ne.symm h]
      rw [if_neg hprefix, if_neg h]
      rfl

theorem replaceChars_append (cs ds : List Char) :
    replaceChars [c] new (cs ++ ds) = replaceChars [c] new cs ++ replaceChars [c] new ds := by
  rw [replaceChars_eq_flatMap, replaceChars_eq_flatMap, replaceChars_eq_flatMap,
    List.flatMap_append]

theorem replaceChars_cons_self (cs : List Char) :
    replaceChars [c] new (c :: cs) = new ++ replaceChars [c] new cs := by
  rw [replaceChars_eq_flatMap, replaceChars_eq_flatMap, List.flatMap_cons, if_pos rfl]

theorem replaceChars_eq_self {cs : List Char} (h : c ∉ cs) : replaceChars [c] new cs = cs := by
  rw [replaceChars_eq_flatMap]
  calc
    (cs.flatMap fun d ↦ if d = c then new else [d]) = cs.flatMap fun d ↦ [d] :=
      List.flatMap_congr fun d hd ↦ if_neg (ne_of_mem_of_not_mem hd h)
    _ = cs := by simp

/-- A character that replaces itself changes nothing. -/
theorem replaceChars_self (cs : List Char) : replaceChars [c] [c] cs = cs := by
  rw [replaceChars_eq_flatMap]
  calc
    (cs.flatMap fun d ↦ if d = c then [c] else [d]) = cs.flatMap fun d ↦ [d] :=
      List.flatMap_congr fun d _ ↦ by
        split
        · next heq => rw [heq]
        · rfl
    _ = cs := by simp

theorem replaceChars_intercalate {parts : List (List Char)} (h : ∀ part ∈ parts, c ∉ part) :
    replaceChars [c] [] ([c].intercalate parts) = parts.flatten := by
  induction parts with
  | nil => rfl
  | cons part rest ih =>
    rw [List.forall_mem_cons] at h
    rcases rest with _ | ⟨next, rest⟩
    · rw [List.intercalate_singleton, replaceChars_eq_self h.1]
      simp
    · rw [List.intercalate_cons_cons, List.append_assoc, List.singleton_append,
        replaceChars_append, replaceChars_eq_self h.1, replaceChars_cons_self, List.nil_append,
        ih h.2, ← List.flatten_cons]

theorem replace_singleton (c : Char) (new cs : List Char) :
    replace (.singleton c) (String.ofList new) (String.ofList cs) =
      String.ofList (replaceChars [c] new cs) := by
  rw [replace, String.toList_singleton, String.toList_ofList, String.toList_ofList]

end PayFormula.Text
