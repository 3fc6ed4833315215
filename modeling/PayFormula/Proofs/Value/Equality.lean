import Mathlib
import PayFormula.Proofs.Table
import PayFormula.Value.Shape

/-!
# Equality of Keys

Plain data that can be the key of a mapping is told apart by what it is worth: a number by its size
whatever its type, and other data by itself.  So among such keys equality is symmetric and
transitive, although what is no number does not even equal itself.
-/

namespace PayFormula.Value

/-- What plain data is told apart by. -/
inductive Worth where
  | null
  | date (d : Date)
  | text (s : String)
  | number (x : Rat)
  | infinity (negative : Bool)

/-- The worth of a number. -/
def size? (value : Value) : Option Worth :=
  match value.rational?, value.infinity? with
  | some x, _ => some (.number x)
  | none, some negative => some (.infinity negative)
  | none, none => none

def worth? : Value → Option Worth
  | null => some .null
  | date d => some (.date d)
  | text s => some (.text s)
  | value => value.size?

theorem sameNumber_iff (a b : Value) :
    a.sameNumber b ↔ ∃ worth, a.size? = some worth ∧ b.size? = some worth := by
  unfold sameNumber size?
  cases a.rational? <;> cases b.rational? <;> cases a.infinity? <;> cases b.infinity? <;>
    simp <;> exact eq_comm

@[simp]
theorem size?_ne_null (value : Value) : value.size? ≠ some .null := by
  unfold size?
  split <;> simp

@[simp]
theorem size?_ne_date (value : Value) (d : Date) : value.size? ≠ some (.date d) := by
  unfold size?
  split <;> simp

@[simp]
theorem size?_ne_text (value : Value) (s : String) : value.size? ≠ some (.text s) := by
  unfold size?
  split <;> simp

/-- Two keys are the same when they have the same worth. -/
theorem beq_iff_worth {a b : Value} (ha : a.checkKey = .ok ()) (hb : b.checkKey = .ok ()) :
    a == b ↔ ∃ worth, a.worth? = some worth ∧ b.worth? = some worth := by
  change a.same b = true ↔ _
  have hnull : null.size? = none := rfl
  have hdate (d : Date) : (date d).size? = none := rfl
  have htext (s : String) : (text s).size? = none := rfl
  cases a with
  | list | map => nomatch ha
  | null =>
    cases b with
    | list | map => nomatch hb
    | _ => simp [same, worth?, sameNumber_iff, hnull]
  | date d =>
    cases b with
    | list | map => nomatch hb
    | date d' => simpa [same, worth?] using eq_comm
    | _ => simp [same, worth?, sameNumber_iff, hdate]
  | text s =>
    cases b with
    | list | map => nomatch hb
    | text s' => simpa [same, worth?] using eq_comm
    | _ => simp [same, worth?, sameNumber_iff, htext]
  | _ =>
    cases b with
    | list | map => nomatch hb
    | _ => simp [same, worth?, sameNumber_iff, hnull, hdate, htext]

theorem regular_keys : Table.Regular fun key : Value ↦ key.checkKey = .ok () where
  symm a b ha hb h := by
    rw [beq_iff_worth ha hb] at h
    rw [beq_iff_worth hb ha]
    obtain ⟨worth, hleft, hright⟩ := h
    exact ⟨worth, hright, hleft⟩
  trans a b c ha hb hc hab hbc := by
    rw [beq_iff_worth ha hb] at hab
    rw [beq_iff_worth hb hc] at hbc
    rw [beq_iff_worth ha hc]
    obtain ⟨worth, hleft, hmiddle⟩ := hab
    obtain ⟨other, hmiddle', hright⟩ := hbc
    obtain rfl := Option.some.inj (hmiddle.symm.trans hmiddle')
    exact ⟨worth, hleft, hright⟩

end PayFormula.Value
