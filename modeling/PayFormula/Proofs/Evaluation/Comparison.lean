import Mathlib
import PayFormula.Proofs.Amount.Comparison
import PayFormula.Proofs.Evaluation.Calculation
import PayFormula.Proofs.Evaluation.Shown

/-!
# Comparisons in Formulas

The six comparison operators look at one order of their operands, the one that amounts have at the
scale of the context.  Operands are read forgivingly, so this holds for every two values, numerals
or not, whatever happens before: exactly one of `<`, `==` and `>` yields one, and the other three
operators are their negations.
-/

namespace PayFormula

namespace Surroundings

variable {s : Surroundings}

/-- All operators but the two connectives work with the values of both sides. -/
theorem binaryValue_eq {operator : BinaryOperator} (hand : operator ≠ .and) (hor : operator ≠ .or)
    (left right : Run Value) :
    s.binaryValue operator left right =
      left >>= fun l ↦ right >>= fun r ↦ s.strictValue operator l r := by
  cases operator with
  | and => exact absurd rfl hand
  | or => exact absurd rfl hor
  | _ => rfl

end Surroundings

theorem Comparison.strictValue_eq (operator : Comparison) (s : Surroundings) (l r : Value) :
    s.strictValue operator.operator l r =
      Run.pure (truthValue (operator.admits (Amount.order (some s.context.scale) l r))) := by
  have horder := Decimal.compareAt_eq s.places l.toDecimal r.toDecimal
  change _ = Amount.order (some s.context.scale) l r at horder
  rw [← horder]
  cases operator <;> rfl

namespace Formula

/-- On the journal the formulas give the values, one after the other. -/
structure GiveInTurn (s : Surroundings) (journal : Journal) (left right : Formula) (l r : Value) :
    Prop where
  first : ((left.eval s).on journal).1 = .ok l
  second : ((right.eval s).on ((left.eval s).on journal).2).1 = .ok r

/-- On the journal the formula is worked out to a truth value. -/
def Yields (s : Surroundings) (journal : Journal) (formula : Formula) (b : Bool) : Prop :=
  ((formula.eval s).on journal).1 = .ok (truthValue b)

variable {s : Surroundings} {journal : Journal} {left right : Formula} {l r : Value}

theorem giveInTurn_of_steady (hsteady : s.sources.collaborators.Steady)
    (hleft : (left.eval s).outcome = .ok l) (hright : (right.eval s).outcome = .ok r)
    (journal : Journal) : GiveInTurn s journal left right l r where
  first := by rw [eval_on_eq_of_steady hsteady, hleft]
  second := by rw [eval_on_eq_of_steady hsteady, hright]

theorem eval_binary {operator : BinaryOperator} (hand : operator ≠ .and) (hor : operator ≠ .or)
    (left right : Formula) :
    (binary operator left right).eval s =
      left.eval s >>= fun l ↦ right.eval s >>= fun r ↦ s.strictValue operator l r := by
  rw [eval, Surroundings.binaryValue_eq hand hor]

theorem eval_comparison (operator : Comparison) (left right : Formula) :
    (binary operator.operator left right).eval s =
      left.eval s >>= fun l ↦ right.eval s >>= fun r ↦
        Run.pure (truthValue (operator.admits (Amount.order (some s.context.scale) l r))) := by
  have hand : operator.operator ≠ .and := by cases operator <;> decide
  have hor : operator.operator ≠ .or := by cases operator <;> decide
  simp only [eval_binary hand hor, Comparison.strictValue_eq]

theorem yields_comparison (operator : Comparison) (h : GiveInTurn s journal left right l r) :
    (binary operator.operator left right).Yields s journal
      (operator.admits (Amount.order (some s.context.scale) l r)) := by
  rw [Yields, eval_comparison, Run.on_bind_of_ok (Prod.ext h.first rfl),
    Run.on_bind_of_ok (Prod.ext h.second rfl)]
  rfl

end Formula

/-- Comparison at a scale succeeds for every two values and is a total preorder: reflexive,
antisymmetric in sign and transitive, in line with the numbers and turned around by negation.  A
finer scale never reverses it.  In formulas exactly one of `<`, `==` and `>` yields one, and `>=`,
`!=` and `<=` yield the opposite, on every journal on which the two operands give values.  Where
answers depend on what is asked alone, what they give on a fresh journal will do. -/
theorem comparison_orders_amounts {coarse fine : Option ℤ}
    (hscale : Amount.placesOf coarse ≤ Amount.placesOf fine) :
    ∃ order finer : Value → Value → Ordering,
      (∀ a b, Amount.compare a b (Amount.scaleOf coarse) = .ok (order a b)) ∧
      (∀ a b, Amount.compare a b (Amount.scaleOf fine) = .ok (finer a b)) ∧
      Amount.IsAmountOrder order ∧
      (∀ a b, order a b = .eq ∨ order a b = finer a b) ∧
      (∀ (s : Surroundings) (journal : Journal) (left right : Formula) (l r : Value),
        Formula.GiveInTurn s journal left right l r →
        ∃ less equal greater : Bool,
          [less, equal, greater].count true = 1 ∧
          Amount.compare l r (.int s.context.scale) =
            .ok (if less then .lt else if equal then .eq else .gt) ∧
          (Formula.binary .less left right).Yields s journal less ∧
          (Formula.binary .equal left right).Yields s journal equal ∧
          (Formula.binary .greater left right).Yields s journal greater ∧
          (Formula.binary .greaterEqual left right).Yields s journal (!less) ∧
          (Formula.binary .notEqual left right).Yields s journal (!equal) ∧
          (Formula.binary .lessEqual left right).Yields s journal (!greater)) ∧
      ∀ (s : Surroundings) (left right : Formula) (l r : Value),
        s.sources.collaborators.Steady →
        (left.eval s).outcome = .ok l → (right.eval s).outcome = .ok r →
        ∀ journal, Formula.GiveInTurn s journal left right l r := by
  refine ⟨Amount.order coarse, Amount.order fine, fun a b ↦ Amount.compare_eq a b coarse,
    fun a b ↦ Amount.compare_eq a b fine, Amount.isAmountOrder_order coarse,
    fun a b ↦ Exact.order_eq_or_eq hscale _ _, ?_, fun _ _ _ _ _ ↦ Formula.giveInTurn_of_steady⟩
  intro s journal left right l r hgive
  have hyields (operator : Comparison) := Formula.yields_comparison operator hgive
  have hcompare := Amount.compare_eq l r (some s.context.scale)
  generalize Amount.order (some s.context.scale) l r = order at hyields hcompare
  refine ⟨order == .lt, order == .eq, order == .gt, ?_, ?_, hyields .less, hyields .equal,
    hyields .greater, hyields .greaterEqual, hyields .notEqual, hyields .lessEqual⟩
  · cases order <;> rfl
  · change _ = Except.ok order at hcompare
    rw [Amount.scaleOf] at hcompare
    rw [hcompare]
    cases order <;> rfl

/-- At two places `1.0001` counts as one, at ten it is more, and a text that is no number counts as
zero. -/
theorem comparison_orders_amounts_one :
    Amount.placesOf (some 2) ≤ Amount.placesOf none ∧
    ∃ order finer : Value → Value → Ordering,
      (∀ a b, Amount.compare a b (.int 2) = .ok (order a b)) ∧
      (∀ a b, Amount.compare a b .null = .ok (finer a b)) ∧
      order (.text "1.0001") (.text "1") = .eq ∧ finer (.text "1.0001") (.text "1") = .gt ∧
      Amount.numberOf (.text "-1.01") = -Amount.numberOf (.text "1.01") ∧
      Amount.numberOf (.text "-1") = -Amount.numberOf (.text "1") ∧
      order (.text "-1.01") (.text "-1") = order (.text "1") (.text "1.01") ∧
      let s : Surroundings := { context := { scale := -1 } }
      let left : Formula := .text (.text "a--1")
      let right : Formula := .unary .negate (.number (.text "0.5"))
      (left.eval s).outcome = .ok (.text "a--1") ∧ (right.eval s).outcome = .ok (.text "0") ∧
      ∃ less equal greater : Bool,
        [less, equal, greater].count true = 1 ∧ equal = true ∧
        (Formula.binary .equal left right).Yields s {} equal ∧
        (Formula.binary .notEqual left right).Yields s {} (!equal) := by
  have hscale : Amount.placesOf (some 2) ≤ Amount.placesOf none := by decide
  have hone : Amount.numberOf (.text "-1") = -Amount.numberOf (.text "1") := by decide +kernel
  have hmore : Amount.numberOf (.text "-1.01") = -Amount.numberOf (.text "1.01") := by
    decide +kernel
  obtain ⟨order, finer, hcoarse, hfine, horder, -, hformula, -⟩ := comparison_orders_amounts hscale
  refine ⟨hscale, order, finer, hcoarse, hfine, ?_, ?_, hmore, hone, ?_, rfl, rfl, ?_⟩
  · exact Except.ok.inj ((hcoarse _ _).symm.trans rfl)
  · exact Except.ok.inj ((hfine _ _).symm.trans rfl)
  · exact horder.negated _ _ _ _ hmore hone
  · obtain ⟨less, equal, greater, hcount, -, -, hequal, -, -, hdiffer, -⟩ :=
      hformula { context := { scale := -1 } } {} (.text (.text "a--1"))
        (.unary .negate (.number (.text "0.5"))) (.text "a--1") (.text "0") ⟨rfl, rfl⟩
    refine ⟨less, equal, greater, hcount, ?_, hequal, hdiffer⟩
    have hvalue : truthValue equal = truthValue true := Except.ok.inj (hequal.symm.trans rfl)
    cases equal with
    | true => rfl
    | false => exact absurd (Value.text.inj hvalue) (by decide)

end PayFormula
