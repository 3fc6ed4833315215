import Mathlib
import PayFormula.Proofs.Evaluation.Comparison
import PayFormula.Proofs.Evaluation.Skipping

/-!
# Guarded Divisions

Three places decide whether a value is zero: the comparison with `0`, the truth test and the
division.  Each looks at the value cut at the scale of the context, so they agree on every value,
numerals that are tiny or negative and texts that are no numerals among them.  A division whose
divisor is tested first is therefore only reached when its quotient exists, and a formula guarded so
ends as one of its parts does or with that quotient.
-/

namespace PayFormula

/-- On the journal the run ends with a fault that callers are told of under the code. -/
def Run.Signals {α : Type} (run : Run α) (journal : Journal) (code : FaultCode) : Prop :=
  ∃ fault, (run.on journal).1 = .error fault ∧ fault.code? = some code.label

namespace Surroundings

variable {s : Surroundings}

instance (s : Surroundings) (value : Value) : Decidable (s.IsZero value) :=
  inferInstanceAs (Decidable (Exact.cut s.places value.toDecimal.toRat = 0))

theorem isTrue_eq_not_isZero (value : Value) : s.isTrue value = !decide (s.IsZero value) := by
  rw [Bool.eq_iff_iff, isTrue_iff, Bool.not_eq_true', decide_eq_false_iff_not]

theorem isTrue_truthValue (b : Bool) : s.isTrue (truthValue b) = b := by
  rw [(Denotes.truthValue b).isTrue]
  cases b <;> simp [truthWorth]

/-- The quotient of two values, cut at the scale. -/
def quotient (s : Surroundings) (l r : Value) : Value :=
  amountValue (Decimal.quotientAt s.places l.toDecimal r.toDecimal).trim

theorem divide_eq (l r : Value) :
    s.strictValue .divide l r =
      if s.IsZero r then Run.fail (.divisionByZero l.toText r.toText)
      else Run.pure (s.quotient l r) := by
  have hzero : r.toDecimal.isZeroAt s.places = true ↔ s.IsZero r := Decimal.isZeroAt_iff _ _
  rw [strictValue, Decimal.divAt?]
  by_cases h : s.IsZero r
  · rw [if_pos h, if_pos (hzero.2 h)]
  · rw [if_neg h, if_neg (mt hzero.1 h)]
    rfl

theorem order_zero_eq_iff (value : Value) :
    Amount.order (some s.context.scale) value (.text "0") = .eq ↔ s.IsZero value := by
  have hzero : Amount.numberOf (.text "0") = 0 := by decide +kernel
  rw [Amount.order, hzero, Exact.order_eq_iff, Exact.cut_zero]
  rfl

end Surroundings

namespace Formula

variable {s : Surroundings} {journal : Journal}

/-! ## Three tests for zero -/

/-- The literal `0`. -/
def zero : Formula := .number (.text "0")

theorem eval_equal_zero (formula : Formula) :
    (binary .equal formula zero).eval s =
      formula.eval s >>= fun value ↦ Run.pure (truthValue (decide (s.IsZero value))) := by
  simp only [← Surroundings.order_zero_eq_iff]
  exact eval_comparison .equal formula zero

theorem eval_notEqual_zero (formula : Formula) :
    (binary .notEqual formula zero).eval s =
      formula.eval s >>= fun value ↦ Run.pure (truthValue (!decide (s.IsZero value))) := by
  simp only [← Surroundings.order_zero_eq_iff]
  exact eval_comparison .notEqual formula zero

theorem eval_not_zero (formula : Formula) :
    (unary .not formula).eval s =
      formula.eval s >>= fun value ↦ Run.pure (truthValue (decide (s.IsZero value))) := by
  have hvalue (value : Value) : (!s.isTrue value) = decide (s.IsZero value) := by
    rw [Surroundings.isTrue_eq_not_isZero, Bool.not_not]
  simp only [← hvalue]
  rfl

theorem eval_division (left right : Formula) :
    (binary .divide left right).eval s =
      left.eval s >>= fun l ↦ right.eval s >>= fun r ↦
        if s.IsZero r then Run.fail (.divisionByZero l.toText r.toText)
        else Run.pure (s.quotient l r) := by
  have hand : BinaryOperator.divide ≠ .and := by decide
  have hor : BinaryOperator.divide ≠ .or := by decide
  simp only [eval_binary hand hor, Surroundings.divide_eq]

variable {left right : Formula} {l r : Value}

theorem yields_true_iff {test : Formula}
    (htest : test.eval s =
      right.eval s >>= fun value ↦ Run.pure (truthValue (decide (s.IsZero value))))
    (h : ((right.eval s).on journal).1 = .ok r) : test.Yields s journal true ↔ s.IsZero r := by
  rw [Yields, htest, Run.on_bind_of_ok (Prod.ext h rfl)]
  change Except.ok (truthValue (decide (s.IsZero r))) = Except.ok (truthValue true) ↔ _
  by_cases hzero : s.IsZero r <;> simp [hzero, truthValue]

theorem signals_division_iff (h : GiveInTurn s journal left right l r) :
    ((binary .divide left right).eval s).Signals journal .divisionByZero ↔ s.IsZero r := by
  rw [Run.Signals, eval_division, Run.on_bind_of_ok (Prod.ext h.first rfl),
    Run.on_bind_of_ok (Prod.ext h.second rfl)]
  by_cases hzero : s.IsZero r
  · rw [if_pos hzero]
    exact iff_of_true ⟨_, rfl, rfl⟩ hzero
  · rw [if_neg hzero]
    refine iff_of_false ?_ hzero
    rintro ⟨fault, hfault, -⟩
    exact nomatch hfault

/-! ## Divisions that are reached -/

/-- The formula ends in the same way each time, on whatever journal. -/
def SameEachTime (s : Surroundings) (formula : Formula) : Prop :=
  ∀ journal, ((formula.eval s).on journal).1 = (formula.eval s).outcome

theorem sameEachTime_of_steady (hsteady : s.sources.collaborators.Steady) (formula : Formula) :
    formula.SameEachTime s := by
  intro journal
  rw [eval_on_eq_of_steady hsteady]

theorem SameEachTime.givesOnly {formula : Formula} (h : formula.SameEachTime s) {value : Value}
    (hvalue : (formula.eval s).Gives value) : (formula.eval s).GivesOnly value := by
  rintro value' ⟨_, hvalue'⟩
  obtain ⟨_, hvalue⟩ := hvalue
  rw [h] at hvalue hvalue'
  exact Except.ok.inj (hvalue'.symm.trans hvalue)

/-- A division that stands aside where its divisor counts as zero, and where the divisor is worked
out once for the test and once more for the quotient. -/
def guardedDivision (s : Surroundings) (dividend divisor otherwise : Formula) : Run Value := do
  let r ← divisor.eval s
  if s.IsZero r then otherwise.eval s
  else
    let l ← dividend.eval s
    let _ ← divisor.eval s
    Run.pure (s.quotient l r)

/-- The formula runs as a division that stands aside where its divisor counts as zero: it never
fails in the division itself, and signals a division by zero only if one of its parts does where it
stands. -/
structure GuardsDivision (s : Surroundings) (dividend divisor otherwise guarded : Formula) :
    Prop where
  eval_eq : guarded.eval s = guardedDivision s dividend divisor otherwise
  signals : ∀ journal, (guarded.eval s).Signals journal .divisionByZero →
    let later := ((divisor.eval s).on journal).2
    (divisor.eval s).Signals journal .divisionByZero ∨
      (otherwise.eval s).Signals later .divisionByZero ∨
      (dividend.eval s).Signals later .divisionByZero

variable {dividend divisor otherwise guarded : Formula}

theorem fault_of_guardedDivision (h : divisor.SameEachTime s) {fault : Fault}
    (hfault : ((guardedDivision s dividend divisor otherwise).on journal).1 = .error fault) :
    let later := ((divisor.eval s).on journal).2
    ((divisor.eval s).on journal).1 = .error fault ∨
      ((otherwise.eval s).on later).1 = .error fault ∨
      ((dividend.eval s).on later).1 = .error fault := by
  rw [guardedDivision] at hfault
  rcases hdivisor : (divisor.eval s).on journal with ⟨fault' | r, later⟩
  · rw [Run.on_bind_of_error hdivisor] at hfault
    exact .inl hfault
  · rw [Run.on_bind_of_ok hdivisor] at hfault
    by_cases hzero : s.IsZero r
    · rw [if_pos hzero] at hfault
      exact .inr (.inl hfault)
    · rw [if_neg hzero] at hfault
      rcases hdividend : (dividend.eval s).on later with ⟨fault' | l, latest⟩
      · rw [Run.on_bind_of_error hdividend] at hfault
        refine .inr (.inr ?_)
        rw [hdividend]
        exact hfault
      · -- the divisor has been worked out before, so it does not fail now
        have hagain : ((divisor.eval s).on latest).1 = .ok r := by
          rw [h latest, ← h journal, hdivisor]
        rw [Run.on_bind_of_ok hdividend, Run.on_bind_of_ok (Prod.ext hagain rfl)] at hfault
        nomatch hfault

/-- A formula that tests its divisor, and divides where the divisor does not count as zero. -/
theorem guardsDivision_of_eval (h : divisor.SameEachTime s)
    (hguarded : guarded.eval s = divisor.eval s >>= fun r ↦
      if s.IsZero r then otherwise.eval s else (binary .divide dividend divisor).eval s) :
    GuardsDivision s dividend divisor otherwise guarded := by
  have heval : guarded.eval s = guardedDivision s dividend divisor otherwise := by
    rw [hguarded, guardedDivision]
    apply Run.bind_congr
    intro r hr
    by_cases hzero : s.IsZero r
    · rw [if_pos hzero, if_pos hzero]
    · rw [if_neg hzero, if_neg hzero, eval_division]
      apply Run.bind_congr
      intro l _
      -- the divisor is worked out a second time, and comes out as before
      apply (h.givesOnly hr).bind_congr
      rw [if_neg hzero]
  refine ⟨heval, ?_⟩
  rintro journal ⟨fault, hfault, hcode⟩
  rw [heval] at hfault
  exact (fault_of_guardedDivision h hfault).imp (fun hpart ↦ ⟨fault, hpart, hcode⟩)
    (Or.imp (fun hpart ↦ ⟨fault, hpart, hcode⟩) fun hpart ↦ ⟨fault, hpart, hcode⟩)

/-- A choice whose condition tells by its truth whether the divisor counts as zero. -/
theorem eval_guarded {condition positive negative : Formula} {shown : Value → Value}
    (hcondition : condition.eval s = divisor.eval s >>= fun r ↦ Run.pure (shown r))
    (hbranch : ∀ r, (if s.isTrue (shown r) then positive else negative) =
      if s.IsZero r then otherwise else binary .divide dividend divisor) :
    (call "IF" [condition, positive, negative]).eval s = divisor.eval s >>= fun r ↦
      if s.IsZero r then otherwise.eval s else (binary .divide dividend divisor).eval s := by
  rw [eval_choice (.inl rfl), hcondition, Run.bind_assoc]
  congr 1
  funext r
  have hbranches := congrArg (eval s) (hbranch r)
  rw [apply_ite (eval s), apply_ite (eval s)] at hbranches
  exact hbranches

variable (dividend otherwise) (h : divisor.SameEachTime s)

include h

theorem guardsDivision_equal :
    GuardsDivision s dividend divisor otherwise
      (call "IF" [binary .equal divisor zero, otherwise, binary .divide dividend divisor]) := by
  apply guardsDivision_of_eval h
  apply eval_guarded (eval_equal_zero divisor)
  intro r
  simp only [Surroundings.isTrue_truthValue, decide_eq_true_eq]

theorem guardsDivision_notEqual :
    GuardsDivision s dividend divisor otherwise
      (call "IF" [binary .notEqual divisor zero, binary .divide dividend divisor, otherwise]) := by
  apply guardsDivision_of_eval h
  apply eval_guarded (eval_notEqual_zero divisor)
  intro r
  by_cases hzero : s.IsZero r <;> simp [Surroundings.isTrue_truthValue, hzero]

theorem guardsDivision_truth :
    GuardsDivision s dividend divisor otherwise
      (call "IF" [divisor, binary .divide dividend divisor, otherwise]) := by
  apply guardsDivision_of_eval h
  apply eval_guarded (bind_pure (divisor.eval s)).symm
  intro r
  by_cases hzero : s.IsZero r <;> simp [Surroundings.isTrue_eq_not_isZero, hzero]

end Formula

/-- A division signals a division by zero exactly when its divisor equals zero for `==`, which is
when `NOT` of the divisor is true.  So a division that is guarded by any of the three tests never
fails itself, if its divisor comes out the same each time it is worked out, as every formula does
where answers depend on what is asked alone. -/
theorem zero_guard_protects_division (s : Surroundings) :
    (∀ (journal journal' : Journal) (left right : Formula) (l r : Value),
      Formula.GiveInTurn s journal left right l r → ((right.eval s).on journal').1 = .ok r →
      ((((Formula.binary .divide left right).eval s).Signals journal .divisionByZero ↔
        (Formula.binary .equal right .zero).Yields s journal' true) ∧
      ((Formula.binary .equal right .zero).Yields s journal' true ↔
        (Formula.unary .not right).Yields s journal' true))) ∧
    (∀ divisor : Formula, divisor.SameEachTime s → ∀ dividend otherwise : Formula,
      Formula.GuardsDivision s dividend divisor otherwise
        (.call "IF"
          [.binary .equal divisor .zero, otherwise, .binary .divide dividend divisor]) ∧
      Formula.GuardsDivision s dividend divisor otherwise
        (.call "IF"
          [.binary .notEqual divisor .zero, .binary .divide dividend divisor, otherwise]) ∧
      Formula.GuardsDivision s dividend divisor otherwise
        (.call "IF" [divisor, .binary .divide dividend divisor, otherwise])) ∧
    (s.sources.collaborators.Steady → ∀ formula : Formula, formula.SameEachTime s) := by
  refine ⟨?_, ?_, Formula.sameEachTime_of_steady⟩
  · intro journal journal' left right l r hgive hright
    rw [Formula.signals_division_iff hgive,
      Formula.yields_true_iff (Formula.eval_equal_zero right) hright,
      Formula.yields_true_iff (Formula.eval_not_zero right) hright]
    exact ⟨Iff.rfl, Iff.rfl⟩
  · intro divisor hsame dividend otherwise
    exact ⟨Formula.guardsDivision_equal dividend otherwise hsame,
      Formula.guardsDivision_notEqual dividend otherwise hsame,
      Formula.guardsDivision_truth dividend otherwise hsame⟩

/-- At one place `-0.04` is zero: division by it signals, and the guarded division is not
reached. -/
theorem zero_guard_protects_division_hundredths :
    let s : Surroundings := { context := { scale := 1 } }
    let left : Formula := .number (.text "5")
    let right : Formula := .text (.text "-0.04")
    let guarded : Formula :=
      .call "IF" [.binary .notEqual right .zero, .binary .divide left right, .number (.text "7")]
    Formula.GiveInTurn s {} left right (.text "5") (.text "-0.04") ∧
      ((Formula.binary .divide left right).eval s).Signals {} .divisionByZero ∧
      (Formula.binary .equal right .zero).Yields s {} true ∧
      (Formula.unary .not right).Yields s {} true ∧
      right.SameEachTime s ∧
      guarded.eval s = Formula.guardedDivision s left right (.number (.text "7")) ∧
      (guarded.eval s).outcome = .ok (.text "7") := by
  intro s left right guarded
  have hgive : Formula.GiveInTurn s {} left right (.text "5") (.text "-0.04") := ⟨rfl, rfl⟩
  have hnot : (Formula.unary .not right).Yields s {} true := rfl
  have hsame : right.SameEachTime s := fun _ ↦ rfl
  obtain ⟨htests, hguards, -⟩ := zero_guard_protects_division s
  obtain ⟨hsignals, hequal⟩ := htests {} {} left right _ _ hgive rfl
  obtain ⟨-, hguard, -⟩ := hguards right hsame left (.number (.text "7"))
  have hzero : s.IsZero (.text "-0.04") := by decide +kernel
  have hseven : guarded.eval s = (Formula.number (.text "7")).eval s :=
    hguard.eval_eq.trans (if_pos hzero)
  exact ⟨hgive, hsignals.2 (hequal.2 hnot), hequal.2 hnot, hnot, hsame, hguard.eval_eq,
    congrArg Run.outcome hseven⟩

end PayFormula
