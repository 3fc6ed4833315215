import Mathlib
import PayFormula.Evaluation.Evaluator
import PayFormula.Proofs.Decimal.Numeral
import PayFormula.Proofs.Decimal.Rounding

/-!
# Calculations with Rationals

A calculation is a formula that needs nothing from its surroundings: literals, operators, choices
and the functions that compute.  Here it is worked out over the rationals, where every operation is
exact and a cut, where there is one, is a step of its own.  Evaluation, which writes each
intermediate value as text and reads it back, gives a text of the same worth, or the fault that the
rationals call for.
-/

namespace PayFormula

/-! ## Syntax -/

inductive Arithmetic where
  | plus
  | minus
  | times
  | divide

inductive Comparison where
  | less
  | greater
  | lessEqual
  | greaterEqual
  | equal
  | notEqual

inductive Connective where
  | and
  | or

/-- The two names of one function. -/
inductive ChoiceName where
  | short
  | long

inductive Extremum where
  | least
  | greatest

inductive WholeNumber where
  | floor
  | ceil

/-- The functions that take a precision. -/
inductive Rounding where
  | round
  | truncate

def Arithmetic.operator : Arithmetic → BinaryOperator
  | plus => .plus
  | minus => .minus
  | times => .times
  | divide => .divide

def Comparison.operator : Comparison → BinaryOperator
  | less => .less
  | greater => .greater
  | lessEqual => .lessEqual
  | greaterEqual => .greaterEqual
  | equal => .equal
  | notEqual => .notEqual

def Connective.operator : Connective → BinaryOperator
  | and => .and
  | or => .or

def ChoiceName.name : ChoiceName → String
  | short => "IF"
  | long => "IIF"

def Extremum.name : Extremum → String
  | least => "MIN"
  | greatest => "MAX"

def WholeNumber.name : WholeNumber → String
  | floor => "FLOOR"
  | ceil => "CEIL"

def Rounding.name : Rounding → String
  | round => "ROUND"
  | truncate => "TRUNCATE"

inductive Calculation where
  | literal (numeral : UnsignedNumeral)
  | truth (value : Bool)
  | negate (operand : Calculation)
  | not (operand : Calculation)
  | arithmetic (operator : Arithmetic) (left right : Calculation)
  | comparison (operator : Comparison) (left right : Calculation)
  | connective (operator : Connective) (left right : Calculation)
  | choice (name : ChoiceName) (condition positive negative : Calculation)
  | extremum (function : Extremum) (arguments : List Calculation)
  | absolute (operand : Calculation)
  | wholeNumber (function : WholeNumber) (operand : Calculation)
  | rounding (function : Rounding) (operand : Calculation)
  | roundingTo (function : Rounding) (operand precision : Calculation)

namespace Calculation

mutual

/-- The tree that stands for a calculation. -/
def formula : Calculation → Formula
  | literal numeral => .number (.text numeral.text)
  | truth value => .truth value
  | negate operand => .unary .negate (formula operand)
  | not operand => .unary .not (formula operand)
  | arithmetic operator left right => .binary operator.operator (formula left) (formula right)
  | comparison operator left right => .binary operator.operator (formula left) (formula right)
  | connective operator left right => .binary operator.operator (formula left) (formula right)
  | choice name condition positive negative =>
    .call name.name [formula condition, formula positive, formula negative]
  | extremum function arguments => .call function.name (formulas arguments)
  | absolute operand => .call "ABS" [formula operand]
  | wholeNumber function operand => .call function.name [formula operand]
  | rounding function operand => .call function.name [formula operand]
  | roundingTo function operand precision =>
    .call function.name [formula operand, formula precision]

def formulas : List Calculation → List Formula
  | [] => []
  | calculation :: rest => formula calculation :: formulas rest

end

end Calculation

/-! ## Worth -/

/-- Why a calculation has no worth. -/
inductive Trouble where
  | divisionByZero (dividend divisor : ℚ)
  | precisionTooLarge (function : Rounding) (precision : ℤ)

def truthWorth (b : Bool) : ℚ := if b then 1 else 0

def Arithmetic.worth (places : ℕ) : Arithmetic → ℚ → ℚ → Except Trouble ℚ
  | plus, a, b => .ok (Exact.cut places (a + b))
  | minus, a, b => .ok (Exact.cut places (a - b))
  | times, a, b => .ok (Exact.cut places (a * b))
  | divide, a, b =>
    if Exact.cut places b = 0 then .error (.divisionByZero a b)
    else .ok (Exact.cut places (a / b))

def Comparison.holds : Comparison → ℚ → ℚ → Bool
  | less, a, b => a < b
  | greater, a, b => b < a
  | lessEqual, a, b => a ≤ b
  | greaterEqual, a, b => b ≤ a
  | equal, a, b => a = b
  | notEqual, a, b => a ≠ b

/-- The smallest or the greatest of some numbers, zero if there are none. -/
def Extremum.worth : Extremum → List ℚ → ℚ
  | _, [] => 0
  | least, a :: rest => rest.foldl min a
  | greatest, a :: rest => rest.foldl max a

def WholeNumber.worth : WholeNumber → ℚ → ℤ
  | floor, a => ⌊a⌋
  | ceil, a => ⌈a⌉

/-- A number on the grid of so many places. -/
def Rounding.onGrid (places : ℕ) : Rounding → ℚ → ℚ
  | round, a => Exact.nearest (a * 10 ^ places) / 10 ^ places
  | truncate, a => Exact.cut places a

/-- The precision that counts where none is given. -/
def Rounding.defaultPrecision : Rounding → ℤ
  | round => 2
  | truncate => 0

/-- A precision above the limit is refused; one below zero counts as zero. -/
def Rounding.worth (limit : ℤ) (function : Rounding) (precision : ℤ) (a : ℚ) : Except Trouble ℚ :=
  if limit < precision then .error (.precisionTooLarge function precision)
  else .ok (function.onGrid precision.toNat a)

namespace Calculation

mutual

/-- What a calculation is worth when arithmetic is cut after `places` digits and no precision may
exceed `limit`. -/
def worth (places : ℕ) (limit : ℤ) : Calculation → Except Trouble ℚ
  | literal numeral => .ok numeral.worth
  | truth value => .ok (truthWorth value)
  | negate operand => do return Exact.cut places (-(← worth places limit operand))
  | not operand => do
    return truthWorth (Exact.cut places (← worth places limit operand) = 0)
  | arithmetic operator left right => do
    let a ← worth places limit left
    let b ← worth places limit right
    operator.worth places a b
  | comparison operator left right => do
    let a ← worth places limit left
    let b ← worth places limit right
    return truthWorth (operator.holds (Exact.cut places a) (Exact.cut places b))
  | connective .and left right => do
    if Exact.cut places (← worth places limit left) = 0 then return truthWorth false
    else return truthWorth (Exact.cut places (← worth places limit right) ≠ 0)
  | connective .or left right => do
    if Exact.cut places (← worth places limit left) = 0 then
      return truthWorth (Exact.cut places (← worth places limit right) ≠ 0)
    else return truthWorth true
  | choice _ condition positive negative => do
    if Exact.cut places (← worth places limit condition) = 0 then worth places limit negative
    else worth places limit positive
  | extremum function arguments => do return function.worth (← worths places limit arguments)
  | absolute operand => do return Exact.cut places |← worth places limit operand|
  | wholeNumber function operand => do return function.worth (← worth places limit operand)
  | rounding function operand => do
    function.worth limit function.defaultPrecision (← worth places limit operand)
  | roundingTo function operand precision => do
    let a ← worth places limit operand
    let precision ← worth places limit precision
    function.worth limit (Exact.towardZero precision) a

def worths (places : ℕ) (limit : ℤ) : List Calculation → Except Trouble (List ℚ)
  | [] => .ok []
  | calculation :: rest => do
    let a ← worth places limit calculation
    let others ← worths places limit rest
    return a :: others

end

end Calculation

/-! ## Refinement -/

/-- The value is the text of a numeral that is worth `a`. -/
def Denotes (value : Value) (a : ℚ) : Prop := ∃ n : Numeral, value = .text n.text ∧ n.worth = a

/-- A fault of evaluation that tells of a trouble.  A division shows the numerals of its sides. -/
inductive Reports (limit : ℤ) : Fault → Trouble → Prop where
  | divisionByZero {left right : String} {a b : ℚ} :
    Denotes (.text left) a → Denotes (.text right) b →
    Reports limit (.divisionByZero left right) (.divisionByZero a b)
  | precisionTooLarge (function : Rounding) (precision : ℤ) :
    Reports limit (.precisionTooLarge function.name precision limit)
      (.precisionTooLarge function precision)

/-- Work that leaves every journal alone and whose result or fault is what a computation over the
rationals calls for. -/
inductive Refines (limit : ℤ) {α β : Type} (Related : α → β → Prop) :
    Run α → Except Trouble β → Prop where
  | result {a : α} {b : β} : Related a b → Refines limit Related (Run.pure a) (.ok b)
  | fault {fault : Fault} {trouble : Trouble} :
    Reports limit fault trouble → Refines limit Related (Run.fail fault) (.error trouble)

theorem Refines.bind {limit : ℤ} {α β γ δ : Type} {Related : α → β → Prop} {Next : γ → δ → Prop}
    {run : Run α} {reference : Except Trouble β} {next : α → Run γ}
    {nextReference : β → Except Trouble δ} (h : Refines limit Related run reference)
    (hnext : ∀ a b, Related a b → Refines limit Next (next a) (nextReference b)) :
    Refines limit Next (run >>= next) (reference >>= nextReference) := by
  cases h with
  | result h => exact hnext _ _ h
  | fault h => exact .fault h

/-! ## Values -/

namespace Denotes

variable {value : Value} {a : ℚ}

theorem toRat_eq (h : Denotes value a) : value.toDecimal.toRat = a := by
  obtain ⟨n, rfl, rfl⟩ := h
  rw [Value.toDecimal, Decimal.ofText_numeral, Decimal.toRat_ofNumeral]

theorem numeral (n : UnsignedNumeral) : Denotes (.text n.text) n.worth := ⟨⟨false, n⟩, rfl, rfl⟩

theorem amountValue (d : Decimal) : Denotes (Surroundings.amountValue d) d.toRat := by
  obtain ⟨n, htext, hworth⟩ := d.exists_numeral_plain
  exact ⟨n, by rw [Surroundings.amountValue, htext], hworth⟩

theorem rounded (mode : RoundingMode) (places : ℕ) (value : Value) :
    Denotes (Surroundings.rounded mode places value) (value.toDecimal.round mode places).toRat :=
  ⟨(value.toDecimal.round mode places).numeral,
    by rw [Surroundings.rounded, Decimal.text_numeral], Decimal.worth_numeral _⟩

theorem truthValue (b : Bool) : Denotes (PayFormula.truthValue b) (truthWorth b) := by
  have hzero : "0" = (Decimal.ofInt 0).numeral.text := by decide +kernel
  have hone : "1" = (Decimal.ofInt 1).numeral.text := by decide +kernel
  cases b with
  | false => exact ⟨_, congrArg Value.text hzero, by simp [truthWorth]⟩
  | true => exact ⟨_, congrArg Value.text hone, by simp [truthWorth]⟩

theorem text_toText (h : Denotes value a) : Denotes (.text value.toText) a := by
  obtain ⟨n, rfl, rfl⟩ := h
  exact ⟨n, rfl, rfl⟩

theorem isZeroAt (h : Denotes value a) (places : ℕ) :
    value.toDecimal.isZeroAt places = decide (Exact.cut places a = 0) := by
  rw [Bool.eq_iff_iff, Decimal.isZeroAt_iff, h.toRat_eq, decide_eq_true_iff]

theorem isTrue (h : Denotes value a) (s : Surroundings) :
    s.isTrue value = decide (Exact.cut s.places a ≠ 0) := by
  rw [Surroundings.isTrue, h.isZeroAt, ← decide_not]

end Denotes

/-! ## Operators -/

variable {s : Surroundings} {limit : ℤ} {left right : Value} {a b : ℚ}

theorem negate_refines {run : Run Value} {reference : Except Trouble ℚ}
    (h : Refines limit Denotes run reference) :
    Refines limit Denotes (s.unaryValue .negate run)
      (reference >>= fun a ↦ .ok (Exact.cut s.places (-a))) := by
  apply h.bind
  intro value a hvalue
  apply Refines.result
  rw [← hvalue.toRat_eq, ← Decimal.toRat_negAt]
  exact .amountValue _

theorem not_refines {run : Run Value} {reference : Except Trouble ℚ}
    (h : Refines limit Denotes run reference) :
    Refines limit Denotes (s.unaryValue .not run)
      (reference >>= fun a ↦ .ok (truthWorth (Exact.cut s.places a = 0))) := by
  apply h.bind
  intro value a hvalue
  apply Refines.result
  have hzero : (!s.isTrue value) = decide (Exact.cut s.places a = 0) := by
    simp [hvalue.isTrue]
  rw [← hzero]
  exact .truthValue _

theorem arithmetic_refines (operator : Arithmetic) (hleft : Denotes left a)
    (hright : Denotes right b) :
    Refines limit Denotes (s.strictValue operator.operator left right)
      (operator.worth s.places a b) := by
  cases operator with
  | plus =>
    rw [Arithmetic.worth, ← hleft.toRat_eq, ← hright.toRat_eq, ← Decimal.toRat_addAt]
    exact .result (.amountValue _)
  | minus =>
    rw [Arithmetic.worth, ← hleft.toRat_eq, ← hright.toRat_eq, ← Decimal.toRat_subAt]
    exact .result (.amountValue _)
  | times =>
    rw [Arithmetic.worth, ← hleft.toRat_eq, ← hright.toRat_eq, ← Decimal.toRat_mulAt]
    exact .result (.amountValue _)
  | divide =>
    have hquotient := Decimal.divAt?_eq s.places left.toDecimal right.toDecimal
    rw [hleft.toRat_eq, hright.toRat_eq] at hquotient
    simp only [Arithmetic.operator, Surroundings.strictValue, Arithmetic.worth]
    by_cases hzero : Exact.cut s.places b = 0
    · rw [if_pos hzero, Option.map_eq_none_iff] at hquotient
      rw [if_pos hzero, hquotient]
      exact .fault (.divisionByZero hleft.text_toText hright.text_toText)
    · rw [if_neg hzero, Option.map_eq_some_iff] at hquotient
      obtain ⟨quotient, hquotient, hworth⟩ := hquotient
      rw [if_neg hzero, hquotient, ← hworth]
      exact .result (.amountValue quotient)

/-- The orders of two numbers under which a comparison holds. -/
def Comparison.admits : Comparison → Ordering → Bool
  | less, order => order == .lt
  | greater, order => order == .gt
  | lessEqual, order => order != .gt
  | greaterEqual, order => order != .lt
  | equal, order => order == .eq
  | notEqual, order => order != .eq

theorem Comparison.holds_eq_admits (operator : Comparison) (a b : ℚ) :
    operator.holds a b = operator.admits (compare a b) := by
  rcases lt_trichotomy a b with h | rfl | h
  · rw [compare_lt_iff_lt.2 h]
    cases operator <;> simp [holds, admits, h, h.le, h.ne, h.not_gt, h.not_ge]
  · rw [compare_eq_iff_eq.2 rfl]
    cases operator <;> simp [holds, admits]
  · rw [compare_gt_iff_gt.2 h]
    cases operator <;> simp [holds, admits, h, h.le, h.ne', h.not_gt, h.not_ge]

theorem comparison_refines (operator : Comparison) (hleft : Denotes left a)
    (hright : Denotes right b) :
    Refines limit Denotes (s.strictValue operator.operator left right)
      (.ok (truthWorth (operator.holds (Exact.cut s.places a) (Exact.cut s.places b)))) := by
  have horder := Decimal.compareAt_eq s.places left.toDecimal right.toDecimal
  rw [hleft.toRat_eq, hright.toRat_eq] at horder
  have hvalue : s.strictValue operator.operator left right =
      Run.pure (truthValue (operator.admits (left.toDecimal.compareAt s.places right.toDecimal))) := by
    cases operator <;> rfl
  rw [hvalue, horder, ← Comparison.holds_eq_admits]
  exact .result (.truthValue _)

/-- Two operands in order, and then what is done with both. -/
theorem binary_refines {operator : BinaryOperator} {leftRun rightRun : Run Value}
    {leftReference rightReference : Except Trouble ℚ} {combine : ℚ → ℚ → Except Trouble ℚ}
    (hstrict : operator ≠ .and ∧ operator ≠ .or)
    (hleft : Refines limit Denotes leftRun leftReference)
    (hright : Refines limit Denotes rightRun rightReference)
    (hcombine : ∀ {left right : Value} {a b : ℚ}, Denotes left a → Denotes right b →
      Refines limit Denotes (s.strictValue operator left right) (combine a b)) :
    Refines limit Denotes (s.binaryValue operator leftRun rightRun)
      (leftReference >>= fun a ↦ rightReference >>= fun b ↦ combine a b) := by
  have hrun : s.binaryValue operator leftRun rightRun =
      leftRun >>= fun left ↦ rightRun >>= fun right ↦ s.strictValue operator left right := by
    cases operator <;> simp_all [Surroundings.binaryValue]
  rw [hrun]
  exact hleft.bind fun _ _ hl ↦ hright.bind fun _ _ hr ↦ hcombine hl hr

theorem truth_refines {run : Run Value} {reference : Except Trouble ℚ}
    (h : Refines limit Denotes run reference) :
    Refines limit Denotes (run >>= fun value ↦ Run.pure (truthValue (s.isTrue value)))
      (reference >>= fun a ↦ .ok (truthWorth (Exact.cut s.places a ≠ 0))) := by
  apply h.bind
  intro value a hvalue
  apply Refines.result
  rw [hvalue.isTrue]
  exact .truthValue _

/-- One of two ways to go on, settled by whether a value is zero at the scale. -/
theorem branch_refines {run positive negative : Run Value}
    {reference positiveReference negativeReference : Except Trouble ℚ}
    (h : Refines limit Denotes run reference)
    (hpositive : Refines limit Denotes positive positiveReference)
    (hnegative : Refines limit Denotes negative negativeReference) :
    Refines limit Denotes (run >>= fun value ↦ if s.isTrue value then positive else negative)
      (reference >>= fun a ↦
        if Exact.cut s.places a = 0 then negativeReference else positiveReference) := by
  apply h.bind
  intro value a hvalue
  rw [hvalue.isTrue]
  by_cases hzero : Exact.cut s.places a = 0
  · simpa [hzero] using hnegative
  · simpa [hzero] using hpositive

theorem connective_refines (operator : Connective) {leftRun rightRun : Run Value}
    {leftReference rightReference : Except Trouble ℚ}
    (hleft : Refines limit Denotes leftRun leftReference)
    (hright : Refines limit Denotes rightRun rightReference) :
    Refines limit Denotes (s.binaryValue operator.operator leftRun rightRun)
      (leftReference >>= fun a ↦
        match operator with
        | .and => if Exact.cut s.places a = 0 then .ok (truthWorth false) else
            rightReference >>= fun b ↦ .ok (truthWorth (Exact.cut s.places b ≠ 0))
        | .or => if Exact.cut s.places a = 0 then
            rightReference >>= fun b ↦ .ok (truthWorth (Exact.cut s.places b ≠ 0))
          else .ok (truthWorth true)) := by
  cases operator with
  | and => exact branch_refines hleft (truth_refines hright) (.result (.truthValue false))
  | or => exact branch_refines hleft (.result (.truthValue true)) (truth_refines hright)

/-! ## Functions -/

theorem call_eq {name : String} {builtin : Builtin} {arguments : List (Run Value)} {run : Run Value}
    (hname : Builtin.ofName? name = some builtin)
    (happlied : s.applied? builtin arguments = some run) : s.call name arguments = run := by
  simp only [Surroundings.call, hname, happlied]

theorem choice_refines (name : ChoiceName) {condition positive negative : Run Value}
    {reference positiveReference negativeReference : Except Trouble ℚ}
    (hcondition : Refines limit Denotes condition reference)
    (hpositive : Refines limit Denotes positive positiveReference)
    (hnegative : Refines limit Denotes negative negativeReference) :
    Refines limit Denotes (s.call name.name [condition, positive, negative])
      (reference >>= fun a ↦
        if Exact.cut s.places a = 0 then negativeReference else positiveReference) := by
  have hname : Builtin.ofName? name.name = some .choice := by cases name <;> rfl
  rw [call_eq hname rfl]
  exact branch_refines hcondition hpositive hnegative

theorem absolute_refines {run : Run Value} {reference : Except Trouble ℚ}
    (h : Refines limit Denotes run reference) :
    Refines limit Denotes (s.call "ABS" [run])
      (reference >>= fun a ↦ .ok (Exact.cut s.places |a|)) := by
  rw [call_eq (rfl : Builtin.ofName? "ABS" = some .abs) rfl]
  apply h.bind
  intro value a hvalue
  apply Refines.result
  rw [← hvalue.toRat_eq, ← Decimal.toRat_absAt]
  exact .amountValue _

def WholeNumber.mode : WholeNumber → RoundingMode
  | floor => .floor
  | ceil => .ceil

theorem WholeNumber.toRat_round (function : WholeNumber) (d : Decimal) :
    (d.round function.mode 0).toRat = function.worth d.toRat := by
  cases function with
  | floor => simpa [mode, worth] using Decimal.toRat_round_floor 0 d
  | ceil => simpa [mode, worth] using Decimal.toRat_round_ceil 0 d

theorem wholeNumber_refines (function : WholeNumber) {run : Run Value}
    {reference : Except Trouble ℚ} (h : Refines limit Denotes run reference) :
    Refines limit Denotes (s.call function.name [run])
      (reference >>= fun a ↦ .ok (function.worth a : ℚ)) := by
  have hcall : s.call function.name [run] =
      run >>= fun value ↦ Run.pure (Surroundings.rounded function.mode 0 value) := by
    cases function with
    | floor => exact call_eq (rfl : Builtin.ofName? "FLOOR" = some .floor) rfl
    | ceil => exact call_eq (rfl : Builtin.ofName? "CEIL" = some .ceil) rfl
  rw [hcall]
  apply h.bind
  intro value a hvalue
  apply Refines.result
  rw [← hvalue.toRat_eq, ← WholeNumber.toRat_round]
  exact .rounded _ _ value

def Rounding.builtin : Rounding → Builtin
  | round => .round
  | truncate => .truncate

def Rounding.mode : Rounding → RoundingMode
  | round => .halfUp
  | truncate => .truncate

theorem Rounding.ofName?_name (function : Rounding) :
    Builtin.ofName? function.name = some function.builtin := by
  cases function <;> rfl

theorem Rounding.toRat_round (function : Rounding) (places : ℕ) (d : Decimal) :
    (d.round function.mode places).toRat = function.onGrid places d.toRat := by
  cases function with
  | round => exact Decimal.toRat_round_halfUp places d
  | truncate => exact Decimal.toRat_round_truncate places d

/-- The check of a precision and the rounding after it. -/
theorem precision_refines (function : Rounding) {value : Value} (hvalue : Denotes value a)
    (precision : Value) :
    Refines s.context.precisionLimit Denotes
      (s.checkPrecision function.name precision >>= fun places ↦
        Run.pure (Surroundings.rounded function.mode places value))
      (function.worth s.context.precisionLimit (Surroundings.wholeNumber precision) a) := by
  unfold Surroundings.checkPrecision Rounding.worth
  dsimp only
  split
  · exact .fault (.precisionTooLarge function _)
  · apply Refines.result
    rw [← hvalue.toRat_eq, ← Rounding.toRat_round]
    exact .rounded _ _ value

theorem rounding_refines (function : Rounding) {run : Run Value} {reference : Except Trouble ℚ}
    (h : Refines s.context.precisionLimit Denotes run reference) :
    Refines s.context.precisionLimit Denotes (s.call function.name [run])
      (reference >>= fun a ↦
        function.worth s.context.precisionLimit function.defaultPrecision a) := by
  cases function with
  | round =>
    rw [call_eq (Rounding.ofName?_name .round) rfl]
    exact h.bind fun value a hvalue ↦
      precision_refines .round hvalue Surroundings.defaultPrecision
  | truncate =>
    rw [call_eq (Rounding.ofName?_name .truncate) rfl]
    exact h.bind fun value a hvalue ↦
      precision_refines .truncate hvalue Surroundings.defaultCutPrecision

theorem roundingTo_refines (function : Rounding) {run precisionRun : Run Value}
    {reference precisionReference : Except Trouble ℚ}
    (h : Refines s.context.precisionLimit Denotes run reference)
    (hprecision : Refines s.context.precisionLimit Denotes precisionRun precisionReference) :
    Refines s.context.precisionLimit Denotes (s.call function.name [run, precisionRun])
      (reference >>= fun a ↦ precisionReference >>= fun precision ↦
        function.worth s.context.precisionLimit (Exact.towardZero precision) a) := by
  have hwhole {value : Value} {a : ℚ} (hvalue : Denotes value a) :
      Surroundings.wholeNumber value = Exact.towardZero a := by
    rw [Surroundings.wholeNumber, Decimal.toInt_eq, hvalue.toRat_eq]
  cases function with
  | round =>
    rw [call_eq (Rounding.ofName?_name .round) rfl]
    refine h.bind fun value a hvalue ↦ hprecision.bind fun precision p hp ↦ ?_
    rw [← hwhole hp]
    exact precision_refines .round hvalue precision
  | truncate =>
    rw [call_eq (Rounding.ofName?_name .truncate) rfl]
    refine h.bind fun value a hvalue ↦ hprecision.bind fun precision p hp ↦ ?_
    rw [← hwhole hp]
    exact precision_refines .truncate hvalue precision

/-! ## Arguments in order -/

theorem inOrder_refines {run : Run Value} {runs : List (Run Value)}
    {reference : Except Trouble ℚ} {references : Except Trouble (List ℚ)}
    (h : Refines limit Denotes run reference)
    (hrest : Refines limit (List.Forall₂ Denotes) (Surroundings.inOrder runs) references) :
    Refines limit (List.Forall₂ Denotes) (Surroundings.inOrder (run :: runs))
      (reference >>= fun a ↦ references >>= fun others ↦ .ok (a :: others)) :=
  h.bind fun _ _ hvalue ↦ hrest.bind fun _ _ hvalues ↦ .result (.cons hvalue hvalues)

theorem toRat_of_forall_denotes {values : List Value} {numbers : List ℚ}
    (h : List.Forall₂ Denotes values numbers) :
    ((values.filterMap Value.toDecimal?).map Decimal.toRat) = numbers := by
  induction h with
  | nil => rfl
  | @cons value a _ _ hvalue _ ih =>
    have hpresent : value.toDecimal? = some value.toDecimal := by
      obtain ⟨n, rfl, -⟩ := hvalue
      rfl
    rw [List.filterMap_cons_some hpresent, List.map_cons, ih, hvalue.toRat_eq]

def Extremum.pick : Extremum → List Decimal → Value
  | _, [] => .text "0"
  | least, first :: rest => Surroundings.amountValue (Decimal.least first rest)
  | greatest, first :: rest => Surroundings.amountValue (Decimal.greatest first rest)

theorem Extremum.denotes_pick (function : Extremum) (numbers : List Decimal) :
    Denotes (function.pick numbers) (function.worth (numbers.map Decimal.toRat)) := by
  rcases numbers with _ | ⟨first, rest⟩
  · cases function <;> exact .truthValue false
  · cases function with
    | least =>
      rw [List.map_cons, worth, ← Decimal.toRat_least]
      exact .amountValue _
    | greatest =>
      rw [List.map_cons, worth, ← Decimal.toRat_greatest]
      exact .amountValue _

theorem extremum_refines (function : Extremum) {runs : List (Run Value)}
    {references : Except Trouble (List ℚ)}
    (h : Refines limit (List.Forall₂ Denotes) (Surroundings.inOrder runs) references) :
    Refines limit Denotes (s.call function.name runs)
      (references >>= fun numbers ↦ .ok (function.worth numbers)) := by
  have hcall : s.call function.name runs = Surroundings.inOrder runs >>= fun values ↦
      Run.pure (function.pick (values.filterMap Value.toDecimal?)) := by
    cases function with
    | least =>
      rw [call_eq (rfl : Builtin.ofName? Extremum.least.name = some .min) rfl]
      congr 1
      funext values
      cases values.filterMap Value.toDecimal? <;> rfl
    | greatest =>
      rw [call_eq (rfl : Builtin.ofName? Extremum.greatest.name = some .max) rfl]
      congr 1
      funext values
      cases values.filterMap Value.toDecimal? <;> rfl
  rw [hcall]
  apply h.bind
  intro values numbers hvalues
  apply Refines.result
  rw [← toRat_of_forall_denotes hvalues]
  exact function.denotes_pick _

/-! ## Whole calculations -/

namespace Calculation

mutual

theorem eval_formula_refines (s : Surroundings) : (calculation : Calculation) →
    Refines s.context.precisionLimit Denotes (calculation.formula.eval s)
      (calculation.worth s.places s.context.precisionLimit)
  | literal numeral => .result (.numeral numeral)
  | truth value => .result (.truthValue value)
  | negate operand => negate_refines (eval_formula_refines s operand)
  | not operand => not_refines (eval_formula_refines s operand)
  | arithmetic operator left right =>
    binary_refines (by cases operator <;> simp [Arithmetic.operator])
      (eval_formula_refines s left) (eval_formula_refines s right) (arithmetic_refines operator)
  | comparison operator left right =>
    binary_refines (by cases operator <;> simp [Comparison.operator])
      (eval_formula_refines s left) (eval_formula_refines s right) (comparison_refines operator)
  | connective .and left right =>
    connective_refines .and (eval_formula_refines s left) (eval_formula_refines s right)
  | connective .or left right =>
    connective_refines .or (eval_formula_refines s left) (eval_formula_refines s right)
  | choice name condition positive negative =>
    choice_refines name (eval_formula_refines s condition) (eval_formula_refines s positive)
      (eval_formula_refines s negative)
  | extremum function arguments => extremum_refines function (evalEach_formulas_refines s arguments)
  | absolute operand => absolute_refines (eval_formula_refines s operand)
  | wholeNumber function operand => wholeNumber_refines function (eval_formula_refines s operand)
  | rounding function operand => rounding_refines function (eval_formula_refines s operand)
  | roundingTo function operand precision =>
    roundingTo_refines function (eval_formula_refines s operand) (eval_formula_refines s precision)

theorem evalEach_formulas_refines (s : Surroundings) : (calculations : List Calculation) →
    Refines s.context.precisionLimit (List.Forall₂ Denotes)
      (Surroundings.inOrder (Formula.evalEach s (formulas calculations)))
      (worths s.places s.context.precisionLimit calculations)
  | [] => .result .nil
  | calculation :: rest =>
    inOrder_refines (eval_formula_refines s calculation) (evalEach_formulas_refines s rest)

end

/-- Evaluation answers every calculation as the rationals do, whatever the journal, and without an
event: with a numeral of the same worth, with the operands of the division whose divisor is cut to
zero, or with the precision that is above the limit, be it given or the one that counts where none
is given. -/
theorem eval_formula_agrees (s : Surroundings) (calculation : Calculation) :
    match calculation.worth s.places s.context.precisionLimit with
    | .ok a => ∃ n : Numeral,
      calculation.formula.eval s = Run.pure (.text n.text) ∧ n.worth = a
    | .error (.divisionByZero a b) => ∃ left right : Numeral,
      calculation.formula.eval s = Run.fail (.divisionByZero left.text right.text) ∧
        left.worth = a ∧ right.worth = b
    | .error (.precisionTooLarge function precision) =>
      calculation.formula.eval s =
        Run.fail (.precisionTooLarge function.name precision s.context.precisionLimit) := by
  have hrefines := eval_formula_refines s calculation
  generalize calculation.formula.eval s = run at hrefines
  generalize calculation.worth s.places s.context.precisionLimit = reference at hrefines
  cases hrefines with
  | result hdenotes =>
    obtain ⟨n, rfl, hworth⟩ := hdenotes
    exact ⟨n, rfl, hworth⟩
  | fault hreports =>
    cases hreports with
    | divisionByZero hleft hright =>
      obtain ⟨left, htext, hleftWorth⟩ := hleft
      obtain ⟨right, htext', hrightWorth⟩ := hright
      obtain rfl := Value.text.inj htext
      obtain rfl := Value.text.inj htext'
      exact ⟨left, right, rfl, hleftWorth, hrightWorth⟩
    | precisionTooLarge function precision => exact rfl

/-- The limit applies to a precision that no argument gives: `ROUND(1)` is refused under a limit of
one. -/
theorem round_refused_without_precision :
    let one : UnsignedNumeral := ⟨['1'], none, List.forall_mem_singleton.2 rfl, by simp, by simp⟩
    let s : Surroundings := { context := { precisionLimit := 1 } }
    ((rounding .round (.literal one)).formula.eval s).outcome =
      .error (.precisionTooLarge "ROUND" 2 1) := by
  intro one s
  rw [formula, Formula.eval, call_eq (Rounding.ofName?_name .round) rfl]
  rfl

end Calculation

end PayFormula
