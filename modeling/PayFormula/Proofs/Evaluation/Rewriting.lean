import Mathlib
import PayFormula.Proofs.Evaluation.ZeroGuard

/-!
# Rewriting Conditions

`NOT`, `AND`, `OR` and the comparisons give one or zero, and where a condition stands only its truth
counts.  So a condition is worked out like a truth value, and laws of truth values carry over to
formulas: not only do both sides of a law have the same value, they also work out the same parts in
the same order and leave out the same ones.  A law may therefore be used anywhere in a formula, as
often as wanted and in both directions, and nothing of a run shows it.
-/

namespace PayFormula

/-! ## Truth values -/

/-- The other connective. -/
def Connective.dual : Connective → Connective
  | and => or
  | or => and

/-- The truth of the left side with which the right side is left out. -/
def Connective.settling : Connective → Bool
  | and => false
  | or => true

theorem Connective.settling_dual (operator : Connective) :
    operator.dual.settling = !operator.settling := by
  cases operator <;> rfl

/-- The comparison that holds where the given one does not. -/
def Comparison.complement : Comparison → Comparison
  | less => greaterEqual
  | greater => lessEqual
  | lessEqual => greater
  | greaterEqual => less
  | equal => notEqual
  | notEqual => equal

theorem Comparison.admits_complement (operator : Comparison) (order : Ordering) :
    operator.complement.admits order = !operator.admits order := by
  cases operator <;> cases order <;> rfl

namespace Run

/-- The left side, and then the right one unless the left one came out as the settling truth. -/
def connect (settling : Bool) (left right : Run Bool) : Run Bool := do
  let b ← left
  if b = settling then return b else right

variable (settling : Bool) (left middle right : Run Bool)

theorem not_connect :
    not <$> connect settling left right = connect (!settling) (not <$> left) (not <$> right) := by
  unfold connect
  rw [map_bind, bind_map_left]
  congr 1
  funext b
  cases b <;> cases settling <;> rfl

theorem connect_assoc :
    connect settling (connect settling left middle) right =
      connect settling left (connect settling middle right) := by
  unfold connect
  rw [Run.bind_assoc]
  congr 1
  funext b
  by_cases h : b = settling
  · rw [if_pos h, if_pos h, pure_bind, if_pos h]
  · rw [if_neg h, if_neg h]

end Run

/-! ## Conditions -/

namespace Formula

variable (s : Surroundings) (condition left right positive negative : Formula)

/-- A formula that is asked for its truth only. -/
def truthRun : Run Bool := s.isTrue <$> condition.eval s

theorem eval_not :
    (unary .not condition).eval s = truthValue <$> (not <$> condition.truthRun s) := by
  rw [truthRun, Functor.map_map, Functor.map_map]
  rfl

theorem map_truthRun : truthValue <$> condition.truthRun s =
    condition.eval s >>= fun value ↦ return truthValue (s.isTrue value) := by
  rw [truthRun, Functor.map_map]
  rfl

theorem eval_connective (operator : Connective) :
    (binary operator.operator left right).eval s =
      truthValue <$> Run.connect operator.settling (left.truthRun s) (right.truthRun s) := by
  rw [Run.connect, truthRun, truthRun, map_bind, bind_map_left]
  cases operator with
  | and =>
    change left.eval s >>= _ = _
    congr 1
    funext value
    cases s.isTrue value
    · rfl
    · exact (map_truthRun s right).symm
  | or =>
    change left.eval s >>= _ = _
    congr 1
    funext value
    cases s.isTrue value
    · exact (map_truthRun s right).symm
    · rfl

theorem eval_comparison_truth (operator : Comparison) :
    (binary operator.operator left right).eval s =
      truthValue <$> (left.eval s >>= fun l ↦ right.eval s >>= fun r ↦
        pure (operator.admits (Amount.order (some s.context.scale) l r))) := by
  rw [eval_comparison]
  simp only [map_bind]
  rfl

theorem eval_choice_truthRun (name : ChoiceName) :
    (call name.name [condition, positive, negative]).eval s =
      condition.truthRun s >>= fun b ↦ if b then positive.eval s else negative.eval s := by
  have hname : name.name = "IF" ∨ name.name = "IIF" := by cases name <;> decide
  rw [eval_choice hname, truthRun, bind_map_left]

variable {s condition}

/-- What gives a truth value is asked for that truth. -/
theorem truthRun_eq {run : Run Bool} (h : condition.eval s = truthValue <$> run) :
    condition.truthRun s = run := by
  have hback : s.isTrue ∘ truthValue = id := funext Surroundings.isTrue_truthValue
  rw [truthRun, h, ← comp_map, hback, Run.id_map]

variable (s condition)

theorem truthRun_not : (unary .not condition).truthRun s = not <$> condition.truthRun s :=
  truthRun_eq (eval_not s condition)

theorem truthRun_connective (operator : Connective) :
    (binary operator.operator left right).truthRun s =
      Run.connect operator.settling (left.truthRun s) (right.truthRun s) :=
  truthRun_eq (eval_connective s left right operator)

/-! ## Laws -/

/-- The two sides of a law of truth values, with any formulas as its parts. -/
inductive Law : Formula → Formula → Prop where
  /-- `NOT (a AND b)` and `NOT a OR NOT b`, and the same with the connectives exchanged. -/
  | negatedConnective (operator : Connective) (a b : Formula) :
    Law (unary .not (binary operator.operator a b))
      (binary operator.dual.operator (unary .not a) (unary .not b))
  /-- `(a AND b) AND c` and `a AND (b AND c)`, and the same with `OR`. -/
  | regrouped (operator : Connective) (a b c : Formula) :
    Law (binary operator.operator (binary operator.operator a b) c)
      (binary operator.operator a (binary operator.operator b c))
  /-- `NOT (a < b)` and `a >= b`, and so with the other comparisons. -/
  | negatedComparison (operator : Comparison) (a b : Formula) :
    Law (unary .not (binary operator.operator a b)) (binary operator.complement.operator a b)
  /-- `IF(NOT a, b, c)` and `IF(a, c, b)`. -/
  | negatedChoice (name : ChoiceName) (a b c : Formula) :
    Law (call name.name [unary .not a, b, c]) (call name.name [a, c, b])
  /-- `a AND b` and `IF(a, NOT NOT b, 0)`. -/
  | chosenConjunction (name : ChoiceName) (a b : Formula) :
    Law (binary .and a b) (call name.name [a, unary .not (unary .not b), zero])

theorem Law.eval_eq {f g : Formula} (h : Law f g) (s : Surroundings) : f.eval s = g.eval s := by
  cases h with
  | negatedConnective operator a b =>
    rw [eval_not, eval_connective, truthRun_connective, truthRun_not, truthRun_not,
      Run.not_connect, Connective.settling_dual]
  | regrouped operator a b c =>
    rw [eval_connective, eval_connective, truthRun_connective, truthRun_connective,
      Run.connect_assoc]
  | negatedComparison operator a b =>
    rw [eval_not, truthRun_eq (eval_comparison_truth s a b operator),
      eval_comparison_truth]
    simp only [map_bind, map_pure, Comparison.admits_complement]
  | negatedChoice name a b c =>
    rw [eval_choice_truthRun, eval_choice_truthRun, truthRun_not, bind_map_left]
    congr 1
    funext truth
    cases truth <;> rfl
  | chosenConjunction name a b =>
    have hconjunction := eval_connective s a b .and
    rw [Run.connect, map_bind] at hconjunction
    have htwice : truthValue <$> not <$> not <$> b.truthRun s = truthValue <$> b.truthRun s := by
      simp only [Functor.map_map, Bool.not_not]
    rw [eval_choice_truthRun, eval_not, truthRun_not, htwice]
    refine hconjunction.trans ?_
    congr 1
    funext truth
    cases truth <;> rfl

/-- One use of a law at some place of a formula. -/
def RewritesOnce (f g : Formula) : Prop :=
  ∃ (hole : Hole) (left right : Formula), Law left right ∧ f = hole.fill left ∧ g = hole.fill right

/-- Any number of uses of laws, each in either direction. -/
def Rewrites : Formula → Formula → Prop := Relation.EqvGen RewritesOnce

theorem Rewrites.eval_eq {f g : Formula} (h : Rewrites f g) (s : Surroundings) :
    f.eval s = g.eval s := by
  induction h with
  | rel f g honce =>
    obtain ⟨hole, left, right, hlaw, rfl, rfl⟩ := honce
    exact hole.eval_fill_congr (hlaw.eval_eq s)
  | refl f => rfl
  | symm f g _ ih => exact ih.symm
  | trans f g k _ _ ihleft ihright => exact ihleft.trans ihright

theorem Law.rewrites {f g : Formula} (h : Law f g) (hole : Hole) :
    Rewrites (hole.fill f) (hole.fill g) :=
  .rel _ _ ⟨hole, f, g, h, rfl, rfl⟩

end Formula

/-- The work on a source is the run of the formula that it reads as, once there are surroundings. -/
theorem Engine.Reads.run_eq_bind {settings : Settings} {source : Value} {formula : Formula}
    (hread : Reads settings source formula) (today : Date) (context : Value) (options : Options) :
    run today settings source context options =
      Run.ofExcept (surroundings today settings context options) >>= formula.eval := by
  cases hs : surroundings today settings context options with
  | error fault =>
    rw [run, hs]
    rfl
  | ok s => exact hread.run_eq hs

/-- The two sides of a law give the same value or fault, after the same events: the same lines of
the trace, entries of the ledger and inquiries in the same order.  So do any two formulas that laws
carry into each other, and an engine reports the same of them. -/
theorem laws_of_truth_preserve_runs :
    (∀ f g : Formula, f.Law g → ∀ s : Surroundings, f.eval s = g.eval s) ∧
    ∀ f g : Formula, f.Rewrites g →
      (∀ s : Surroundings, f.eval s = g.eval s) ∧
      ∀ (engine : Engine) today settings source₁ source₂ context options,
        Engine.Reads settings source₁ f → Engine.Reads settings source₂ g →
        (engine.evaluate today settings source₁ context options).2.SameRun
          (engine.evaluate today settings source₂ context options).2 := by
  refine ⟨fun f g h s ↦ h.eval_eq s, fun f g h ↦ ⟨h.eval_eq, ?_⟩⟩
  intro engine today settings source₁ source₂ context options hread₁ hread₂
  have heval : f.eval = g.eval := funext h.eval_eq
  apply Engine.sameRun_of_run_eq
  rw [hread₁.run_eq_bind, hread₂.run_eq_bind, heval]

/-- Two laws, one inside the other: the parameter is asked for on both sides, after the same
variable. -/
theorem laws_of_truth_preserve_runs_rate :
    let x : Formula := .variable ["X"]
    let two : Formula := .number (.text "2")
    let rate : Formula := .call "PARAM" [.text (.text "rate")]
    let hole : Formula.Hole := .rightSide .plus (.number (.text "1")) .here
    let f : Formula := .unary .not (.binary .and (.binary .less x two) rate)
    let f' : Formula := .binary .or (.unary .not (.binary .less x two)) (.unary .not rate)
    let g : Formula := .binary .or (.binary .greaterEqual x two) (.unary .not rate)
    let collaborators : Collaborators := { parameters? := some fun _ _ ↦ .ok (.text "0") }
    let s : Surroundings := {
      context := { concepts := [(.text "x", .int 1)], date := "2026-01-31" }
      sources := { collaborators } }
    let context : Value := .map [(.text "concepts", .map [(.text "x", .int 1)]),
      (.text "date", .text "2026-01-31")]
    let source₁ : Value := .text "1 + NOT (x < 2 AND PARAM('rate'))"
    let source₂ : Value := .text "1 + (x >= 2 || !PARAM('rate'))"
    f.Law f' ∧ f.eval s = f'.eval s ∧
      (hole.fill f).Rewrites (hole.fill g) ∧ (hole.fill f).eval s = (hole.fill g).eval s ∧
      ((hole.fill g).eval s).journal.trace = ["VAR[x] = 1", "PARAM[rate, 2026-01-31] = 0"] ∧
      Engine.Reads {} source₁ (hole.fill f) ∧ Engine.Reads {} source₂ (hole.fill g) ∧
      (({} : Engine).evaluate default {} source₁ context { collaborators }).2.SameRun
        (({} : Engine).evaluate default {} source₂ context { collaborators }).2 := by
  intro x two rate hole f f' g collaborators s context source₁ source₂
  have hlaw : f.Law f' := .negatedConnective .and (.binary .less x two) rate
  have hinner : (hole.fill f').Rewrites (hole.fill g) :=
    (Formula.Law.negatedComparison .less x two).rewrites
      (.rightSide .plus (.number (.text "1")) (.leftSide .or .here (.unary .not rate)))
  have hrewrites : (hole.fill f).Rewrites (hole.fill g) :=
    .trans _ _ _ (hlaw.rewrites hole) hinner
  have hread₁ : Engine.Reads {} source₁ (hole.fill f) := ⟨_, rfl, rfl⟩
  have hread₂ : Engine.Reads {} source₂ (hole.fill g) := ⟨_, rfl, rfl⟩
  obtain ⟨hlaws, hall⟩ := laws_of_truth_preserve_runs
  obtain ⟨hrun, hreport⟩ := hall _ _ hrewrites
  exact ⟨hlaw, hlaws f f' hlaw s, hrewrites, hrun s, by decide +kernel, hread₁, hread₂,
    hreport {} default {} source₁ source₂ context { collaborators } hread₁ hread₂⟩

end PayFormula
