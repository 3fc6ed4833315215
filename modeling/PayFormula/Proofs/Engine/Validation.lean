import Mathlib
import PayFormula.Proofs.Engine.History

/-!
# Validation Predicts Evaluation

Validating and evaluating read a formula in the same way, and nothing happens before it is read.  So
what validation refuses, evaluation refuses for the same reason and without a trace, whatever it is
given besides.  What validation accepts, evaluation runs as it was read: a fault of reading can then
come from a collaborator only.  And what validation reports as a dependency is the name of a node of
the formula.
-/

namespace PayFormula

/-! ## Reading -/

namespace Engine

/-- The formula that a source spells, or why it spells none. -/
def read (settings : Settings) (source : Value) : Except Fault Formula :=
  Source.tokens source >>= Source.formula settings.depthCap settings.isStrict

theorem read_eq_of_tokens {settings : Settings} {source : Value} {tokens : Source.Tokens}
    (h : Source.tokens source = .ok tokens) :
    read settings source = Source.formula settings.depthCap settings.isStrict tokens := by
  rw [read, h]
  rfl

theorem outcome_validate (settings : Settings) (source : Value) :
    (PayFormula.validate settings source).report.outcome = read settings source := by
  rw [PayFormula.validate, validate, parse_eq]
  rfl

variable {today : Date} {settings : Settings} {context : Value} {options : Options}
  {s : Surroundings}

/-- Once the surroundings stand, a run reads the formula and evaluates it. -/
theorem run_eq_read_bind (source : Value)
    (hs : surroundings today settings context options = .ok s) :
    run today settings source context options =
      Run.ofExcept (read settings source) >>= fun formula ↦ formula.eval s := by
  rw [run, hs, read]
  cases Source.tokens source <;> rfl

/-- What a run leaves behind is what a fresh engine reports. -/
theorem evaluate_reports_run (today : Date) (settings : Settings) (source context : Value)
    (options : Options) :
    let run := run today settings source context options
    let seen := PayFormula.evaluate today settings source context options
    seen.report.outcome = run.outcome ∧ seen.report.trace = run.journal.trace ∧
      seen.report.ledger = run.journal.ledger ∧ seen.inquiries = run.journal.inquiries :=
  ⟨rfl, rfl, rfl, rfl⟩

/-- A formula that is not read fails as reading does, before anything happens. -/
theorem evaluate_of_read_eq_error {source : Value} {fault : Fault}
    (hs : surroundings today settings context options = .ok s)
    (hread : read settings source = .error fault) :
    let seen := PayFormula.evaluate today settings source context options
    seen.report.outcome = .error fault ∧ seen.report.trace = [] ∧ seen.report.ledger = [] ∧
      seen.inquiries = [] := by
  obtain ⟨houtcome, htrace, hledger, hinquiries⟩ :=
    evaluate_reports_run today settings source context options
  have hrun : run today settings source context options = Run.ofExcept (.error fault) := by
    rw [run_eq_read_bind source hs, hread]
    rfl
  rw [hrun] at houtcome htrace hledger hinquiries
  exact ⟨houtcome, htrace, hledger, hinquiries⟩

/-- A formula that is read is evaluated as it was read. -/
theorem evaluate_of_read_eq_ok {source : Value} {formula : Formula}
    (hs : surroundings today settings context options = .ok s)
    (hread : read settings source = .ok formula) :
    let run := formula.eval s
    let seen := PayFormula.evaluate today settings source context options
    seen.report.outcome = run.outcome ∧ seen.report.trace = run.journal.trace ∧
      seen.report.ledger = run.journal.ledger ∧ seen.inquiries = run.journal.inquiries := by
  obtain ⟨houtcome, htrace, hledger, hinquiries⟩ :=
    evaluate_reports_run today settings source context options
  have hrun : run today settings source context options = formula.eval s := by
    rw [run_eq_read_bind source hs, hread]
    rfl
  rw [hrun] at houtcome htrace hledger hinquiries
  exact ⟨houtcome, htrace, hledger, hinquiries⟩

end Engine

/-! ## Faults of reading -/

namespace Formula

/-- Evaluation never complains of a text, unless that is the answer to its last inquiry. -/
theorem failLast_of_badSyntax {s : Surroundings} {formula : Formula} {cause : SyntaxFault}
    (h : (formula.eval s).outcome = .error (.badSyntax cause)) :
    s.sources.collaborators.FailLast [] (formula.eval s).events (.badSyntax cause) :=
  ((eval_shows formula (permits_noReading s formula)).fault h).resolve_left Bool.noConfusion

end Formula

/-! ## Reported names -/

/-- Every key that is reported is the name of a node that occurs in the formula: of a variable, of
the literal that a keyed call names, or the mark of a keyed call that names none. -/
structure Dependencies.NameNodesOf (d : Dependencies) (formula : Formula) : Prop where
  variableKey : ∀ key ∈ d.variableKeys,
    ∃ path, (Formula.variable path).Occurs formula ∧ variableKey path = key
  keyed : ∀ kind, ∀ key ∈ d.keys kind,
    ∃ first rest, (Formula.call kind.name (first :: rest)).Occurs formula ∧
      ((∃ literal, first = .text literal ∧ literal.toText = key) ∨
        (∀ literal, first ≠ .text literal) ∧ key = Formula.dynamicKey)
  concepts : d.concepts = []

theorem Dependencies.nameNodesOf (formula : Formula) :
    (ofFormula formula).NameNodesOf formula where
  variableKey key hkey := by
    obtain ⟨path, hnode, hname⟩ := mem_variableKeys_iff.1 hkey
    exact ⟨path, Formula.mem_nodes_iff_occurs.1 hnode, hname⟩
  keyed kind key hkey := by
    obtain ⟨first, rest, hnode, hname⟩ := mem_keys_iff.1 hkey
    exact ⟨first, rest, Formula.mem_nodes_iff_occurs.1 hnode, Formula.keyOf_eq_iff.1 hname⟩
  concepts := rfl

/-! ## Validation and evaluation -/

/-- Where the context and the sources of an evaluation can be built, validation tells beforehand
whether the formula is read.  If it is not, evaluation fails with the same fault, shown under the
same message and code, and nothing has happened.  If it is, evaluation is the run of the formula
that validation reports, with its outcome, its trace, its ledger and its inquiries, and each
dependency names a node of that formula. -/
theorem validate_predicts_evaluate {today : Date} {settings : Settings} {context : Value}
    {options : Options} {s : Surroundings}
    (hs : Engine.surroundings today settings context options = .ok s) (source : Value) :
    let validated := (validate settings source).report
    let evaluated := evaluate today settings source context options
    (∀ fault, validated.outcome = .error fault →
      evaluated.report.outcome = .error fault ∧
      (∀ key ∈ ["error", "error_code"],
        evaluated.report.toValue.field key = validated.toValue.field key) ∧
      evaluated.report.trace = [] ∧ evaluated.report.ledger = [] ∧ evaluated.inquiries = []) ∧
    ∀ formula, validated.outcome = .ok formula →
      let run := formula.eval s
      evaluated.report.outcome = run.outcome ∧
      evaluated.report.trace = run.journal.trace ∧
      evaluated.report.ledger = run.journal.ledger ∧
      evaluated.inquiries = run.journal.inquiries ∧
      (∀ cause, evaluated.report.outcome = .error (.badSyntax cause) →
        ∃ earlier inquiry, evaluated.inquiries = earlier ++ [inquiry] ∧
          s.sources.collaborators.FailWith earlier inquiry (.badSyntax cause)) ∧
      (Dependencies.ofFormula formula).NameNodesOf formula := by
  intro validated evaluated
  have hread : validated.outcome = Engine.read settings source :=
    Engine.outcome_validate settings source
  constructor
  · intro fault hfault
    obtain ⟨houtcome, hnothing⟩ :=
      Engine.evaluate_of_read_eq_error hs (hread.symm.trans hfault)
    refine ⟨houtcome, ?_, hnothing⟩
    intro key hkey
    rw [EvaluationReport.toValue, ValidationReport.toValue, houtcome, hfault]
    fin_cases hkey <;> rfl
  · intro formula hformula
    obtain ⟨houtcome, htrace, hledger, hinquiries⟩ :=
      Engine.evaluate_of_read_eq_ok hs (hread.symm.trans hformula)
    refine ⟨houtcome, htrace, hledger, hinquiries, ?_, Dependencies.nameNodesOf formula⟩
    intro cause hcause
    rw [hinquiries]
    exact Formula.failLast_of_badSyntax (houtcome.symm.trans hcause)

/-- One formula that breaks off and one that asks a collaborator, which complains of a text. -/
theorem validate_predicts_evaluate_broken_rate :
    let cause : SyntaxFault := .unexpectedCharacter '?' 3
    let collaborators : Collaborators := { parameters? := some fun _ _ ↦ .error (.badSyntax cause) }
    let context : Value := .map [(.text "concepts", .map [(.text "Base", .int 100)]),
      (.text "date", .text "2026-01-31")]
    let s : Surroundings := {
      context := { concepts := [(.text "base", .int 100)], date := "2026-01-31" }
      sources := { collaborators } }
    let broken : Fault := .badSyntax (.unexpectedToken ⟨.finish, 7⟩)
    let formula : Formula :=
      .binary .times (.variable ["BASE"]) (.call "PARAM" [.text (.text "rate")])
    let refused := evaluate default {} (.text "base * ") context { collaborators }
    let asking := evaluate default {} (.text "base * param('rate')") context { collaborators }
    Engine.surroundings default {} context { collaborators } = .ok s ∧
    ((validate {} (.text "base * ")).report.outcome = .error broken ∧
      refused.report.outcome = .error broken ∧ refused.report.trace = []) ∧
    ((validate {} (.text "base * param('rate')")).report.outcome = .ok formula ∧
      asking.report.outcome = .error (.badSyntax cause) ∧
      asking.inquiries = [.parameter (.text "rate") (.text "2026-01-31")] ∧
      (∃ earlier inquiry, asking.inquiries = earlier ++ [inquiry] ∧
        collaborators.FailWith earlier inquiry (.badSyntax cause)) ∧
      (Dependencies.ofFormula formula).NameNodesOf formula) := by
  intro cause collaborators context s broken formula refused asking
  have hs : Engine.surroundings default {} context { collaborators } = .ok s := rfl
  have hrefused : (validate {} (.text "base * ")).report.outcome = .error broken := by
    rw [Engine.outcome_validate, Engine.read_eq_of_tokens rfl]
    rfl
  have haccepted : (validate {} (.text "base * param('rate')")).report.outcome = .ok formula := by
    rw [Engine.outcome_validate, Engine.read_eq_of_tokens rfl]
    rfl
  have hbroken := (validate_predicts_evaluate hs (.text "base * ")).1 broken hrefused
  have hread := (validate_predicts_evaluate hs (.text "base * param('rate')")).2 formula haccepted
  have hcomplains : (formula.eval s).outcome = .error (.badSyntax cause) := rfl
  have hinquiries : (formula.eval s).journal.inquiries =
      [.parameter (.text "rate") (.text "2026-01-31")] := rfl
  dsimp only at hread
  rw [hcomplains, hinquiries] at hread
  obtain ⟨houtcome, -, -, hasked, hcause, hnames⟩ := hread
  -- spelled out, it is compared as it stands and not computed
  unfold asking
  exact ⟨hs, ⟨hrefused, hbroken.1, hbroken.2.2.1⟩, haccepted, houtcome, hasked,
    hcause cause houtcome, hnames⟩

end PayFormula
