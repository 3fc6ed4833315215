import Mathlib
import PayFormula.Proofs.Engine.Validation
import PayFormula.Proofs.Evaluation.Comparison
import PayFormula.Proofs.Formula.Identifiers

/-!
# Identifiers and Their Bindings

A caller binds an identifier by its text, as a variable or a concept, and a path of identifiers by
nested mappings.  The keys of a caller are put in lower case as they are, while a name in a formula
is put in upper case first and in lower case when it is looked up.  So an identifier finds the value
that is bound to its text exactly when both ways lead to the same lower case.  They do for texts
without blanks whose characters keep their case; they do not for a sharp s.
-/

namespace PayFormula

/-! ## Nested mappings -/

/-- A value under nested keys. -/
def nested : List String → Value → Value
  | [], value => value
  | key :: keys, value => .map [(.text key, nested keys value)]

theorem lowerKeys_nested (keys : List String) (v : String) :
    Context.lowerKeys (nested keys (.text v)) = nested (keys.map Text.lower) (.text v) := by
  induction keys with
  | nil => rfl
  | cons key keys ih =>
    rw [nested, List.map_cons, nested, ← ih]
    rfl

theorem isNull_nested (keys : List String) (v : String) :
    (nested keys (.text v)).isNull = false := by
  cases keys <;> rfl

theorem lookup_singleton (key name : String) (value : Value) :
    Value.lookup name [(.text key, value)] = if key = name then value else .null := by
  have hsame : ((Value.text key == Value.text name) = true) = (key = name) := by
    change (Value.same (.text key) (.text name) = true) = _
    rw [Value.same, beq_iff_eq]
  rw [Value.lookup, Value.valueAt?, Table.get?, List.find?_cons]
  split
  · next h => rw [if_pos (hsame ▸ h)]; rfl
  · next h => rw [if_neg (hsame ▸ Bool.not_eq_true _ ▸ h)]; rfl

/-- A path leads through nested mappings when its segments have the keys for their lower case. -/
theorem follow_nested {keys path : List String} (hlength : keys.length = path.length) (v : String) :
    Context.follow (nested keys (.text v)) path =
      if keys = path.map Text.lower then some (.text v) else none := by
  induction keys generalizing path with
  | nil =>
    obtain rfl := List.length_eq_zero_iff.1 hlength.symm
    rfl
  | cons key keys ih =>
    rcases path with _ | ⟨segment, path⟩
    · exact absurd hlength (Nat.succ_ne_zero _)
    · have hih := ih (show keys.length = path.length from Nat.succ.inj hlength)
      rw [nested, Context.follow]
      simp only [lookup_singleton]
      by_cases hkey : key = Text.lower segment
      · rw [if_pos hkey, isNull_nested, if_neg Bool.false_ne_true, hih]
        simp [hkey]
      · rw [if_neg hkey]
        simp [hkey, Value.isNull]

/-! ## Variables -/

namespace Formula

variable {s : Surroundings} {path : List String}

theorem outcome_variable_of_concept {v : String}
    (h : Value.lookup (variableKey path) s.context.concepts = .text v) :
    ((Formula.variable path).eval s).outcome = .ok (.text v) := by
  rw [eval, Surroundings.variableValue, h]
  rfl

theorem outcome_variable_of_follow {v : String}
    (hconcept : Value.lookup (variableKey path) s.context.concepts = .null)
    (h : Context.follow s.context.bindings path = some (.text v)) :
    ((Formula.variable path).eval s).outcome = .ok (.text v) := by
  rw [eval, Surroundings.variableValue, hconcept, h]
  rfl

theorem outcome_variable_of_missing
    (hconcept : Value.lookup (variableKey path) s.context.concepts = .null)
    (h : Context.follow s.context.bindings path = none) :
    ((Formula.variable path).eval s).outcome = .error (.undefinedVariable (variableKey path)) := by
  rw [eval, Surroundings.variableValue, hconcept, h]
  rfl

end Formula

/-! ## Evaluations -/

namespace Engine

theorem surroundings_variables (today : Date) (key : String) (keys : List String) (v : String) :
    surroundings today {}
        (.record [("variables", nested (key :: keys) (.text v))]) {} =
      .ok { context := {
        bindings := nested ((key :: keys).map Text.lower) (.text v)
        date := today.iso } } := by
  rw [← lowerKeys_nested]
  rfl

theorem surroundings_concepts (today : Date) (key v : String) :
    surroundings today {} (.record [("concepts", .map [(.text key, .text v)])]) {} =
      .ok { context := {
        concepts := [(.text (Text.lower key), .text v)]
        date := today.iso } } :=
  rfl

theorem read_path {text name : String} {texts names : List String} (h : IsIdentifier text name)
    (hothers : List.Forall₂ IsIdentifier texts names) :
    read {} (.text (".".intercalate (text :: texts))) = .ok (.variable (name :: names)) := by
  have hcap : DepthCap.ofValue ({} : Settings).depthCap = .ok ⟨some 128, "128"⟩ := rfl
  have hlevels : (⟨some 128, "128"⟩ : DepthCap).levels? ≠ some 0 := by simp
  obtain ⟨tokens, htokens, hparse⟩ :=
    exists_parse_path h hothers hlevels ({} : Settings).isStrict
  have hsource : Source.tokens (.text (".".intercalate (text :: texts))) = .ok (.ofText tokens) := by
    rw [Source.tokens, Source.textTokens, htokens]
  rw [read_eq_of_tokens hsource, Source.formula, hcap]
  change (PayFormula.parse _ _ _).mapError Fault.badSyntax = _
  rw [hparse]
  rfl

end Engine

/-- The evaluation of a path of identifiers against nested mappings with their texts as keys gives
the value when each identifier keeps its lower case, and no variable is found otherwise. -/
theorem evaluate_path {text name : String} {texts names : List String} (h : IsIdentifier text name)
    (hothers : List.Forall₂ IsIdentifier texts names) (today : Date) (v : String) :
    (evaluate today {} (.text (".".intercalate (text :: texts)))
        (.record [("variables", nested (text :: texts) (.text v))]) {}).report.outcome =
      if (text :: texts).map Text.lower = (name :: names).map Text.lower then .ok (.text v)
      else .error (.undefinedVariable (variableKey (name :: names))) := by
  obtain ⟨houtcome, -⟩ := Engine.evaluate_of_read_eq_ok
    (Engine.surroundings_variables today text texts v) (Engine.read_path h hothers)
  have hlength : ((text :: texts).map Text.lower).length = (name :: names).length := by
    rw [List.length_map, List.length_cons, List.length_cons, hothers.length_eq]
  have hfollow := follow_nested hlength v
  rw [houtcome]
  split
  · next hsame =>
    rw [if_pos hsame] at hfollow
    exact Formula.outcome_variable_of_follow rfl hfollow
  · next hdiffer =>
    rw [if_neg hdiffer] at hfollow
    exact Formula.outcome_variable_of_missing rfl hfollow

theorem variableKey_singleton (name : String) : variableKey [name] = Text.lower name := by
  rw [variableKey, String.intercalate_singleton]

theorem evaluate_concept {text name : String} (h : IsIdentifier text name) (today : Date)
    (v : String) :
    (evaluate today {} (.text text) (.record [("concepts", .map [(.text text, .text v)])])
        {}).report.outcome =
      if Text.lower text = Text.lower name then .ok (.text v)
      else .error (.undefinedVariable (Text.lower name)) := by
  have hread := Engine.read_path h .nil
  rw [String.intercalate_singleton] at hread
  obtain ⟨houtcome, -⟩ := Engine.evaluate_of_read_eq_ok
    (Engine.surroundings_concepts today text v) hread
  have hlookup := lookup_singleton (Text.lower text) (Text.lower name) (.text v)
  rw [houtcome, ← variableKey_singleton name]
  rw [← variableKey_singleton name] at hlookup
  split
  · next hsame =>
    rw [if_pos hsame] at hlookup
    exact Formula.outcome_variable_of_concept hlookup
  · next hdiffer =>
    rw [if_neg hdiffer] at hlookup
    exact Formula.outcome_variable_of_missing hlookup rfl

/-- Identifiers without blanks in their texts, whose characters keep their case, have names with the
lower case of their texts. -/
theorem map_lower_names {texts names : List String} (h : List.Forall₂ IsIdentifier texts names)
    (hplain : ∀ text ∈ texts, ∀ c ∈ text.toList, Text.isBlank c = false ∧ Text.KeepsCase c) :
    texts.map Text.lower = names.map Text.lower := by
  induction h with
  | nil => rfl
  | cons hfirst hothers ih =>
    rw [List.forall_mem_cons] at hplain
    rw [List.map_cons, List.map_cons, hfirst.lower_name hplain.1, ih hplain.2]

/-- A path of identifiers finds the value that is bound to their texts exactly when each name has the
lower case of its text, and so does a single identifier that names a concept; nothing else is found
in its place.  A name has the lower case of its text when there are no blanks in the text and each
of its characters keeps its case. -/
theorem identifiers_bound_iff_same_lower_case {text name : String} {texts names : List String}
    (h : IsIdentifier text name) (hothers : List.Forall₂ IsIdentifier texts names) (today : Date)
    (v : String) :
    ((evaluate today {} (.text (".".intercalate (text :: texts)))
        (.record [("variables", nested (text :: texts) (.text v))]) {}).report.outcome =
      if (text :: texts).map Text.lower = (name :: names).map Text.lower then .ok (.text v)
      else .error (.undefinedVariable (variableKey (name :: names)))) ∧
    ((evaluate today {} (.text text) (.record [("concepts", .map [(.text text, .text v)])])
        {}).report.outcome =
      if Text.lower text = Text.lower name then .ok (.text v)
      else .error (.undefinedVariable (Text.lower name))) ∧
    ((∀ t ∈ text :: texts, ∀ c ∈ t.toList, Text.isBlank c = false ∧ Text.KeepsCase c) →
      (text :: texts).map Text.lower = (name :: names).map Text.lower) :=
  ⟨evaluate_path h hothers today v, evaluate_concept h today v, map_lower_names (.cons h hothers)⟩

/-- Identifiers of ASCII characters are bound. -/
theorem identifiers_bound_iff_same_lower_case_ascii :
    IsIdentifier "Staff" "STAFF" ∧ IsIdentifier "rate_2" "RATE_2" ∧ ∀ (today : Date) (v : String),
      (evaluate today {} (.text "Staff.rate_2")
          (.record [("variables", nested ["Staff", "rate_2"] (.text v))]) {}).report.outcome =
        .ok (.text v) ∧
      (evaluate today {} (.text "Staff") (.record [("concepts", .map [(.text "Staff", .text v)])])
          {}).report.outcome = .ok (.text v) := by
  have hstaff : IsIdentifier "Staff" "STAFF" := ⟨0, 5, by decide +kernel, by decide⟩
  have hrate : IsIdentifier "rate_2" "RATE_2" := ⟨0, 6, by decide +kernel, by decide⟩
  have hjoin : ".".intercalate ["Staff", "rate_2"] = "Staff.rate_2" := by decide +kernel
  have hascii : ∀ text ∈ ["Staff", "rate_2"],
      (text.toList.all fun c ↦ !Text.isBlank c && decide (c.toNat < 128)) = true := by
    decide +kernel
  have hplain : ∀ text ∈ ["Staff", "rate_2"], ∀ c ∈ text.toList,
      Text.isBlank c = false ∧ Text.KeepsCase c := fun text htext c hc ↦ by
    have hc := List.all_eq_true.1 (hascii text htext) c hc
    rw [Bool.and_eq_true, Bool.not_eq_true', decide_eq_true_eq] at hc
    exact hc.imp_right Text.keepsCase_of_ascii
  refine ⟨hstaff, hrate, fun today v ↦ ?_⟩
  obtain ⟨hpath, hconcept, hlower⟩ :=
    identifiers_bound_iff_same_lower_case hstaff (.cons hrate .nil) today v
  have hlowers := hlower hplain
  rw [if_pos hlowers, hjoin] at hpath
  rw [if_pos (List.cons.inj hlowers).1] at hconcept
  exact ⟨hpath, hconcept⟩

/-- A sharp s is looked up as two letters, and a sigma at the end of a word as a final one. -/
theorem sharp_s_and_sigma_not_bound :
    IsIdentifier "ß" "SS" ∧ IsIdentifier "ασ" "ΑΣ" ∧ ∀ (today : Date) (v : String),
      (evaluate today {} (.text "ß") (.record [("variables", nested ["ß"] (.text v))])
          {}).report.outcome = .error (.undefinedVariable "ss") ∧
      (evaluate today {} (.text "ß") (.record [("concepts", .map [(.text "ß", .text v)])])
          {}).report.outcome = .error (.undefinedVariable "ss") ∧
      (evaluate today {} (.text "ασ") (.record [("variables", nested ["ασ"] (.text v))])
          {}).report.outcome = .error (.undefinedVariable "ας") := by
  have hsharp : IsIdentifier "ß" "SS" := ⟨0, 1, by decide +kernel, by decide⟩
  have hsigma : IsIdentifier "ασ" "ΑΣ" := ⟨0, 2, by decide +kernel, by decide⟩
  have hss : Text.lower "SS" = "ss" := by decide +kernel
  have hfinal : Text.lower "ΑΣ" = "ας" := by decide +kernel
  have hkept : ["ß"].map Text.lower ≠ ["SS"].map Text.lower := by decide +kernel
  have hlower : Text.lower "ß" ≠ Text.lower "SS" := by decide +kernel
  have hword : ["ασ"].map Text.lower ≠ ["ΑΣ"].map Text.lower := by decide +kernel
  refine ⟨hsharp, hsigma, fun today v ↦ ⟨?_, ?_, ?_⟩⟩
  · have hmissing := evaluate_path hsharp .nil today v
    rw [if_neg hkept, variableKey_singleton, hss, String.intercalate_singleton] at hmissing
    exact hmissing
  · have hmissing := evaluate_concept hsharp today v
    rw [if_neg hlower, hss] at hmissing
    exact hmissing
  · have hmissing := evaluate_path hsigma .nil today v
    rw [if_neg hword, variableKey_singleton, hfinal, String.intercalate_singleton] at hmissing
    exact hmissing

end PayFormula
