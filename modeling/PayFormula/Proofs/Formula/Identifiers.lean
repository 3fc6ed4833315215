import Mathlib
import PayFormula.Proofs.Formula.Written

/-!
# Identifiers

A text is an identifier when it is read as one name and nothing else.  Such a text is a run of name
characters with blanks around it, and the name is the run in upper case.  It is read so wherever no
name character follows, so identifiers with points between them are read as the path of their names,
and a path is a formula that takes one level.
-/

namespace PayFormula

open Text

/-! ## Words -/

/-- A run of name characters that starts with `c`, and blanks before and after it. -/
structure IsWord (name : String) (front : List Char) (c : Char) (run back : List Char) : Prop where
  front_blank : ∀ d ∈ front, isBlank d = true
  not_blank : isBlank c = false
  not_digit : isDigitLike c = false
  not_quote : isQuote c = false
  start : isNameStart c = true
  run_name : ∀ d ∈ run, isNameChar d = true
  back_blank : ∀ d ∈ back, isBlank d = true
  name_eq : name = upper (String.ofList (c :: run))

/-- A text that holds nothing but its end is blank. -/
theorem forall_isBlank_of_finish {cs : List Char} {position finish : ℕ}
    (h : tokensFrom 0 position cs = .ok [⟨.finish, finish⟩]) : ∀ c ∈ cs, isBlank c = true := by
  induction cs generalizing position with
  | nil => simp
  | cons c rest ih =>
    rw [tokensFrom] at h
    split at h
    · next hblank => exact List.forall_mem_cons.2 ⟨hblank, ih h⟩
    · obtain ⟨⟨lexeme, length⟩, hlexeme, hothers⟩ := exists_of_bind_eq_ok h
      obtain ⟨others, -, hresult⟩ := exists_of_bind_eq_ok hothers
      obtain ⟨_, _, -, -, hsource⟩ := lexemeAt_sound hlexeme
      have hfirst := (List.cons.inj (Except.ok.inj hresult)).1
      exact absurd (congrArg Token.lexeme hfirst) hsource.ne_finish

/-- Only a run of name characters is read as a name. -/
theorem IsRead.eq_name {c : Char} {source rest : List Char} {name : String}
    (h : IsRead c source rest (.name name)) :
    isDigitLike c = false ∧ isNameStart c = true ∧ (∀ d ∈ source, isNameChar d = true) ∧
      name = upper (String.ofList (c :: source)) := by
  cases h with
  | name hdigit hstart hrun => exact ⟨hdigit, hstart, hrun, rfl⟩
  | single hlexeme =>
    unfold singleLexeme? at hlexeme
    split at hlexeme <;> simp at hlexeme

theorem exists_isWord {cs : List Char} {position start finish : ℕ} {name : String}
    (h : tokensFrom 0 position cs = .ok [⟨.name name, start⟩, ⟨.finish, finish⟩]) :
    ∃ front c run back, cs = front ++ (c :: run ++ back) ∧ IsWord name front c run back := by
  induction cs generalizing position with
  | nil => simp [tokensFrom] at h
  | cons c rest ih =>
    rw [tokensFrom] at h
    split at h
    · next hblank =>
      obtain ⟨front, c', run, back, rfl, hword⟩ := ih h
      refine ⟨c :: front, c', run, back, rfl, { hword with
        front_blank := List.forall_mem_cons.2 ⟨hblank, hword.front_blank⟩ }⟩
    · next hblank =>
      obtain ⟨⟨lexeme, length⟩, hlexeme, hothers⟩ := exists_of_bind_eq_ok h
      obtain ⟨others, htokens, hresult⟩ := exists_of_bind_eq_ok hothers
      obtain ⟨hfirst, hrest⟩ := List.cons.inj (Except.ok.inj hresult)
      obtain rfl : lexeme = .name name := congrArg Token.lexeme hfirst
      obtain ⟨run, back, rfl, rfl, hread⟩ := isRead_of_lexemeAt hlexeme
      obtain ⟨hdigit, hstart, hrun, hname⟩ := hread.eq_name
      rw [hrest, Nat.add_sub_cancel, tokensFrom_append] at htokens
      exact ⟨[], c, run, back, rfl, {
        front_blank := by simp
        not_blank := Bool.not_eq_true _ ▸ hblank
        not_digit := hdigit
        not_quote := isQuote_of_isNameStart hstart
        start := hstart
        run_name := hrun
        back_blank := forall_isBlank_of_finish htokens
        name_eq := hname }⟩

namespace IsWord

variable {name : String} {front run back : List Char} {c : Char}

/-- Neither a blank nor what comes after the word goes on with its name. -/
theorem isRead (h : IsWord name front c run back) {rest : List Char}
    (hrest : ∀ d ∈ rest.head?, isNameChar d = false) :
    IsRead c run (back ++ rest) (.name name) := by
  rw [h.name_eq]
  refine .name h.not_digit h.start h.run_name fun d hd ↦ ?_
  rcases back with _ | ⟨b, back⟩
  · exact hrest d hd
  · obtain rfl : b = d := Option.some.inj hd
    exact isNameChar_of_isBlank (h.back_blank b List.mem_cons_self)

/-- A word is read as its name wherever no name character follows. -/
theorem tokensFrom_eq (h : IsWord name front c run back) {rest : List Char}
    (hrest : ∀ d ∈ rest.head?, isNameChar d = false) (position : ℕ) :
    tokensFrom 0 position (front ++ (c :: run ++ back) ++ rest) =
      (tokensFrom 0 (position + (front ++ (c :: run ++ back)).length) rest).map
        (⟨.name name, position + front.length⟩ :: ·) := by
  have hlength : position + (front ++ (c :: run ++ back)).length =
      position + front.length + (c :: run).length + back.length := by
    simp only [List.length_append]
    omega
  rw [hlength, List.append_assoc, tokensFrom_blanks h.front_blank, List.append_assoc,
    (h.isRead hrest).tokensFrom_eq, tokensFrom_blanks h.back_blank]

/-- What a word begins with does not make a point before it a number. -/
theorem isDigitLike_head (h : IsWord name front c run back) (rest : List Char) :
    ∀ d ∈ (front ++ (c :: run ++ back) ++ rest).head?, isDigitLike d = false := by
  rintro d hd
  rcases front with _ | ⟨b, front⟩
  · obtain rfl : c = d := Option.some.inj hd
    exact h.not_digit
  · obtain rfl : b = d := Option.some.inj hd
    exact isDigitLike_of_isBlank (h.front_blank b List.mem_cons_self)

/-- A word without blanks and whose characters keep their case has the lower case of its name. -/
theorem lower_name (h : IsWord name [] c run []) (hcase : ∀ d ∈ c :: run, KeepsCase d) :
    lower name = lower (String.ofList (c :: run)) := by
  rw [h.name_eq, lower_upper (by rwa [String.toList_ofList])]

end IsWord

/-! ## Identifiers -/

/-- The text is read as the name and nothing else, and the name has no other meaning. -/
def IsIdentifier (text name : String) : Prop :=
  ∃ start finish, tokenize text = .ok [⟨.name name, start⟩, ⟨.finish, finish⟩] ∧
    name ∉ reservedNames

namespace IsIdentifier

variable {text name : String}

theorem exists_isWord (h : IsIdentifier text name) :
    ∃ front c run back, text.toList = front ++ (c :: run ++ back) ∧
      IsWord name front c run back := by
  obtain ⟨start, finish, htokens, -⟩ := h
  exact PayFormula.exists_isWord htokens

/-- In a text without blanks the name is the whole text in upper case. -/
theorem lower_name (h : IsIdentifier text name)
    (hplain : ∀ c ∈ text.toList, isBlank c = false ∧ KeepsCase c) : lower name = lower text := by
  obtain ⟨front, c, run, back, htext, hword⟩ := h.exists_isWord
  rw [htext] at hplain
  have hfront : front = [] := List.eq_nil_iff_forall_not_mem.2 fun d hd ↦ by
    have hblank := (hplain d (by simp [hd])).1
    rw [hword.front_blank d hd] at hblank
    exact Bool.noConfusion hblank
  have hback : back = [] := List.eq_nil_iff_forall_not_mem.2 fun d hd ↦ by
    have hblank := (hplain d (by simp [hd])).1
    rw [hword.back_blank d hd] at hblank
    exact Bool.noConfusion hblank
  subst hfront hback
  rw [List.nil_append, List.append_nil] at htext hplain
  rw [hword.lower_name fun d hd ↦ (hplain d hd).2, ← htext, String.ofList_toList]

end IsIdentifier

/-! ## Paths -/

theorem tokensFrom_dot {rest : List Char} (hrest : ∀ d ∈ rest.head?, isDigitLike d = false)
    (position : ℕ) :
    tokensFrom 0 position ('.' :: rest) =
      (tokensFrom 0 (position + 1) rest).map (⟨.dot, position⟩ :: ·) := by
  have hsymbolic : isSymbolic '.' = true := by decide +kernel
  have hblank : ¬isBlank '.' = true := by decide +kernel
  have hnumber : startsNumber '.' rest = false := by
    have hdigit : isDigitLike '.' = false := by decide +kernel
    cases rest with
    | nil => simp [startsNumber, hdigit]
    | cons d rest => simp [startsNumber, hdigit, hrest d rfl]
  have hdoubled : rest.head?.bind (doubledOperator? '.') = none := by
    rw [Option.bind_eq_none_iff]
    intro d _
    simp [doubledOperator?]
  rw [tokensFrom, if_neg hblank, lexemeAt_of_isSymbolic hsymbolic hnumber, hdoubled]
  rfl

theorem exists_intercalate_cons (point : List Char) (text : List Char) (texts : List (List Char)) :
    ∃ tail, point.intercalate (text :: texts) = text ++ tail := by
  cases texts with
  | nil => exact ⟨[], by simp⟩
  | cons next texts =>
    exact ⟨_, by rw [List.intercalate_cons_cons, List.append_assoc]⟩

/-- Identifiers with points between them are read as their names with points between them. -/
theorem tokensFrom_path {text name : String} {texts names : List String}
    (h : IsIdentifier text name) (hothers : List.Forall₂ IsIdentifier texts names) (position : ℕ) :
    ∃ body last,
      tokensFrom 0 position (['.'].intercalate ((text :: texts).map String.toList)) =
        .ok (body ++ [⟨.finish, last⟩]) ∧
      body.map Token.lexeme = .name name :: dotted names := by
  induction hothers generalizing text name position with
  | nil =>
    obtain ⟨front, c, run, back, htext, hword⟩ := h.exists_isWord
    have hend : ∀ d ∈ ([] : List Char).head?, isNameChar d = false := by simp
    have hread := hword.tokensFrom_eq hend position
    rw [List.append_nil, ← htext] at hread
    rw [List.map_singleton, List.intercalate_singleton, hread]
    exact ⟨[_], _, rfl, rfl⟩
  | @cons next nextName texts names hnext hothers ih =>
    obtain ⟨front, c, run, back, htext, hword⟩ := h.exists_isWord
    obtain ⟨front', c', run', back', hnextText, hnextWord⟩ := hnext.exists_isWord
    set others := ['.'].intercalate ((next :: texts).map String.toList) with hrest
    have hpoint : ∀ d ∈ ('.' :: others).head?, isNameChar d = false := by
      rintro d hd
      obtain rfl := Option.some.inj hd
      decide +kernel
    have hdigit : ∀ d ∈ others.head?, isDigitLike d = false := by
      obtain ⟨tail, htail⟩ :=
        exists_intercalate_cons ['.'] next.toList (texts.map String.toList)
      rw [hrest, List.map_cons, htail, hnextText]
      exact hnextWord.isDigitLike_head tail
    have hread := hword.tokensFrom_eq hpoint position
    rw [← htext] at hread
    obtain ⟨body, last, hbody, hlexemes⟩ := ih hnext (position + text.toList.length + 1)
    refine ⟨⟨.name name, position + front.length⟩ :: ⟨.dot, position + text.toList.length⟩ :: body,
      last, ?_, ?_⟩
    · rw [List.map_cons, List.map_cons, List.intercalate_cons_cons, List.append_assoc,
        ← List.map_cons, ← hrest, List.singleton_append, hread, tokensFrom_dot hdigit, hbody]
      rfl
    · rw [List.map_cons, List.map_cons, hlexemes]
      rfl

/-- A path is read wherever a level is left and the formula ends after it. -/
theorem expression_path {name : String} {names : List String} (hname : name ∉ reservedNames)
    (cap : DepthCap) (room : ℕ) {body rest : List Token}
    (hbody : body.map Token.lexeme = .name name :: dotted names) (hrest : Closes rest) :
    expression cap (room + 1) 0 (body ++ rest) = .ok (.variable (name :: names), rest) := by
  obtain ⟨position, others, rfl, hothers⟩ := exists_cons_of_map_lexeme hbody
  have hread : primary (expression cap room 0) (unaryOperand cap room)
      (⟨.name name, position⟩ :: others ++ rest) = .ok (.variable (name :: names), rest) := by
    rw [List.cons_append, primary_name hname]
    rcases names with _ | ⟨next, names⟩
    · rw [List.map_eq_nil_iff.1 hothers, List.nil_append,
        reference_of_not_continues _ _ hrest.not_continues]
    · obtain ⟨dot, tail, rfl, -⟩ := exists_cons_of_map_lexeme hothers
      change (pathRest (⟨.dot, dot⟩ :: tail ++ rest) >>= _) = _
      rw [pathRest_complete hothers fun hdot ↦ hrest.not_continues (.inl hdot)]
      rfl
  rw [expression, hread]
  change chain cap room 0 _ rest = _
  rw [chain_eq_self cap room _ (hrest.chainOperator?_eq_none 0)]

/-- Identifiers with points between them are the formula of a variable. -/
theorem exists_parse_path {text name : String} {texts names : List String}
    (h : IsIdentifier text name) (hothers : List.Forall₂ IsIdentifier texts names) {cap : DepthCap}
    (hcap : cap.levels? ≠ some 0) (strict : Bool) :
    ∃ tokens, tokenize (".".intercalate (text :: texts)) = .ok tokens ∧
      parse cap strict tokens = .ok (.variable (name :: names)) := by
  obtain ⟨body, last, htokens, hbody⟩ := tokensFrom_path h hothers 0
  obtain ⟨-, -, -, hname⟩ := h
  have hfinish : Closes [⟨.finish, last⟩] := by simp [Closes, headToken]
  refine ⟨body ++ [⟨.finish, last⟩], ?_, ?_⟩
  · rw [tokenize, String.toList_intercalate]
    exact htokens
  · exact parse_of_expression hcap strict fun room ↦
      expression_path hname cap room hbody hfinish

end PayFormula
