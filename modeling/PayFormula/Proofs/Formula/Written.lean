import Mathlib
import PayFormula.Proofs.Decimal.Numeral
import PayFormula.Proofs.Formula.Boundaries
import PayFormula.Proofs.Formula.Nodes
import PayFormula.Proofs.Formula.Reading

/-!
# Written Formulas

A formula is written in words with single spaces between them: every operator stands in parentheses
with its operands, and a text stands between quotes, with backslashes before the quotes and
backslashes in it.  Each word is read as one lexeme wherever a space or nothing follows, and the
lexemes derive the formula, so a formula that was read once is read again from what is written for
it.
-/

namespace PayFormula

open Text

/-! ## Writing -/

/-- The characters of a text with a backslash before each quote and each backslash. -/
def escaped (quote : Char) (cs : List Char) : List Char :=
  cs.flatMap fun c ↦ if c = quote ∨ c = '\\' then ['\\', c] else [c]

/-- A text between quotes. -/
def quotedWord (quote : Char) (s : String) : String :=
  String.ofList (quote :: (escaped quote s.toList ++ [quote]))

namespace Formula

mutual

/-- The words of a formula, with `quote` around its texts. -/
def words (quote : Char) : Formula → List String
  | number value => [value.toText]
  | text value => [quotedWord quote value.toText]
  | truth value => [if value then "TRUE" else "FALSE"]
  | .variable path => path.intersperse "."
  | call name arguments =>
    name :: "(" :: ([","].intercalate (wordsEach quote arguments) ++ [")"])
  | unary operator operand => "(" :: operator.symbol :: (words quote operand ++ [")"])
  | binary operator left right =>
    "(" :: (words quote left ++ operator.symbol :: (words quote right ++ [")"]))
  | missing => []

def wordsEach (quote : Char) : List Formula → List (List String)
  | [] => []
  | formula :: rest => words quote formula :: wordsEach quote rest

end

def written (quote : Char) (formula : Formula) : String := " ".intercalate (formula.words quote)

end Formula

/-! ## Plain names and numbers -/

/-- ASCII capitals, digits and the underscore. -/
def isPlainChar (c : Char) : Bool := c.isUpper || c.isDigit || c == '_'

/-- One or more plain characters, the first of which is no digit. -/
def IsPlainName (name : String) : Prop :=
  ∃ c cs, name.toList = c :: cs ∧ c.isDigit = false ∧ ∀ d ∈ c :: cs, isPlainChar d = true

/-- Digits of any script, digit marks and points that begin as a number does. -/
def IsNumberRun (cs : List Char) : Prop :=
  ∃ c rest, cs = c :: rest ∧ startsNumber c rest = true ∧ ∀ d ∈ rest, isNumberChar d = true

/-- ASCII digits and points that begin with a digit, or with a point and a digit. -/
def IsPlainNumber (digits : String) : Prop :=
  ∃ c cs, digits.toList = c :: cs ∧ (c.isDigit || c == '.' && cs.head?.any Char.isDigit) = true ∧
    ∀ d ∈ cs, (d.isDigit || d == '.') = true

/-- The names and numbers of the formula are plain; its texts may be any. -/
structure Formula.IsPlain (formula : Formula) : Prop where
  number : ∀ digits, .number (.text digits) ∈ formula.nodes → IsPlainNumber digits
  segment : ∀ path, .variable path ∈ formula.nodes → ∀ name ∈ path, IsPlainName name
  function : ∀ name arguments, .call name arguments ∈ formula.nodes → IsPlainName name

theorem Formula.IsPlain.part {part formula : Formula} (h : formula.IsPlain)
    (hpart : part ∈ formula.children) : part.IsPlain where
  number digits hdigits := h.number digits (nodes_subset_of_mem_children hpart hdigits)
  segment path hpath := h.segment path (nodes_subset_of_mem_children hpart hpath)
  function name arguments hcall :=
    h.function name arguments (nodes_subset_of_mem_children hpart hcall)

/-! ## Classes of ASCII characters -/

theorem toNat_lt_of_isDigit {c : Char} (h : c.isDigit = true) : c.toNat < 128 := by
  have hband : 48 ≤ c.toNat ∧ c.toNat ≤ 57 := Char.isDigit_iff_toNat.1 h
  omega

theorem toNat_lt_of_isPlainChar {c : Char} (h : isPlainChar c = true) : c.toNat < 128 := by
  simp only [isPlainChar, Bool.or_eq_true, beq_iff_eq] at h
  rcases h with (hupper | hdigit) | rfl
  · exact toNat_lt_of_isUpper hupper
  · exact toNat_lt_of_isDigit hdigit
  · decide

theorem isNameChar_of_isPlainChar {c : Char} (h : isPlainChar c = true) : isNameChar c = true :=
  forall_ascii (p := fun c ↦ isPlainChar c = true → isNameChar c = true) (by decide +kernel)
    (toNat_lt_of_isPlainChar h) h

theorem upperChar_of_isPlainChar {c : Char} (h : isPlainChar c = true) : upperChar c = [c] :=
  forall_ascii (p := fun c ↦ isPlainChar c = true → upperChar c = [c]) (by decide +kernel)
    (toNat_lt_of_isPlainChar h) h

/-- A name is told apart by its first character. -/
theorem isNameStart_of_isPlainChar {c : Char} (h : isPlainChar c = true)
    (hdigit : c.isDigit = false) : isNameStart c = true ∧ isDigitLike c = false :=
  forall_ascii
    (p := fun c ↦ isPlainChar c = true → c.isDigit = false →
      isNameStart c = true ∧ isDigitLike c = false)
    (by decide +kernel) (toNat_lt_of_isPlainChar h) h hdigit

theorem isDigitLike_of_isDigit {c : Char} (h : c.isDigit = true) : isDigitLike c = true := by
  simp [isDigitLike, isDigit_of_isDigit h]

/-! ## Single words -/

/-- Nothing, or something that begins with a space. -/
def Parted (rest : List Char) : Prop := ∀ c ∈ rest.head?, c = ' '

/-- The word is read as the lexeme wherever a space or nothing follows. -/
def IsReadAs (word : String) (lexeme : Lexeme) : Prop :=
  ∃ c cs, word.toList = c :: cs ∧ isBlank c = false ∧ ∀ (position : ℕ) (rest : List Char),
    Parted rest → lexemeAt position c (cs ++ rest) = .ok (lexeme, cs.length + 1)

/-- A space goes on with no token. -/
theorem Parted.followsAs {rest : List Char} (h : Parted rest) : FollowsAs [] rest := by
  intro c hc
  obtain rfl := h c hc
  exact .inl (endsTokens_of_isBlank (by decide +kernel))

theorem IsRead.isReadAs {c : Char} {cs : List Char} {lexeme : Lexeme}
    (h : IsRead c cs [] lexeme) : IsReadAs (String.ofList (c :: cs)) lexeme :=
  ⟨c, cs, String.toList_ofList, h.isBlank_eq, fun position _ hrest ↦
    (h.follow hrest.followsAs).lexemeAt_eq position⟩

theorem IsPlainName.isReadAs {name : String} (h : IsPlainName name) :
    IsReadAs name (.name name) := by
  obtain ⟨c, cs, hname, hdigit, hplain⟩ := h
  obtain ⟨hstart, hdigitLike⟩ := isNameStart_of_isPlainChar (hplain c List.mem_cons_self) hdigit
  have hchars : ∀ d ∈ cs, isNameChar d = true := fun d hd ↦
    isNameChar_of_isPlainChar (hplain d (List.mem_cons_of_mem c hd))
  have hword : String.ofList (c :: cs) = name := by
    rw [← hname, String.ofList_toList]
  have hupper : upper name = name := by
    calc
      _ = String.ofList ((c :: cs).flatMap upperChar) := by rw [upper, hname]
      _ = String.ofList ((c :: cs).flatMap fun d ↦ [d]) := by
        rw [List.flatMap_congr fun d hd ↦ upperChar_of_isPlainChar (hplain d hd)]
      _ = name := by rw [List.flatMap_singleton', hword]
  have hread : IsRead c cs [] (.name (upper (String.ofList (c :: cs)))) :=
    .name hdigitLike hstart hchars (by simp)
  have hreadAs := hread.isReadAs
  rwa [hword, hupper] at hreadAs

theorem IsNumberRun.isNumberChar {cs : List Char} (h : IsNumberRun cs) :
    ∀ c ∈ cs, isNumberChar c = true := by
  obtain ⟨c, rest, rfl, hstart, hrest⟩ := h
  exact List.forall_mem_cons.2 ⟨isNumberChar_of_startsNumber hstart, hrest⟩

theorem IsNumberRun.isReadAs {cs : List Char} (h : IsNumberRun cs) :
    IsReadAs (String.ofList cs) (.number (String.ofList cs)) := by
  obtain ⟨c, rest, rfl, hstart, hrest⟩ := h
  have hread : IsRead c rest [] (.number (String.ofList (c :: rest))) :=
    .number hstart hrest (by simp)
  exact hread.isReadAs

theorem IsPlainNumber.isNumberRun {digits : String} (h : IsPlainNumber digits) :
    IsNumberRun digits.toList := by
  obtain ⟨c, cs, hdigits, hstart, hplain⟩ := h
  refine ⟨c, cs, hdigits, ?_, ?_⟩
  · rw [startsNumber, Bool.or_eq_true, Bool.and_eq_true]
    refine (Bool.or_eq_true_iff.1 hstart).imp isDigitLike_of_isDigit fun hpoint ↦ ?_
    rw [Bool.and_eq_true] at hpoint
    refine ⟨hpoint.1, ?_⟩
    cases cs with
    | nil => exact absurd hpoint.2 (by simp)
    | cons d cs => exact isDigitLike_of_isDigit hpoint.2
  · intro d hd
    rw [isNumberChar, Bool.or_eq_true]
    exact (Bool.or_eq_true_iff.1 (hplain d hd)).imp_left isDigitLike_of_isDigit

theorem IsPlainNumber.isReadAs {digits : String} (h : IsPlainNumber digits) :
    IsReadAs digits (.number digits) := by
  have hread := h.isNumberRun.isReadAs
  rwa [String.ofList_toList] at hread

/-- Backslashes before each quote and each backslash leave the text as it is. -/
theorem escapes_escaped (quote : Char) (cs : List Char) : Escapes quote (escaped quote cs) cs := by
  induction cs with
  | nil => exact .nil
  | cons c cs ih =>
    rw [escaped, List.flatMap_cons]
    split
    · exact .escaped c ih
    · next hc =>
      rw [not_or] at hc
      exact .plain hc.1 hc.2 ih

theorem isRead_quotedWord {quote : Char} (hquote : isQuote quote = true) (s : String)
    (rest : List Char) : IsRead quote (escaped quote s.toList ++ [quote]) rest (.text s) := by
  have hread : IsRead quote (escaped quote s.toList ++ [quote]) rest
      (.text (String.ofList s.toList)) := .text hquote (escapes_escaped quote s.toList)
  rwa [String.ofList_toList] at hread

/-- A text is read from between its quotes, whatever it holds. -/
theorem quotedWord_isReadAs {quote : Char} (hquote : isQuote quote = true) (s : String) :
    IsReadAs (quotedWord quote s) (.text s) :=
  (isRead_quotedWord hquote s []).isReadAs

theorem singleLexeme?_isReadAs {c : Char} {lexeme : Lexeme} (h : singleLexeme? c = some lexeme) :
    IsReadAs (String.singleton c) lexeme := by
  obtain ⟨-, hdigit, -, -⟩ := (isSymbolic_iff c).1 (isSymbolic_of_singleLexeme? h)
  have hread : IsRead c [] [] lexeme := .single h (by simp [startsNumber, hdigit]) (by simp)
  have hreadAs := hread.isReadAs
  rwa [← String.singleton_eq_ofList] at hreadAs

theorem doubledOperator?_isReadAs {c d : Char} {operator : Operator}
    (h : doubledOperator? c d = some operator) :
    IsReadAs (String.ofList [c, d]) (.operator operator) := by
  have hread : IsRead c [d] [] (.operator operator) := .doubled h
  exact hread.isReadAs

/-- The words of the language itself are plain names. -/
theorem isPlainName_keyword {name : String} (h : name ∈ ["OR", "AND", "NOT", "TRUE", "FALSE"]) :
    IsPlainName name := by
  simp only [List.mem_cons, List.not_mem_nil, or_false] at h
  rcases h with rfl | rfl | rfl | rfl | rfl
  · exact ⟨'O', ['R'], rfl, rfl, by simp [isPlainChar]⟩
  · exact ⟨'A', ['N', 'D'], rfl, rfl, by simp [isPlainChar]⟩
  · exact ⟨'N', ['O', 'T'], rfl, rfl, by simp [isPlainChar]⟩
  · exact ⟨'T', ['R', 'U', 'E'], rfl, rfl, by simp [isPlainChar]⟩
  · exact ⟨'F', ['A', 'L', 'S', 'E'], rfl, rfl, by simp [isPlainChar]⟩

/-- A known operator is written as one of its spellings. -/
theorem BinaryOperator.exists_isReadAs {operator : BinaryOperator} {lexeme : Lexeme}
    (h : lexeme ∈ operator.spellings) :
    ∃ spelling ∈ operator.spellings, IsReadAs operator.symbol spelling := by
  cases operator with
  | or =>
    have hword : IsPlainName "OR" := isPlainName_keyword (by simp)
    exact ⟨.name "OR", by simp [spellings], hword.isReadAs⟩
  | and =>
    have hword : IsPlainName "AND" := isPlainName_keyword (by simp)
    exact ⟨.name "AND", by simp [spellings], hword.isReadAs⟩
  | less => exact ⟨_, List.mem_singleton_self _, @singleLexeme?_isReadAs '<' _ rfl⟩
  | greater => exact ⟨_, List.mem_singleton_self _, @singleLexeme?_isReadAs '>' _ rfl⟩
  | lessEqual => exact ⟨_, List.mem_singleton_self _, @doubledOperator?_isReadAs '<' '=' _ rfl⟩
  | greaterEqual => exact ⟨_, List.mem_singleton_self _, @doubledOperator?_isReadAs '>' '=' _ rfl⟩
  | equal => exact ⟨_, List.mem_singleton_self _, @doubledOperator?_isReadAs '=' '=' _ rfl⟩
  | notEqual => exact ⟨_, List.mem_singleton_self _, @doubledOperator?_isReadAs '!' '=' _ rfl⟩
  | plus => exact ⟨_, List.mem_singleton_self _, @singleLexeme?_isReadAs '+' _ rfl⟩
  | minus => exact ⟨_, List.mem_singleton_self _, @singleLexeme?_isReadAs '-' _ rfl⟩
  | times => exact ⟨_, List.mem_singleton_self _, @singleLexeme?_isReadAs '*' _ rfl⟩
  | divide => exact ⟨_, List.mem_singleton_self _, @singleLexeme?_isReadAs '/' _ rfl⟩
  | unknown symbol => exact absurd h List.not_mem_nil

/-! ## Words in a row -/

theorem tokensFrom_word {word : String} {lexeme : Lexeme} (h : IsReadAs word lexeme)
    {rest : List Char} (hrest : Parted rest) (position : ℕ) :
    tokensFrom 0 position (word.toList ++ rest) =
      (tokensFrom 0 (position + word.toList.length) rest).map (⟨lexeme, position⟩ :: ·) := by
  obtain ⟨c, cs, hword, hblank, hread⟩ := h
  rw [hword, List.cons_append, tokensFrom, if_neg (by simp [hblank]), hread position rest hrest]
  change (tokensFrom cs.length (position + 1) (cs ++ rest) >>= _) = _
  rw [tokensFrom_append, List.length_cons, Nat.add_assoc, Nat.add_comm 1]
  rfl

/-- Words with spaces between them are read one by one. -/
theorem tokensFrom_words {words : List String} {lexemes : List Lexeme}
    (h : List.Forall₂ IsReadAs words lexemes) (position : ℕ) :
    ∃ body last, body.map Token.lexeme = lexemes ∧
      tokensFrom 0 position ([' '].intercalate (words.map String.toList)) =
        .ok (body ++ [⟨.finish, last⟩]) := by
  induction h generalizing position with
  | nil => exact ⟨[], position, rfl, rfl⟩
  | @cons word lexeme words lexemes hword hwords ih =>
    rcases eq_or_ne words [] with rfl | hne
    · obtain rfl := List.forall₂_nil_left_iff.1 hwords
      refine ⟨[⟨lexeme, position⟩], position + word.toList.length, rfl, ?_⟩
      have hparted : Parted [] := by simp [Parted]
      have hread := tokensFrom_word hword hparted position
      rw [List.append_nil] at hread
      rw [List.map_singleton, List.intercalate_singleton, hread]
      rfl
    · obtain ⟨body, last, hbody, hothers⟩ := ih (position + word.toList.length + 1)
      have hparted : Parted (' ' :: [' '].intercalate (words.map String.toList)) := by
        simp [Parted]
      refine ⟨⟨lexeme, position⟩ :: body, last, congrArg (lexeme :: ·) hbody, ?_⟩
      rw [List.map_cons, List.intercalate_cons_of_ne_nil (by simpa using hne), List.append_assoc,
        List.singleton_append, tokensFrom_word hword hparted, tokensFrom,
        if_pos (by decide +kernel), hothers]
      rfl

/-! ## Whole formulas -/

/-- The words of a formula are read as lexemes that derive it as a single operand. -/
def Formula.IsSpelled (quote : Char) (formula : Formula) : Prop :=
  ∃ lexemes, List.Forall₂ IsReadAs (formula.words quote) lexemes ∧
    Derives .primary lexemes formula

theorem Stratum.ofLevel_level (s : Stratum) : ofLevel s.level = s := by
  cases s <;> rfl

/-- What belongs to a stratum belongs to every looser one. -/
theorem Derives.of_level_le {s t : Stratum} {lexemes : List Lexeme} {formula : Formula}
    (hlevel : t.level ≤ s.level) (h : Derives s lexemes formula) : Derives t lexemes formula := by
  rw [← s.ofLevel_level] at h
  rw [← t.ofLevel_level]
  exact h.ofLevel_mono hlevel

theorem Stratum.disjunction_level_le (s : Stratum) : disjunction.level ≤ s.level := by
  cases s <;> decide

theorem Stratum.level_le_primary (s : Stratum) : s.level ≤ primary.level := by
  cases s <;> decide

theorem path_isReadAs {name : String} {segments : List String}
    (h : ∀ segment ∈ name :: segments, IsPlainName segment) :
    List.Forall₂ IsReadAs ((name :: segments).intersperse ".") (.name name :: dotted segments) := by
  induction segments generalizing name with
  | nil => exact .cons (h name List.mem_cons_self).isReadAs .nil
  | cons segment segments ih =>
    rw [List.forall_mem_cons] at h
    have hdot : IsReadAs "." .dot := @singleLexeme?_isReadAs '.' _ rfl
    exact .cons h.1.isReadAs (.cons hdot (ih h.2))

theorem isSpelled_path {quote : Char} {name : String} {segments : List String}
    (hname : name ∉ reservedNames) (h : ∀ segment ∈ name :: segments, IsPlainName segment) :
    (Formula.variable (name :: segments)).IsSpelled quote := by
  refine ⟨_, path_isReadAs h, ?_⟩
  rcases eq_or_ne segments [] with rfl | hne
  · exact .bare hname
  · exact .path hname hne

theorem forall₂_parentheses {inner : List String} {lexemes : List Lexeme}
    (h : List.Forall₂ IsReadAs inner lexemes) :
    List.Forall₂ IsReadAs ("(" :: (inner ++ [")"])) (.leftParen :: (lexemes ++ [.rightParen])) := by
  have hopen : IsReadAs "(" .leftParen := @singleLexeme?_isReadAs '(' _ rfl
  have hclose : IsReadAs ")" .rightParen := @singleLexeme?_isReadAs ')' _ rfl
  exact .cons hopen (List.rel_append h (.cons hclose .nil))

namespace Formula.IsSpelled

variable {quote : Char}

/-- An operator with its operands in parentheses, which make a single operand of it. -/
theorem of_inner {formula : Formula} {inner : List String} {lexemes : List Lexeme} {s : Stratum}
    (hwords : formula.words quote = "(" :: (inner ++ [")"]))
    (hinner : List.Forall₂ IsReadAs inner lexemes) (hderives : Derives s lexemes formula) :
    formula.IsSpelled quote := by
  refine ⟨.leftParen :: (lexemes ++ [.rightParen]), ?_, ?_⟩
  · rw [hwords]
    exact forall₂_parentheses hinner
  · exact .parentheses (hderives.of_level_le s.disjunction_level_le)

theorem unary {operator : UnaryOperator} {lexeme : Lexeme} {operand : Formula}
    (hoperator : IsReadAs operator.symbol lexeme)
    (hderives : ∀ {lexemes : List Lexeme}, Derives .primary lexemes operand →
      Derives .primary (lexeme :: lexemes) (.unary operator operand))
    (h : operand.IsSpelled quote) : (Formula.unary operator operand).IsSpelled quote := by
  obtain ⟨lexemes, hwords, hoperand⟩ := h
  exact of_inner rfl (.cons hoperator hwords) (hderives hoperand)

theorem binary {s : Stratum} {operator : BinaryOperator} {lexeme : Lexeme} {left right : Formula}
    (hoperator : operator ∈ s.operators) (hspelling : lexeme ∈ operator.spellings)
    (hleft : left.IsSpelled quote) (hright : right.IsSpelled quote) :
    (Formula.binary operator left right).IsSpelled quote := by
  obtain ⟨before, hwordsLeft, hleft⟩ := hleft
  obtain ⟨after, hwordsRight, hright⟩ := hright
  obtain ⟨spelling, hspelling, hread⟩ := BinaryOperator.exists_isReadAs hspelling
  have hwords : (Formula.binary operator left right).words quote =
      "(" :: (left.words quote ++ operator.symbol :: right.words quote ++ [")"]) := by
    rw [words, List.append_assoc, List.cons_append]
  have hinner : List.Forall₂ IsReadAs (left.words quote ++ operator.symbol :: right.words quote)
      (before ++ spelling :: after) := List.rel_append hwordsLeft (.cons hread hwordsRight)
  exact of_inner hwords hinner (.chain hoperator hspelling
    (hleft.of_level_le s.level_le_primary) (hright.of_level_le s.tighter.level_le_primary))

/-- Arguments with commas between them. -/
theorem arguments {formulas : List Formula} (h : ∀ formula ∈ formulas, formula.IsSpelled quote) :
    ∃ pieces : List (List Lexeme × Formula), pieces.map (·.2) = formulas ∧
      (∀ piece ∈ pieces, Derives .disjunction piece.1 piece.2) ∧
      List.Forall₂ IsReadAs ([","].intercalate (wordsEach quote formulas))
        ([.comma].intercalate (pieces.map (·.1))) := by
  induction formulas with
  | nil => exact ⟨[], rfl, by simp, .nil⟩
  | cons formula rest ih =>
    rw [List.forall_mem_cons] at h
    obtain ⟨lexemes, hwords, hformula⟩ := h.1
    obtain ⟨pieces, rfl, hpieces, hrest⟩ := ih h.2
    have hpiece := hformula.of_level_le Stratum.disjunction.level_le_primary
    refine ⟨(lexemes, formula) :: pieces, rfl, List.forall_mem_cons.2 ⟨hpiece, hpieces⟩, ?_⟩
    cases pieces with
    | nil => simpa [wordsEach] using hwords
    | cons piece pieces =>
      rw [List.map_cons, wordsEach, List.map_cons, wordsEach, List.intercalate_cons_cons,
        List.map_cons, List.intercalate_cons_cons]
      have hcomma : IsReadAs "," .comma := @singleLexeme?_isReadAs ',' _ rfl
      exact List.rel_append (List.rel_append hwords (.cons hcomma .nil)) hrest

theorem call {name : String} {formulas : List Formula} (hname : name ∉ reservedNames)
    (hplain : IsPlainName name) (h : ∀ formula ∈ formulas, formula.IsSpelled quote) :
    (Formula.call name formulas).IsSpelled quote := by
  obtain ⟨pieces, rfl, hpieces, hwords⟩ := arguments h
  refine ⟨_, ?_, .call hname hpieces⟩
  exact .cons hplain.isReadAs (forall₂_parentheses hwords)

end Formula.IsSpelled

/-- What can be derived, from whatever lexemes, can be derived from its own words. -/
theorem Derives.isSpelled {s : Stratum} {lexemes : List Lexeme} {formula : Formula} {quote : Char}
    (hquote : isQuote quote = true) (h : Derives s lexemes formula) (hplain : formula.IsPlain) :
    formula.IsSpelled quote := by
  induction h with
  | operand _ ih => exact ih hplain
  | chain hoperator hspelling _ _ ihleft ihright =>
    have hleft := ihleft (hplain.part (by simp [Formula.children]))
    have hright := ihright (hplain.part (by simp [Formula.children]))
    exact .binary hoperator hspelling hleft hright
  | not hspelling _ ih =>
    have hoperand := ih (hplain.part (by simp [Formula.children]))
    have hword : IsPlainName "NOT" := isPlainName_keyword (by simp)
    exact .unary hword.isReadAs (.not (by simp [notSpellings])) hoperand
  | negate _ ih =>
    have hoperand := ih (hplain.part (by simp [Formula.children]))
    exact .unary (@singleLexeme?_isReadAs '-' _ rfl) .negate hoperand
  | parentheses _ ih => exact ih hplain
  | number digits =>
    have hdigits := hplain.number digits (Formula.self_mem_nodes _)
    exact ⟨[.number digits], .cons hdigits.isReadAs .nil, .number digits⟩
  | text content =>
    exact ⟨[.text content], .cons (quotedWord_isReadAs hquote content) .nil, .text content⟩
  | truth =>
    have hword : IsPlainName "TRUE" := isPlainName_keyword (by simp)
    exact ⟨[.name "TRUE"], .cons hword.isReadAs .nil, .truth⟩
  | falsity =>
    have hword : IsPlainName "FALSE" := isPlainName_keyword (by simp)
    exact ⟨[.name "FALSE"], .cons hword.isReadAs .nil, .falsity⟩
  | bare hname => exact isSpelled_path hname (hplain.segment _ (Formula.self_mem_nodes _))
  | path hname _ => exact isSpelled_path hname (hplain.segment _ (Formula.self_mem_nodes _))
  | call hname _ ih =>
    refine .call hname (hplain.function _ _ (Formula.self_mem_nodes _)) fun formula hformula ↦ ?_
    obtain ⟨piece, hpiece, rfl⟩ := List.mem_map.1 hformula
    exact ih piece hpiece (hplain.part hformula)

/-- Whatever reading returns, strictly or not, is derived from some lexemes. -/
theorem exists_derives_of_parse {cap : DepthCap} {strict : Bool} {tokens : List Token}
    {formula : Formula} (h : parse cap strict tokens = .ok formula) :
    ∃ lexemes, Derives .disjunction lexemes formula := by
  obtain ⟨rest, hread, -⟩ := parse_eq_ok_iff.1 h
  obtain ⟨⟨read, -, hderives⟩, -⟩ := (soundWithin cap _).expression hread
  exact ⟨_, hderives⟩

/-- A formula that reading returns for any tokens at all, and whose names and numbers are plain, is
returned for what is written for it, when the cap leaves two levels for each word and one more. -/
theorem parse_written {formula : Formula} {quote : Char} (hquote : isQuote quote = true)
    (hread : ∃ cap strict tokens, parse cap strict tokens = .ok formula)
    (hplain : formula.IsPlain) {cap : DepthCap}
    (hcap : ∀ levels, cap.levels? = some levels → 2 * (formula.words quote).length + 1 ≤ levels) :
    (tokenize (formula.written quote) >>= parse cap true) = .ok formula := by
  obtain ⟨_, _, _, hparse⟩ := hread
  obtain ⟨_, hderives⟩ := exists_derives_of_parse hparse
  obtain ⟨lexemes, hwords, hspelled⟩ := hderives.isSpelled hquote hplain
  obtain ⟨body, last, hbody, htokens⟩ := tokensFrom_words hwords 0
  have htokenize : tokenize (formula.written quote) = .ok (body ++ [⟨.finish, last⟩]) := by
    rw [tokenize, Formula.written, String.toList_intercalate]
    exact htokens
  have hlength : body.length = (formula.words quote).length := by
    rw [hwords.length_eq, ← hbody, List.length_map]
  rw [htokenize]
  have hwhole := hspelled.of_level_le Stratum.disjunction.level_le_primary
  exact hwhole.parse_eq hbody rfl (by rwa [hlength])

/-- `MAX ( ( NOT AND . NOT ) , ( .5. OR 'a\'\\b' ) )`, from symbols and with the fewest levels. -/
theorem parse_written_symbols :
    let formula : Formula := .call "MAX" [.unary .not (.variable ["AND", "NOT"]),
      .binary .or (.number (.text ".5.")) (.text (.text "a'\\b"))]
    let tokens : List Token := [⟨.name "MAX", 0⟩, ⟨.leftParen, 3⟩, ⟨.operator .bang, 4⟩,
      ⟨.name "AND", 5⟩, ⟨.dot, 8⟩, ⟨.name "NOT", 9⟩, ⟨.comma, 12⟩, ⟨.number ".5.", 13⟩,
      ⟨.operator .or, 16⟩, ⟨.text "a'\\b", 18⟩, ⟨.rightParen, 24⟩]
    isQuote '\'' = true ∧ parse (.ofInt 6) false tokens = .ok formula ∧ formula.IsPlain ∧
      2 * (formula.words '\'').length + 1 ≤ 31 ∧
      (tokenize (formula.written '\'') >>= parse (.ofInt 31) true) = .ok formula := by
  intro formula tokens
  have hread : parse (.ofInt 6) false tokens = .ok formula := rfl
  have hnodes : formula.nodes = [formula, .unary .not (.variable ["AND", "NOT"]),
      .variable ["AND", "NOT"], .binary .or (.number (.text ".5.")) (.text (.text "a'\\b")),
      .number (.text ".5."), .text (.text "a'\\b")] := by
    simp [formula, Formula.nodes, Formula.walk, Formula.children]
  have hplain : formula.IsPlain := by
    constructor
    · intro digits hdigits
      obtain rfl : digits = ".5." := by simpa [hnodes, formula] using hdigits
      exact ⟨'.', ['5', '.'], rfl, rfl, by simp⟩
    · intro path hpath name hname
      obtain rfl : path = ["AND", "NOT"] := by simpa [hnodes, formula] using hpath
      have hsegments : ["AND", "NOT"] ⊆ ["OR", "AND", "NOT", "TRUE", "FALSE"] := by simp
      exact isPlainName_keyword (hsegments hname)
    · intro name arguments hcall
      obtain ⟨rfl, -⟩ : name = "MAX" ∧ _ := by simpa [hnodes, formula] using hcall
      exact ⟨'M', ['A', 'X'], rfl, rfl, by simp [isPlainChar]⟩
  have hlength : 2 * (formula.words '\'').length + 1 = 31 := rfl
  refine ⟨rfl, hread, hplain, hlength.le, ?_⟩
  refine parse_written rfl ⟨_, _, _, hread⟩ hplain fun levels hlevels ↦ ?_
  obtain rfl := Option.some.inj hlevels
  exact hlength.le

end PayFormula
