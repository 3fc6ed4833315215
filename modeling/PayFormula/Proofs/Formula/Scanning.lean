import Mathlib
import PayFormula.Proofs.Formula.Boundaries

/-!
# Tokens by Index

A text can also be cut by loops that look at the character with an index and move the index on.
Each round of a loop takes one step of fuel, and without fuel there is no outcome: a loop that did
not move its index would use up any amount.  Every loop does move it, and at the end of the text it
finds no character to look at.  So with a step for each character and two more every scan ends, with
the tokens or the fault that are found from the characters that are left.
-/

namespace PayFormula

open Text

namespace Scanning

/-! ## Scans -/

/-- The first index, from the given one on, whose character has not the property. -/
def skipWhile (p : Char → Bool) (cs : List Char) : (fuel index : ℕ) → Option ℕ
  | 0, _ => none
  | fuel + 1, index =>
    match cs[index]? with
    | none => some index
    | some c => if p c then skipWhile p cs fuel (index + 1) else some index

/-- The content of a quoted text from the index on, and the index behind its closing quote; there
may be no such quote. -/
def quotedFrom (quote : Char) (cs : List Char) :
    (fuel index : ℕ) → Option (Option (List Char × ℕ))
  | 0, _ => none
  | fuel + 1, index =>
    match cs[index]? with
    | none => some none
    | some c =>
      if c = quote then some (some ([], index + 1))
      else
        match if c = '\\' then cs[index + 1]? else none with
        | some d => do
          let found ← quotedFrom quote cs fuel (index + 2)
          return found.map fun (content, stop) ↦ (d :: content, stop)
        | none => do
          let found ← quotedFrom quote cs fuel (index + 1)
          return found.map fun (content, stop) ↦ (c :: content, stop)

/-- The lexeme that begins with the character at the index, and the index behind it. -/
def lexemeFrom (cs : List Char) (fuel index : ℕ) (c : Char) :
    Option (Except SyntaxFault (Lexeme × ℕ)) :=
  if isDigitLike c || (c == '.' && cs[index + 1]?.any isDigitLike) then do
    let stop ← skipWhile isNumberChar cs fuel index
    return .ok (.number (String.ofList (cs.extract index stop)), stop)
  else if isQuote c then do
    match ← quotedFrom c cs fuel (index + 1) with
    | some (content, stop) => return .ok (.text (String.ofList content), stop)
    | none => return .error (.unterminatedText index)
  else if isNameStart c then do
    let stop ← skipWhile isNameChar cs fuel index
    return .ok (.name (upper (String.ofList (cs.extract index stop))), stop)
  else
    match cs[index + 1]?.bind (doubledOperator? c) with
    | some operator => some (.ok (.operator operator, index + 2))
    | none =>
      match singleLexeme? c with
      | some lexeme => some (.ok (lexeme, index + 1))
      | none => some (.error (.unexpectedCharacter c index))

/-- The tokens from the index on. -/
def tokensAt (cs : List Char) : (fuel index : ℕ) → Option (Except SyntaxFault (List Token))
  | 0, _ => none
  | fuel + 1, index =>
    match cs[index]? with
    | none => some (.ok [⟨.finish, index⟩])
    | some c =>
      if isBlank c then do tokensAt cs fuel (← skipWhile isBlank cs fuel index)
      else do
        match ← lexemeFrom cs fuel index c with
        | .error cause => return .error cause
        | .ok (lexeme, stop) =>
          let tokens ← tokensAt cs fuel stop
          return tokens.map (⟨lexeme, index⟩ :: ·)

def tokenize (s : String) (fuel : ℕ) : Option (Except SyntaxFault (List Token)) :=
  tokensAt s.toList fuel 0

end Scanning

/-! ## Indices and what is left -/

section Left

variable {α : Type} {xs rest : List α} {index : ℕ} {x : α}

theorem getElem?_of_drop_eq_nil (h : xs.drop index = []) : xs[index]? = none := by
  rw [← List.head?_drop, h]
  rfl

theorem getElem?_of_drop_eq_cons (h : xs.drop index = x :: rest) : xs[index]? = some x := by
  rw [← List.head?_drop, h]
  rfl

theorem drop_add_of_drop_eq_append {front : List α} (h : xs.drop index = front ++ rest) :
    xs.drop (index + front.length) = rest := by
  rw [← List.drop_drop, h, List.drop_left]

theorem drop_succ_of_drop_eq_cons (h : xs.drop index = x :: rest) : xs.drop (index + 1) = rest := by
  rw [← List.tail_drop, h]
  rfl

theorem extract_of_drop_eq_append {front : List α} (h : xs.drop index = front ++ rest) :
    xs.extract index (index + front.length) = front := by
  rw [List.extract_eq_take_drop, h, Nat.add_sub_cancel_left, List.take_left]

end Left

/-! ## Single tokens -/

section Scans

variable {cs rest : List Char} {fuel index : ℕ} {c : Char}

/-- A loop passes the characters that are taken from the front. -/
theorem skipWhile_eq (p : Char → Bool) (h : cs.drop index = rest) (hfuel : rest.length < fuel) :
    Scanning.skipWhile p cs fuel index = some (index + (rest.takeWhile p).length) := by
  induction fuel generalizing index rest with
  | zero => exact absurd hfuel (Nat.not_lt_zero _)
  | succ fuel ih =>
    rw [Scanning.skipWhile]
    rcases rest with _ | ⟨c, rest⟩
    · rw [getElem?_of_drop_eq_nil h]
      rfl
    rw [getElem?_of_drop_eq_cons h]
    dsimp only
    split
    · next hc =>
      rw [ih (drop_succ_of_drop_eq_cons h) (Nat.lt_of_succ_lt_succ hfuel),
        List.takeWhile_cons_of_pos hc, List.length_cons, Nat.add_assoc, Nat.add_comm 1]
    · next hc =>
      rw [List.takeWhile_cons_of_neg hc]
      rfl

/-- The characters that a loop passes from the first one on. -/
theorem extract_skipped {p : Char → Bool} (hc : p c = true) (h : cs.drop index = c :: rest) :
    cs.extract index (index + ((c :: rest).takeWhile p).length) = c :: rest.takeWhile p := by
  have hsplit : cs.drop index = (c :: rest).takeWhile p ++ (c :: rest).dropWhile p := by
    rw [List.takeWhile_append_dropWhile, h]
  rw [extract_of_drop_eq_append hsplit, List.takeWhile_cons_of_pos hc]

theorem quotedFrom_of_nil (quote : Char) (h : cs.drop index = []) (hfuel : 0 < fuel) :
    Scanning.quotedFrom quote cs fuel index = some none := by
  obtain ⟨fuel, rfl⟩ := Nat.exists_eq_add_one.2 hfuel
  rw [Scanning.quotedFrom, getElem?_of_drop_eq_nil h]

theorem quotedFrom_eq (quote : Char) (h : cs.drop index = rest) (hfuel : rest.length < fuel) :
    Scanning.quotedFrom quote cs fuel index =
      some ((quotedContent? quote rest).map fun read ↦ (read.1, index + read.2)) := by
  induction fuel generalizing index rest with
  | zero => exact absurd hfuel (Nat.not_lt_zero _)
  | succ fuel ih =>
  cases rest using quotedContent?.fun_cases quote with
  | case1 => exact quotedFrom_of_nil quote h hfuel
  | case2 | case4 =>
    rw [Scanning.quotedFrom, getElem?_of_drop_eq_cons h]
    dsimp only
    rw [if_pos rfl, quotedContent?_quote]
    rfl
  | case3 c hc =>
    -- Even a backslash takes no next character when it is the last one.
    have hnext := drop_succ_of_drop_eq_cons h
    have hleft := Nat.lt_of_succ_lt_succ hfuel
    rw [Scanning.quotedFrom, getElem?_of_drop_eq_cons h]
    dsimp only
    rw [if_neg hc, getElem?_of_drop_eq_nil hnext, ite_self, quotedFrom_of_nil quote hnext hleft]
    simp [quotedContent?, hc]
  | case5 d rest hc =>
    have hnext := drop_succ_of_drop_eq_cons h
    have hleft := Nat.lt_of_succ_lt (Nat.lt_of_succ_lt_succ hfuel)
    rw [Scanning.quotedFrom, getElem?_of_drop_eq_cons h]
    dsimp only
    rw [if_neg hc, if_pos rfl, getElem?_of_drop_eq_cons hnext]
    dsimp only
    rw [ih (drop_succ_of_drop_eq_cons hnext) hleft, quotedContent?_escaped (Ne.symm hc)]
    rcases quotedContent? quote rest with _ | ⟨content, length⟩
    · rfl
    · simp [Nat.add_assoc, Nat.add_comm 2]
  | case6 c d rest hc hslash =>
    rw [Scanning.quotedFrom, getElem?_of_drop_eq_cons h]
    dsimp only
    rw [if_neg hc, if_neg hslash]
    dsimp only
    rw [ih (drop_succ_of_drop_eq_cons h) (Nat.lt_of_succ_lt_succ hfuel),
      quotedContent?_plain hc hslash]
    rcases quotedContent? quote (d :: rest) with _ | ⟨content, length⟩
    · rfl
    · simp [Nat.add_assoc, Nat.add_comm 1]

theorem lexemeFrom_eq (h : cs.drop index = c :: rest) (hfuel : (c :: rest).length < fuel) :
    Scanning.lexemeFrom cs fuel index c =
      some ((lexemeAt index c rest).map fun read ↦ (read.1, index + read.2)) := by
  have hnext := drop_succ_of_drop_eq_cons h
  have hhead : cs[index + 1]? = rest.head? := by
    rw [← List.head?_drop, hnext]
  unfold Scanning.lexemeFrom lexemeAt
  rw [hhead]
  change (if startsNumber c rest = true then _ else _) = _
  split
  · next hnumber =>
    rw [skipWhile_eq isNumberChar h hfuel]
    change some (Except.ok (Lexeme.number (String.ofList (cs.extract index _)), _)) = _
    have hc := isNumberChar_of_startsNumber hnumber
    rw [extract_skipped hc h, List.takeWhile_cons_of_pos hc]
    rfl
  split
  · rw [quotedFrom_eq c hnext (Nat.lt_of_succ_lt hfuel)]
    rcases quotedContent? c rest with _ | ⟨content, length⟩
    · rfl
    · simp [Nat.add_assoc, Nat.add_comm 1, Except.map]
  split
  · next hname =>
    rw [skipWhile_eq isNameChar h hfuel]
    change some (Except.ok (Lexeme.name (upper (String.ofList (cs.extract index _))), _)) = _
    have hc := isNameChar_of_isNameStart hname
    rw [extract_skipped hc h, List.takeWhile_cons_of_pos hc]
    rfl
  · rcases rest.head?.bind (doubledOperator? c) with _ | operator
    · rcases singleLexeme? c <;> rfl
    · rfl

/-! ## Whole texts -/

/-- Blanks are passed all at once. -/
theorem tokensAt_of_isBlank (hblank : isBlank c = true) (h : cs.drop index = c :: rest)
    (hfuel : (c :: rest).length < fuel) :
    ∃ blanks after, c :: rest = blanks ++ after ∧ blanks ≠ [] ∧
      (∀ d ∈ blanks, isBlank d = true) ∧
      Scanning.tokensAt cs (fuel + 1) index =
        Scanning.tokensAt cs fuel (index + blanks.length) := by
  refine ⟨_, _, List.takeWhile_append_dropWhile.symm, ?_, fun d hd ↦ List.mem_takeWhile_imp hd, ?_⟩
  · rw [List.takeWhile_cons_of_pos hblank]
    exact List.cons_ne_nil _ _
  · conv_lhs => rw [Scanning.tokensAt, getElem?_of_drop_eq_cons h]
    dsimp only
    rw [if_pos hblank, skipWhile_eq isBlank h hfuel]
    rfl

/-- Every round of the loop leaves fewer characters. -/
theorem tokensAt_eq (h : cs.drop index = rest) (hfuel : rest.length + 1 < fuel) :
    Scanning.tokensAt cs fuel index = some (tokensFrom 0 index rest) := by
  induction fuel generalizing index rest with
  | zero => exact absurd hfuel (Nat.not_lt_zero _)
  | succ fuel ih =>
  have hloops := Nat.lt_of_succ_lt_succ hfuel
  rcases rest with _ | ⟨c, rest⟩
  · rw [Scanning.tokensAt, getElem?_of_drop_eq_nil h]
    rfl
  rcases Bool.eq_false_or_eq_true (isBlank c) with hblank | hblank
  · obtain ⟨blanks, after, hsplit, hne, hblanks, hscan⟩ := tokensAt_of_isBlank hblank h hloops
    rw [hsplit] at h hloops ⊢
    have hpos := List.length_pos_of_ne_nil hne
    rw [List.length_append] at hloops
    rw [hscan, ih (drop_add_of_drop_eq_append h) (by omega), tokensFrom_blanks hblanks]
  · have hnot : ¬isBlank c = true := by simp [hblank]
    rw [Scanning.tokensAt, getElem?_of_drop_eq_cons h]
    dsimp only
    rw [if_neg hnot, lexemeFrom_eq h hloops]
    rcases hlexeme : lexemeAt index c rest with cause | ⟨lexeme, length⟩
    · rw [tokensFrom, if_neg hnot, hlexeme]
      rfl
    · obtain ⟨source, after, rfl, rfl, hread⟩ := isRead_of_lexemeAt hlexeme
      rw [List.length_cons, List.length_append] at hloops
      rw [← List.cons_append] at h
      have hafter := ih (drop_add_of_drop_eq_append h) (by omega)
      change (Scanning.tokensAt cs fuel (index + (c :: source).length) >>= _) = _
      rw [hafter, ← List.cons_append, hread.tokensFrom_eq]
      rfl

end Scans

/-- Every scan ends, and it finds what is found from the characters that are left. -/
theorem scanning_tokenize_eq {s : String} {fuel : ℕ} (hfuel : s.length + 1 < fuel) :
    Scanning.tokenize s fuel = some (tokenize s) :=
  tokensAt_eq rfl hfuel

end PayFormula
