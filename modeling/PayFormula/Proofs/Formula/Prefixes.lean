import Mathlib
import PayFormula.Proofs.Formula.Lookahead
import PayFormula.Proofs.Formula.Room

/-!
# Lenient Reading

A lenient reading stops where a formula ends, whatever follows it.  What it takes is a whole formula
to a strict reading too, because the readers only look at the token that follows and the end would
have done there.  A strict reading of everything either takes all that precedes the end or names the
first token that the lenient one leaves.
-/

namespace PayFormula

/-- Reading takes the first so many tokens and returns the formula. -/
def TakesFirst (cap : DepthCap) (tokens : List Token) (formula : Formula) (count : ℕ) : Prop :=
  count ≤ tokens.length ∧
    expression cap (cap.room tokens.length) 0 tokens = .ok (formula, tokens.drop count)

theorem parse_lenient_iff {cap : DepthCap} {tokens : List Token} {formula : Formula} :
    parse cap false tokens = .ok formula ↔ ∃ count, TakesFirst cap tokens formula count := by
  rw [parse_eq_ok_iff]
  constructor
  · rintro ⟨rest, hread, -⟩
    obtain ⟨⟨read, rfl, -⟩, -⟩ := (soundWithin cap _).expression hread
    refine ⟨read.length, by simp, ?_⟩
    rw [List.drop_left]
    exact hread
  · rintro ⟨count, -, hread⟩
    exact ⟨_, hread, by simp⟩

theorem parse_trailing {cap : DepthCap} {tokens rest : List Token} {formula : Formula}
    {token : Token} (hread : expression cap (cap.room tokens.length) 0 tokens =
      .ok (formula, token :: rest)) (htoken : token.lexeme ≠ .finish) :
    parse cap true tokens = .error (.trailingToken token) := by
  rw [parse, hread]
  change (if (true && token.lexeme != .finish) = true then _ else _) = _
  rw [if_pos (by simpa using htoken)]
  rfl

/-- The tokens that are taken hold no end, so they precede the last one. -/
theorem TakesFirst.exists_append {cap : DepthCap} {body : List Token} {last : Token}
    {formula : Formula} {count : ℕ} (hlast : last.lexeme = .finish)
    (h : TakesFirst cap (body ++ [last]) formula count) :
    ∃ read after, body = read ++ after ∧ count = read.length ∧
      expression cap (cap.room (body ++ [last]).length) 0 (read ++ (after ++ [last])) =
        .ok (formula, after ++ [last]) := by
  obtain ⟨hcount, hread⟩ := h
  obtain ⟨⟨read, htokens, hderives⟩, -⟩ := (soundWithin cap _).expression hread
  have hlength : (body ++ [last]).length = read.length + ((body ++ [last]).length - count) := by
    rw [← List.length_drop, ← List.length_append, ← htokens]
  have hformula : Derives .disjunction (read.map Token.lexeme) formula := hderives
  obtain ⟨after, rfl, hrest⟩ := exists_append_of_finish hlast hformula.finish_notMem htokens
  rw [hrest] at hread
  refine ⟨read, after, rfl, by omega, ?_⟩
  rwa [← List.append_assoc]

/-- What is read from tokens with others after them is the whole formula when the end follows. -/
theorem parse_taken {cap : DepthCap} {count : ℕ} {read rest : List Token} {formula : Formula}
    (hcount : read.length < count)
    (hread : expression cap (cap.room count) 0 (read ++ rest) = .ok (formula, rest))
    {finish : Token} (hfinish : finish.lexeme = .finish) :
    parse cap true (read ++ [finish]) = .ok formula := by
  obtain ⟨read', htokens, hreread⟩ := (looksWithin cap _).expression 0 hread
  obtain rfl := List.append_cancel_right htokens
  have hahead : Ahead rest [finish] := .inr hfinish
  have htaken := hreread (respells_of_map_lexeme rfl) hahead
  rw [expression_room_eq cap (by simpa using hcount)] at htaken
  exact parse_eq_ok_iff.2 ⟨[finish], htaken, fun _ ↦ hfinish⟩

/-- What a strict reading returns, a lenient one does; and what a lenient one takes is the whole
formula to a strict one, which either takes all that precedes the end or names the next token. -/
theorem lenient_takes_what_strict_takes {cap : DepthCap} {body : List Token} {last : Token}
    (hbody : ∀ token ∈ body, token.lexeme ≠ .finish) (hlast : last.lexeme = .finish) :
    (∀ formula, parse cap true (body ++ [last]) = .ok formula →
      parse cap false (body ++ [last]) = .ok formula) ∧
    (∀ formula, parse cap false (body ++ [last]) = .ok formula ↔
      ∃ count, TakesFirst cap (body ++ [last]) formula count) ∧
    ∀ formula count, TakesFirst cap (body ++ [last]) formula count →
      count ≤ body.length ∧
      (∀ finish : Token, finish.lexeme = .finish →
        parse cap true (body.take count ++ [finish]) = .ok formula) ∧
      (count = body.length ∧ parse cap true (body ++ [last]) = .ok formula ∨
        ∃ token, body[count]? = some token ∧
          parse cap true (body ++ [last]) = .error (.trailingToken token)) := by
  refine ⟨?_, fun _ ↦ parse_lenient_iff, ?_⟩
  · intro formula h
    obtain ⟨rest, hread, -⟩ := parse_eq_ok_iff.1 h
    exact parse_eq_ok_iff.2 ⟨rest, hread, by simp⟩
  · intro formula count h
    obtain ⟨read, after, rfl, rfl, hread⟩ := h.exists_append hlast
    refine ⟨by simp, fun finish hfinish ↦ ?_, ?_⟩
    · rw [List.take_left]
      exact parse_taken (by simp) hread hfinish
    · rw [← List.append_assoc] at hread
      cases after with
      | nil =>
        refine .inl ⟨by simp, parse_eq_ok_iff.2 ⟨[last], hread, fun _ ↦ hlast⟩⟩
      | cons token after =>
        refine .inr ⟨token, by simp, parse_trailing hread (hbody token (by simp))⟩

/-- `a . b ( 1`, of which the path is taken and the parenthesis is named. -/
theorem lenient_takes_what_strict_takes_path :
    let body : List Token :=
      [⟨.name "A", 0⟩, ⟨.dot, 2⟩, ⟨.name "B", 4⟩, ⟨.leftParen, 6⟩, ⟨.number "1", 8⟩]
    let last : Token := ⟨.finish, 9⟩
    let path : Formula := .variable ["A", "B"]
    (∀ token ∈ body, token.lexeme ≠ .finish) ∧ last.lexeme = .finish ∧
      TakesFirst (.ofInt 1) (body ++ [last]) path 3 ∧
      parse (.ofInt 1) false (body ++ [last]) = .ok path ∧
      parse (.ofInt 1) true (body.take 3 ++ [last]) = .ok path ∧
      parse (.ofInt 1) true (body ++ [last]) = .error (.trailingToken ⟨.leftParen, 6⟩) := by
  intro body last path
  have hbody : ∀ token ∈ body, token.lexeme ≠ .finish := by simp [body]
  have htakes : TakesFirst (.ofInt 1) (body ++ [last]) path 3 := ⟨by decide, rfl⟩
  obtain ⟨-, hlenient, htaken⟩ := @lenient_takes_what_strict_takes (.ofInt 1) body last hbody rfl
  obtain ⟨-, hstrict, ⟨hcount, -⟩ | ⟨token, htoken, hfault⟩⟩ := htaken path 3 htakes
  · exact absurd hcount (by decide)
  · obtain rfl := Option.some.inj htoken
    exact ⟨hbody, rfl, htakes, (hlenient path).2 ⟨3, htakes⟩, hstrict last rfl, hfault⟩

end PayFormula
