import Mathlib
import PayFormula.Amount.Display
import PayFormula.Proofs.Decimal.Conservation
import PayFormula.Proofs.Decimal.Grouped
import PayFormula.Proofs.Text.Replace
import PayFormula.Proofs.Value.Normalization

/-!
# Amounts Are Shown and Read Back

An amount for readers is the rounded amount with marks between its groups of digits and a mark of the
reader's choice before its fraction.  Taking the marks out again gives the rounded amount, whatever
the two marks are, as long as they can be told apart from each other and from digits and signs.  The
mark between groups may even be a point.
-/

namespace PayFormula

/-- A character that cannot be taken for a digit or a sign of a number. -/
structure IsMark (c : Char) : Prop where
  no_digit : c.isDigit = false
  no_sign : c ≠ '-'

namespace IsMark

variable {c : Char} (h : IsMark c)
include h

theorem not_mem_digits {digits : List Char} (hdigits : ∀ d ∈ digits, d.isDigit = true) :
    c ∉ digits := fun hmem ↦ by
  have hdigit := hdigits c hmem
  rw [h.no_digit] at hdigit
  exact Bool.noConfusion hdigit

theorem not_mem_sign (negative : Bool) : c ∉ if negative then ['-'] else [] := by
  cases negative <;> simp [h.no_sign]

end IsMark

namespace Amount

/-- A numeral with marks between its groups of digits and before its fraction. -/
def shownChars (point group : Char) (n : Numeral) (groups : List (List Char)) : List Char :=
  (if n.negative then ['-'] else []) ++ [group].intercalate groups ++
    (n.magnitude.fraction?.map (point :: ·)).getD []

section Marks

variable {point group : Char} {n : Numeral} {groups : List (List Char)}

/-- Without the marks between groups, the digits stand together. -/
theorem replaceChars_group (hdistinct : point ≠ group) (hgroup : IsMark group)
    (hgroups : groups.flatten = n.magnitude.whole) :
    Text.replaceChars [group] [] (shownChars point group n groups) =
      (if n.negative then ['-'] else []) ++ n.magnitude.whole ++
        (n.magnitude.fraction?.map (point :: ·)).getD [] := by
  have hdigits : ∀ part ∈ groups, group ∉ part := fun part hpart ↦
    hgroup.not_mem_digits fun c hc ↦
      n.magnitude.whole_digits c (by rw [← hgroups]; exact List.mem_flatten_of_mem hpart hc)
  have hfraction : group ∉ (n.magnitude.fraction?.map (point :: ·)).getD [] := by
    have hmem := hgroup.not_mem_digits n.magnitude.fraction_digits
    cases hf : n.magnitude.fraction? with
    | none => simp
    | some digits => simpa [hf, hdistinct.symm] using hmem
  rw [shownChars, Text.replaceChars_append, Text.replaceChars_append,
    Text.replaceChars_eq_self (hgroup.not_mem_sign _), Text.replaceChars_intercalate hdigits,
    hgroups, Text.replaceChars_eq_self hfraction]

/-- With a point for the mark before the fraction, the numeral is as it was written. -/
theorem replaceChars_point (hpoint : IsMark point) :
    Text.replaceChars [point] ['.'] ((if n.negative then ['-'] else []) ++ n.magnitude.whole ++
        (n.magnitude.fraction?.map (point :: ·)).getD []) = n.chars := by
  have hfraction := hpoint.not_mem_digits n.magnitude.fraction_digits
  rw [Text.replaceChars_append, Text.replaceChars_append,
    Text.replaceChars_eq_self (hpoint.not_mem_sign _),
    Text.replaceChars_eq_self (hpoint.not_mem_digits n.magnitude.whole_digits), Numeral.chars,
    UnsignedNumeral.chars, List.append_assoc]
  cases hf : n.magnitude.fraction? with
  | none => rfl
  | some digits =>
    rw [hf, Option.getD_some] at hfraction
    simp only [Option.map_some, Option.getD_some, Text.replaceChars_cons_self,
      Text.replaceChars_eq_self hfraction, List.singleton_append]

end Marks

theorem round_halfUp_eq (number : Value) (decimals : ℤ) :
    round number (.int decimals) (.text "HALF_UP") =
      .ok (number.toDecimal.round .halfUp decimals.toNat).numeral.text := by
  have hmode : RoundingMode.ofText (Value.text "HALF_UP").toText = .halfUp := by decide +kernel
  rw [round_eq (n := decimals) rfl, hmode, Decimal.text_numeral]

/-- Without fraction digits there is no mark for them. -/
theorem format_eq (number : Value) (decimals : ℤ) (point group : String) :
    format number (.int decimals) (.text point) (.text group) =
      .ok (number.toDecimal.grouped decimals.toNat point group) := by
  rcases lt_or_ge 0 decimals with hpos | hnonpos
  · have hside : (Value.int decimals).sideOfZero
        (.unordered ">" (Value.int decimals).typeName "int") = .ok (some .gt) := by
      rw [Value.sideOfZero, compare_gt_iff_gt.2 hpos]
    rw [format, hside]
    rfl
  · have hplaces : decimals.toNat = 0 := Int.toNat_of_nonpos hnonpos
    have hgrouped : number.toDecimal.grouped decimals.toNat point group =
        number.toDecimal.grouped 0 "" group := by
      rw [hplaces]
      rfl
    rw [hgrouped, format]
    simp only [Value.sideOfZero]
    cases hcompare : Ord.compare decimals 0 with
    | gt => exact absurd (compare_gt_iff_gt.1 hcompare) hnonpos.not_gt
    | lt | eq => rfl

/-- A point for the mark before the fraction is put in its place even if it stands there. -/
theorem parse_eq (shown : String) (point group : Char) :
    parse (.text shown) (.text (.singleton point)) (.text (.singleton group)) =
      .ok (Decimal.ofText (Text.replace (.singleton point) "."
        (Text.replace (.singleton group) "" shown))).plain := by
  rw [parse, replacedMark, replacedMark]
  simp only [bind, Except.bind, pure, Except.pure]
  split
  · next h =>
    have hpoint : point = '.' := by simpa using congrArg String.toList h
    have hself (s : String) : Text.replace (.singleton '.') (String.ofList ['.']) s = s := by
      rw [← String.ofList_toList (s := s), Text.replace_singleton, Text.replaceChars_self]
    rw [hpoint]
    exact congrArg (fun s ↦ Except.ok (Decimal.ofText s).plain) (hself _).symm
  · rfl

/-- An amount is shown as its rounding by half up, with its whole digits in groups of three and with
the two marks of the caller.  Taking the marks out again gives back the rounding itself, and the
shown text is read as an amount of the same worth. -/
theorem format_then_parse {point group : Char} (hdistinct : point ≠ group) (hpoint : IsMark point)
    (hgroup : IsMark group) (number : Value) (decimals : ℤ) :
    ∃ (rounded amount : Numeral) (groups : List (List Char)) (shown : String),
      round number (.int decimals) (.text "HALF_UP") = .ok rounded.text ∧
      format number (.int decimals) (.text (.singleton point)) (.text (.singleton group)) =
        .ok shown ∧
      Text.replace (.singleton point) "." (Text.replace (.singleton group) "" shown) =
        rounded.text ∧
      shown.toList = shownChars point group rounded groups ∧
      groups.flatten = rounded.magnitude.whole ∧ Decimal.IsGrouped groups ∧
      parse (.text shown) (.text (.singleton point)) (.text (.singleton group)) =
        .ok amount.text ∧
      amount.worth = rounded.worth := by
  set rounded := number.toDecimal.round .halfUp decimals.toNat with hrounded
  set groups := Decimal.groupsOfThree rounded.numeral.magnitude.whole with hgroups
  set shown := number.toDecimal.grouped decimals.toNat (.singleton point) (.singleton group)
    with hshown
  have hflatten : groups.flatten = rounded.numeral.magnitude.whole :=
    Decimal.flatten_groupsOfThree _
  have hgrouped : Decimal.IsGrouped groups :=
    Decimal.isGrouped_groupsOfThree (Decimal.whole_numeral_ne_nil _)
  have hchars : shown.toList = shownChars point group rounded.numeral groups := by
    rw [hshown, Decimal.toList_grouped, String.toList_singleton, String.toList_singleton]
    rfl
  have hplain : Text.replace (.singleton point) "." (Text.replace (.singleton group) "" shown) =
      rounded.numeral.text := by
    calc
      _ = Text.replace (.singleton point) (String.ofList ['.'])
            (Text.replace (.singleton group) (String.ofList [])
              (String.ofList (shownChars point group rounded.numeral groups))) := by
        rw [← hchars, String.ofList_toList]
      _ = rounded.numeral.text := by
        rw [Text.replace_singleton, Text.replace_singleton,
          replaceChars_group hdistinct hgroup hflatten, replaceChars_point hpoint, Numeral.text]
  obtain ⟨amount, -, htext, hworth⟩ :=
    Decimal.exists_isPlain_plain (Decimal.ofText rounded.numeral.text)
  refine ⟨rounded.numeral, amount, groups, shown, round_halfUp_eq number decimals,
    format_eq number decimals _ _, hplain, hchars, hflatten, hgrouped, ?_, ?_⟩
  · rw [parse_eq, hplain, htext]
  · rw [hworth, Decimal.ofText_numeral, Decimal.toRat_ofNumeral]

/-- The point may part the groups where a comma stands before the fraction. -/
theorem format_then_parse_swapped_marks :
    ∃ (rounded amount : Numeral) (groups : List (List Char)) (shown : String),
      round (.text "-1234567.891") (.int 2) (.text "HALF_UP") = .ok rounded.text ∧
      format (.text "-1234567.891") (.int 2) (.text (.singleton ',')) (.text (.singleton '.')) =
        .ok shown ∧
      Text.replace (.singleton ',') "." (Text.replace (.singleton '.') "" shown) =
        rounded.text ∧
      shown.toList = shownChars ',' '.' rounded groups ∧
      groups.flatten = rounded.magnitude.whole ∧ Decimal.IsGrouped groups ∧
      parse (.text shown) (.text (.singleton ',')) (.text (.singleton '.')) = .ok amount.text ∧
      amount.worth = rounded.worth :=
  format_then_parse (by decide) ⟨by decide, by decide⟩ ⟨by decide, by decide⟩
    (.text "-1234567.891") 2

end Amount

end PayFormula
