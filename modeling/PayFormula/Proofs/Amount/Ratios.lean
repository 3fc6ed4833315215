import Mathlib
import PayFormula.Proofs.Amount.Arithmetic
import PayFormula.Proofs.Decimal.Ratios

/-!
# Percentages and Proration

A percentage of an amount and the part of it for some days or hours of a period are both the amount
times a ratio, and the ratio is cut at the scale before it is applied.  The results are never
farther from zero than the exact product, they fall short of it by less than one step of the last
digit for each unit of the amount and one more, and they are exact to the last digit kept where the
ratio has no further digits.  A change in percent is a hundred times a ratio that was cut.

A rate with further digits is therefore not the rate that is taken: amounts that are large enough
show it, and a percentage of them is not their product with the rate by a hundred.
-/

namespace PayFormula

namespace Decimal

theorem isTrimmed_of_percentChangeAt?_eq_some {scale : ℕ} {old new d : Decimal}
    (h : percentChangeAt? scale old new = some d) : d.IsTrimmed := by
  rw [percentChangeAt?, Option.ite_none_left_eq_some, Option.some_inj] at h
  exact h.2 ▸ isTrimmed_scaled _ _

theorem isTrimmed_prorateDaysAt (scale : ℕ) (amount worked total : Decimal) :
    (prorateDaysAt scale amount worked total).IsTrimmed := by
  rw [prorateDaysAt]
  split
  · exact isTrimmed_ofInt 0
  · exact isTrimmed_scaled _ _

theorem isTrimmed_prorateHoursAt (scale : ℕ) (amount worked total : Decimal) :
    (prorateHoursAt scale amount worked total).IsTrimmed := by
  rw [prorateHoursAt]
  split
  · exact isTrimmed_ofInt 0
  · exact isTrimmed_scaled _ _

/-! ## Days as text -/

theorem unsignedChars_zero (n : ℕ) : unsignedChars n 0 = Nat.toDigits 10 n := by
  rw [unsignedChars, if_pos rfl, List.append_nil, tenTo_eq, pow_zero, Nat.div_one]

/-- The text of an integer is that of the number without places. -/
theorem toText_int (n : ℤ) : (Value.int n).toText = (ofInt n).fixed := by
  have hshown : (Value.int n).toText = n.repr := rfl
  have hplaces : (ofInt n).places = 0 := rfl
  rw [hshown, fixed, fixedChars, hplaces, unsignedChars_zero, String.ofList_append]
  cases n with
  | ofNat m =>
    have hsign : (ofInt (.ofNat m)).isNegative = false :=
      decide_eq_false (Int.natCast_nonneg m).not_gt
    rw [hsign]
    rfl
  | negSucc m =>
    have hsign : (ofInt (.negSucc m)).isNegative = true := decide_eq_true (Int.negSucc_lt_zero m)
    rw [hsign]
    rfl

theorem ofText_toText_int (n : ℤ) : ofText (Value.int n).toText = ofInt n := by
  rw [toText_int, ofText_fixed]

end Decimal

namespace Amount

/-! ## Amounts times ratios -/

/-- The operation succeeds with the canonical text of an amount times a ratio, where the ratio is
cut before it is applied and the product after it.  The other conditions say what this leaves of the
exact product. -/
def GivesPart (scale : Option ℤ) (result : Except Fault String) (amount ratio : ℚ) : Prop :=
  ∃ q, Gives result q ∧ q = cutAt scale (amount * cutAt scale ratio) ∧
    q ∈ Set.uIcc 0 (cutAt scale (amount * ratio)) ∧
    |amount * ratio - q| < (|amount| + 1) / 10 ^ placesOf scale ∧
    (Exact.OnGrid (placesOf scale) ratio → q = cutAt scale (amount * ratio))

variable {scale : Option ℤ} {result : Except Fault String} {amount ratio : ℚ}

theorem givesPart_of_gives (h : Gives result (cutAt scale (amount * cutAt scale ratio))) :
    GivesPart scale result amount ratio := by
  refine ⟨_, h, rfl, ?_, ?_, ?_⟩
  · exact Exact.cut_mul_cut_mem_uIcc _ _ _
  · exact Exact.abs_mul_sub_cut_mul_cut_lt _ _ _
  · intro hgrid
    rw [cutAt, cutAt, cutAt, hgrid.cut_eq]

/-- The whole of an amount is cut once. -/
theorem GivesPart.gives_whole (h : GivesPart scale result amount 1) :
    Gives result (cutAt scale amount) := by
  obtain ⟨q, hq, -, -, -, hexact⟩ := h
  rwa [hexact (Exact.onGrid_one _), mul_one] at hq

/-! ## Percentages -/

theorem percent_gives (value rate : Value) (scale : Option ℤ) :
    GivesPart scale (percent value rate (scaleOf scale)) (numberOf value)
      (numberOf rate / 100) := by
  apply givesPart_of_gives
  rw [percent, quotientPlaces_scaleOf]
  exact gives_plain (Decimal.isTrimmed_scaled _ _) (Decimal.toRat_percentAt _ _ _)

/-- A rate gives the percentage of every amount, cut once, exactly if it is not cut itself. -/
theorem percent_exact_iff (rate : Value) (scale : Option ℤ) :
    (∀ value, Gives (percent value rate (scaleOf scale))
      (cutAt scale (numberOf value * (numberOf rate / 100)))) ↔
      Exact.OnGrid (placesOf scale) (numberOf rate / 100) := by
  constructor
  · intro hexact
    apply Exact.onGrid_of_forall_cut
    intro n
    obtain ⟨q, hgives, hcut, -⟩ := percent_gives (.int n) rate scale
    have hnumber : numberOf (.int n) = n := Decimal.toRat_ofInt n
    have hsame := hgives.unique (hexact (.int n))
    rwa [hcut, hnumber] at hsame
  · intro hgrid value
    obtain ⟨q, hgives, -, -, -, heq⟩ := percent_gives value rate scale
    exact heq hgrid ▸ hgives

/-- A tax on a net amount is a percentage of it. -/
theorem taxFromNet_gives (net rate : Value) (scale : Option ℤ) :
    GivesPart scale (taxFromNet net rate (scaleOf scale)) (numberOf net) (numberOf rate / 100) :=
  percent_gives net rate scale

theorem percentChange_gives (old new : Value) (scale : Option ℤ) :
    GivesUnless (cutAt scale (numberOf old)) (percentChange old new (scaleOf scale))
      (Exact.percentChange (placesOf scale) (numberOf new - numberOf old) (numberOf old)) := by
  rw [percentChange, quotientPlaces_scaleOf]
  apply givesUnless_map_plain
  · intro change hchange
    exact Decimal.isTrimmed_of_percentChangeAt?_eq_some hchange
  · exact Decimal.percentChangeAt?_eq _ _ _

/-- What percentages come to in place of the product with the rate: the rate by a hundred is cut
before an amount is multiplied by it, and so a percentage is right for every amount exactly if that
rate has no further digits.  A change in percent is missing exactly when the old amount counts as
zero; otherwise it is a hundred times the ratio of the cut difference to the old amount, cut as
well.  That is not farther from zero than the exact change and falls short of it by less than
`100 * (1 / |old| + 1)` steps of the last digit.  It is exact where neither the difference nor the
ratio has further digits; and where the difference has none it is the exact change, cut once,
exactly if the last two digits of that are zeros. -/
theorem percentages_cut_ratio_first (value rate old new : Value) (scale : Option ℤ) :
    GivesPart scale (percent value rate (scaleOf scale)) (numberOf value)
      (numberOf rate / 100) ∧
    GivesPart scale (taxFromNet value rate (scaleOf scale)) (numberOf value)
      (numberOf rate / 100) ∧
    ((∀ amount, Gives (percent amount rate (scaleOf scale))
      (cutAt scale (numberOf amount * (numberOf rate / 100)))) ↔
      Exact.OnGrid (placesOf scale) (numberOf rate / 100)) ∧
    let difference := numberOf new - numberOf old
    let change := difference / numberOf old * 100
    let kept := 100 * cutAt scale (cutAt scale difference / numberOf old)
    GivesUnless (cutAt scale (numberOf old)) (percentChange old new (scaleOf scale)) kept ∧
    kept ∈ Set.uIcc 0 (cutAt scale change) ∧
    |change - kept| < 100 * (1 / |numberOf old| + 1) / 10 ^ placesOf scale ∧
    (Exact.OnGrid (placesOf scale) difference →
      Exact.OnGrid (placesOf scale) (difference / numberOf old) → kept = change) ∧
    (Exact.OnGrid (placesOf scale) difference →
      (kept = cutAt scale change ↔
        Exact.OnGrid (placesOf scale) (cutAt scale change / 100))) := by
  refine ⟨percent_gives value rate scale, taxFromNet_gives value rate scale,
    percent_exact_iff rate scale, ?_, ?_, ?_, ?_, ?_⟩
  · exact percentChange_gives old new scale
  · exact Exact.percentChange_mem_uIcc _ _ _
  · exact Exact.abs_sub_percentChange_lt _ _ _
  · intro hdifference hratio
    exact Exact.percentChange_eq hdifference hratio
  · intro hdifference
    exact Exact.percentChange_eq_cut_iff hdifference

/-- Half a percent of a thousand is five, but nothing is left of the rate at a scale of two.  Nor is
the third kept by which four is more than three. -/
theorem percentages_lose_digits :
    percent (.text "1000") (.text "0.5") (.int 2) = .ok "0" ∧
    cutAt (some 2) (numberOf (.text "1000") * numberOf (.text "0.5") / 100) = 5 ∧
    numberOf (.text "0") ≠ 5 ∧
    percentChange (.text "3") (.text "4") (.int 2) = .ok (some "33") ∧
    cutAt (some 2) ((numberOf (.text "4") - numberOf (.text "3")) / numberOf (.text "3") * 100) =
      3333 / 100 ∧
    numberOf (.text "33") ≠ 3333 / 100 :=
  ⟨rfl, by decide +kernel, by decide +kernel, rfl, by decide +kernel, by decide +kernel⟩

/-! ## Proration -/

theorem prorateDays_gives (amount : Value) (worked : ℤ) {total : ℤ} (h : 0 < total)
    (scale : Option ℤ) :
    GivesPart scale (prorateDays amount (.int worked) (.int total) (scaleOf scale))
      (numberOf amount) (worked / total) := by
  have hside (otherwise : DataFault) :
      (Value.int total).sideOfZero otherwise = .ok (some .gt) := by
    rw [Value.sideOfZero, compare_gt_iff_gt.2 h]
  apply givesPart_of_gives
  rw [prorateDays, hside]
  simp only [bind, Except.bind, Decimal.ofText_toText_int, quotientPlaces_scaleOf]
  exact gives_plain (Decimal.isTrimmed_prorateDaysAt _ _ _ _)
    (Decimal.toRat_prorateDaysAt _ _ worked h)

/-- The hours of a period must not count as zero, neither by themselves nor as a divisor. -/
theorem prorateHours_gives (amount worked : Value) {total : Value}
    (hhours : Exact.cut 6 (numberOf total) ≠ 0) (hdivisor : cutAt scale (numberOf total) ≠ 0) :
    GivesPart scale (prorateHours amount worked total (scaleOf scale)) (numberOf amount)
      (numberOf worked / numberOf total) := by
  have hpresent : ¬total.toDecimal.isZeroAt Decimal.hourScale = true :=
    mt (Decimal.isZeroAt_iff _ _).1 hhours
  apply givesPart_of_gives
  simp only [prorateHours, if_neg hpresent, quotientPlaces_scaleOf]
  exact gives_plain (Decimal.isTrimmed_prorateHoursAt _ _ _ _)
    (Decimal.toRat_prorateHoursAt _ _ hhours hdivisor)

/-- Proration multiplies an amount by the ratio of the period worked, cut at the scale, so a full
period gives the amount cut once.  Hours are compared with zero twice, after six digits and as a
divisor. -/
theorem proration_cuts_ratio_first (amount : Value) (scale : Option ℤ) :
    (∀ worked total : ℤ, 0 < total →
      GivesPart scale (prorateDays amount (.int worked) (.int total) (scaleOf scale))
        (numberOf amount) (worked / total)) ∧
    (∀ total : ℤ, 0 < total →
      Gives (prorateDays amount (.int total) (.int total) (scaleOf scale))
        (cutAt scale (numberOf amount))) ∧
    (∀ worked total : Value, Exact.cut 6 (numberOf total) ≠ 0 → cutAt scale (numberOf total) ≠ 0 →
      GivesPart scale (prorateHours amount worked total (scaleOf scale)) (numberOf amount)
        (numberOf worked / numberOf total)) ∧
    (∀ total : Value, Exact.cut 6 (numberOf total) ≠ 0 → cutAt scale (numberOf total) ≠ 0 →
      Gives (prorateHours amount total total (scaleOf scale)) (cutAt scale (numberOf amount))) := by
  refine ⟨?_, ?_, ?_, ?_⟩
  · intro worked total h
    exact prorateDays_gives amount worked h scale
  · intro total h
    have hpart := prorateDays_gives amount total h scale
    rw [div_self (by exact_mod_cast h.ne')] at hpart
    exact hpart.gives_whole
  · intro worked total hhours hdivisor
    exact prorateHours_gives amount worked hhours hdivisor
  · intro total hhours hdivisor
    have hpart := prorateHours_gives amount total hhours hdivisor
    have hne : numberOf total ≠ 0 := by
      intro hzero
      rw [hzero, Exact.cut_zero] at hhours
      exact hhours rfl
    rw [div_self hne] at hpart
    exact hpart.gives_whole

/-- Ten of thirty days of three thousand, and eighty of a hundred and sixty hours. -/
theorem proration_cuts_ratio_first_month :
    Gives (prorateDays (.text "3000") (.int 10) (.int 30) (.int 2)) 990 ∧
    Exact.cut 6 (numberOf (.text "160")) ≠ 0 ∧ cutAt (some 2) (numberOf (.text "160")) ≠ 0 ∧
    Gives (prorateHours (.text "1600") (.text "80") (.text "160") (.int 2)) 800 := by
  have hhours : Exact.cut 6 (numberOf (.text "160")) ≠ 0 := by decide +kernel
  have hdivisor : cutAt (some 2) (numberOf (.text "160")) ≠ 0 := by decide +kernel
  obtain ⟨hdays, -⟩ := proration_cuts_ratio_first (.text "3000") (some 2)
  obtain ⟨-, -, hpart, -⟩ := proration_cuts_ratio_first (.text "1600") (some 2)
  obtain ⟨days, hgives, hworth, -⟩ := hdays 10 30 (by decide)
  obtain ⟨hours, hgives', hworth', -⟩ := hpart (.text "80") (.text "160") hhours hdivisor
  have hdays' : days = 990 := hworth.trans (by decide +kernel)
  have hhours' : hours = 800 := hworth'.trans (by decide +kernel)
  exact ⟨hdays' ▸ hgives, hhours, hdivisor, hhours' ▸ hgives'⟩

/-- Ten of thirty days are not a third of the amount, although the third is a whole number.  Where
half an hour is cut to zero it is no full period. -/
theorem proration_loses_third :
    prorateDays (.text "3000") (.int 10) (.int 30) (.int 2) = .ok "990" ∧
    cutAt (some 2) (numberOf (.text "3000") * 10 / 30) = 1000 ∧ numberOf (.text "990") ≠ 1000 ∧
    Exact.cut 6 (numberOf (.text "0.5")) ≠ 0 ∧
    prorateHours (.text "100") (.text "0.5") (.text "0.5") (.int 0) = .ok "0" ∧
    cutAt (some 0) (numberOf (.text "100") * numberOf (.text "0.5") / numberOf (.text "0.5")) =
      100 ∧
    numberOf (.text "0") ≠ 100 :=
  ⟨rfl, by decide +kernel, by decide +kernel, by decide +kernel, rfl, by decide +kernel,
    by decide +kernel⟩

end Amount

end PayFormula
