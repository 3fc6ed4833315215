import Mathlib
import PayFormula.Proofs.Amount.Power
import PayFormula.Proofs.Amount.Ratios

/-!
# Net, Tax and Gross Amounts

A gross amount is a net amount times one plus the rate, the tax is the net amount times the rate,
and both use the same rate, cut at the scale.  A net amount on the grid of the scale moves a cut by
a whole number of steps, so the gross amount is the sum of net and tax to the last digit.  Going
back from gross to net divides by a factor of at least one, which makes the digits that were cut off
smaller, so at most one step of the last digit is lost on the way, and none where the gross amount
was not cut.
-/

namespace PayFormula

namespace Exact

variable {places : ℕ} {q net factor fraction : ℚ}

/-- A number on the grid moves a cut by whole steps, if it does not lead through zero. -/
theorem cut_add_of_onGrid (hnet : OnGrid places net) (h : 0 ≤ net) (hq : 0 ≤ q) :
    cut places (net + q) = net + cut places q := by
  obtain ⟨steps, rfl⟩ := hnet
  have hunit : (10 : ℚ) ^ places ≠ 0 := by positivity
  have hsum : (steps / 10 ^ places + q) * 10 ^ places = steps + q * 10 ^ places := by
    rw [add_mul, div_mul_cancel₀ _ hunit]
  have hsteps : (0 : ℚ) ≤ steps + q * 10 ^ places := by
    rw [← hsum]
    positivity
  rw [cut, cut, hsum, towardZero_of_nonneg hsteps, towardZero_of_nonneg (by positivity),
    Int.floor_intCast_add, Int.cast_add, add_div]

/-- One time a number on the grid and a further part of it is the number and the part, cut. -/
theorem cut_mul_one_add (hnet : OnGrid places net) (hfraction : 0 ≤ fraction) :
    cut places (net * (1 + fraction)) = net + cut places (net * fraction) := by
  have hpositive {net : ℚ} (hnet : OnGrid places net) (h : 0 ≤ net) :
      cut places (net * (1 + fraction)) = net + cut places (net * fraction) := by
    rw [mul_add, mul_one]
    exact cut_add_of_onGrid hnet h (mul_nonneg h hfraction)
  rcases le_total 0 net with h | h
  · exact hpositive hnet h
  · have hmirror := hpositive hnet.neg (neg_nonneg.2 h)
    simp only [neg_mul, cut_neg] at hmirror
    linarith

/-! ## There and back -/

/-- A number multiplied by a factor and divided by it again, with a cut after each step. -/
def thereAndBack (places : ℕ) (factor net : ℚ) : ℚ :=
  cut places (cut places (net * factor) / factor)

theorem thereAndBack_neg (places : ℕ) (factor net : ℚ) :
    thereAndBack places factor (-net) = -thereAndBack places factor net := by
  rw [thereAndBack, neg_mul, cut_neg, neg_div, cut_neg, thereAndBack]

theorem abs_thereAndBack_le (hfactor : factor ≠ 0) : |thereAndBack places factor net| ≤ |net| := by
  have hbetween := cut_cut_div_mem_uIcc places (net * factor) factor
  rw [mul_div_cancel_right₀ _ hfactor] at hbetween
  simpa [thereAndBack] using Set.abs_sub_left_of_mem_uIcc hbetween

theorem thereAndBack_nonneg (hfactor : 0 ≤ factor) (h : 0 ≤ net) :
    0 ≤ thereAndBack places factor net :=
  cut_nonneg places (div_nonneg (cut_nonneg places (mul_nonneg h hfactor)) hfactor)

theorem thereAndBack_sign (places : ℕ) (hfactor : 0 ≤ factor) (net : ℚ) :
    thereAndBack places factor net = 0 ∨
      SignType.sign (thereAndBack places factor net) = SignType.sign net :=
  eq_zero_or_sign_eq (thereAndBack_neg places factor) (fun _ h ↦ thereAndBack_nonneg hfactor h) net

/-- A factor of at least one leaves less than a step of what was cut off, and the next multiple
below is on the grid, so the second cut does not go past it. -/
theorem sub_le_thereAndBack (hfactor : 1 ≤ factor) (hnet : OnGrid places net) :
    net - 1 / 10 ^ places ≤ thereAndBack places factor net := by
  have hstep : OnGrid places (-(1 / 10 ^ places)) :=
    OnGrid.neg ⟨1, by rw [Int.cast_one]⟩
  have hcut := (abs_lt.1 (abs_sub_cut_lt places (net * factor))).2
  have hreached : net - 1 / 10 ^ places ≤ cut places (net * factor) / factor := by
    rw [le_div_iff₀ (by linarith)]
    calc
      (net - 1 / 10 ^ places) * factor = net * factor - 1 / 10 ^ places * factor := sub_mul _ _ _
      _ ≤ net * factor - 1 / 10 ^ places * 1 := by gcongr
      _ ≤ cut places (net * factor) := by linarith
  calc
    net - 1 / 10 ^ places = cut places (net - 1 / 10 ^ places) := by
      rw [sub_eq_add_neg, (hnet.add hstep).cut_eq]
    _ ≤ thereAndBack places factor net := cut_mono places hreached

theorem abs_sub_le_abs_thereAndBack (hfactor : 1 ≤ factor) (hnet : OnGrid places net) :
    |net| - 1 / 10 ^ places ≤ |thereAndBack places factor net| := by
  rcases le_total 0 net with h | h
  · rw [abs_of_nonneg h]
    exact (sub_le_thereAndBack hfactor hnet).trans (le_abs_self _)
  · rw [abs_of_nonpos h, ← abs_neg, ← thereAndBack_neg]
    exact (sub_le_thereAndBack hfactor hnet.neg).trans (le_abs_self _)

theorem thereAndBack_eq_self (hfactor : factor ≠ 0) (hnet : OnGrid places net)
    (hgross : OnGrid places (net * factor)) : thereAndBack places factor net = net := by
  rw [thereAndBack, hgross.cut_eq, mul_div_cancel_right₀ _ hfactor, hnet.cut_eq]

end Exact

/-- A canonical text is read back as the number that it was written for. -/
theorem IsCanonicalText.toRat_ofText {s : String} {q : ℚ} (h : IsCanonicalText s q) :
    (Decimal.ofText s).toRat = q := by
  obtain ⟨n, -, rfl, rfl⟩ := h
  rw [Decimal.ofText_numeral, Decimal.toRat_ofNumeral]

namespace Amount

/-- What a net amount is multiplied by: one plus the rate, cut at the scale. -/
def grossFactorOf (scale : Option ℤ) (rate : Value) : ℚ := 1 + cutAt scale (numberOf rate / 100)

theorem grossFromNet_gives (net rate : Value) (scale : Option ℤ) :
    Gives (grossFromNet net rate (scaleOf scale))
      (cutAt scale (numberOf net * grossFactorOf scale rate)) := by
  rw [grossFromNet, quotientPlaces_scaleOf]
  exact gives_plain (Decimal.isTrimmed_scaled _ _) (Decimal.toRat_grossOfNetAt _ _ _)

theorem netFromGross_gives (gross rate : Value) (scale : Option ℤ) :
    GivesUnless (cutAt scale (grossFactorOf scale rate)) (netFromGross gross rate (scaleOf scale))
      (cutAt scale (numberOf gross / grossFactorOf scale rate)) := by
  have hfactor := Decimal.toRat_grossFactor (placesOf scale) rate.toDecimal
  have hdiv := Decimal.divAt?_eq (placesOf scale) gross.toDecimal
    (Decimal.grossFactor (placesOf scale) rate.toDecimal)
  rw [hfactor] at hdiv
  rw [netFromGross, quotientPlaces_scaleOf]
  apply givesUnless_map_plain
  · intro net hnet
    exact Decimal.isTrimmed_of_divAt?_eq_some hnet
  · exact hdiv

/-- A factor that is at least one is not cut to zero. -/
theorem cutAt_ne_zero {q : ℚ} (scale : Option ℤ) (h : 1 ≤ q) : cutAt scale q ≠ 0 := by
  have hle := Exact.cut_mono (placesOf scale) h
  rw [Exact.cut_one] at hle
  exact (zero_lt_one.trans_le hle).ne'

variable {net rate : Value} {scale : Option ℤ}

/-- Net and tax add up to the gross amount exactly, for a debt as well.  The net amount that is
found back is never farther from zero than the first and at most one step of the last digit nearer,
and it is the same if the gross amount was not cut. -/
theorem net_tax_gross_add_up (hnet : Exact.OnGrid (placesOf scale) (numberOf net))
    (hrate : 0 ≤ numberOf rate) :
    ∃ (gross back : String) (g t b : ℚ),
      grossFromNet net rate (scaleOf scale) = .ok gross ∧ IsCanonicalText gross g ∧
      Gives (taxFromNet net rate (scaleOf scale)) t ∧ g = numberOf net + t ∧
      netFromGross (.text gross) rate (scaleOf scale) = .ok (some back) ∧ IsCanonicalText back b ∧
      (b = 0 ∨ SignType.sign b = SignType.sign (numberOf net)) ∧
      |numberOf net| - 1 / 10 ^ placesOf scale ≤ |b| ∧ |b| ≤ |numberOf net| ∧
      (Exact.OnGrid (placesOf scale) (numberOf net * (1 + cutAt scale (numberOf rate / 100))) →
        b = numberOf net) := by
  have hfraction : 0 ≤ cutAt scale (numberOf rate / 100) :=
    Exact.cut_nonneg _ (div_nonneg hrate (by norm_num))
  have hfactor : 1 ≤ grossFactorOf scale rate := le_add_of_nonneg_right hfraction
  have hpositive : 0 < grossFactorOf scale rate := zero_lt_one.trans_le hfactor
  obtain ⟨gross, hgross, hgrossText⟩ := grossFromNet_gives net rate scale
  obtain ⟨t, htax, ht, -⟩ := taxFromNet_gives net rate scale
  have hback := netFromGross_gives (.text gross) rate scale
  have hread : numberOf (.text gross) = cutAt scale (numberOf net * grossFactorOf scale rate) :=
    hgrossText.toRat_ofText
  rw [GivesUnless, if_neg (cutAt_ne_zero scale hfactor), hread] at hback
  obtain ⟨back, hnetBack, hbackText⟩ := hback
  refine ⟨gross, back, _, t, _, hgross, hgrossText, htax, ?_, hnetBack, hbackText, ?_, ?_, ?_, ?_⟩
  · rw [ht]
    exact Exact.cut_mul_one_add hnet hfraction
  · exact Exact.thereAndBack_sign _ hpositive.le _
  · exact Exact.abs_sub_le_abs_thereAndBack hfactor hnet
  · exact Exact.abs_thereAndBack_le hpositive.ne'
  · intro hgrid
    exact Exact.thereAndBack_eq_self hpositive.ne' hnet hgrid

/-- A refund whose gross amount is cut, so that a cent is lost on the way back. -/
theorem net_tax_gross_add_up_refund :
    Exact.OnGrid 2 (numberOf (.text "-100.01")) ∧ 0 ≤ numberOf (.text "19.99") ∧
    ∃ (gross back : String) (g t b : ℚ),
      grossFromNet (.text "-100.01") (.text "19.99") (.int 2) = .ok gross ∧
      IsCanonicalText gross g ∧
      Gives (taxFromNet (.text "-100.01") (.text "19.99") (.int 2)) t ∧
      g = numberOf (.text "-100.01") + t ∧
      netFromGross (.text gross) (.text "19.99") (.int 2) = .ok (some back) ∧
      IsCanonicalText back b ∧
      (b = 0 ∨ SignType.sign b = SignType.sign (numberOf (.text "-100.01"))) ∧
      |numberOf (.text "-100.01")| - 1 / 10 ^ 2 ≤ |b| ∧ |b| ≤ |numberOf (.text "-100.01")| ∧
      gross = "-119.01" ∧ back = "-100" := by
  have hnet : Exact.OnGrid 2 (numberOf (.text "-100.01")) := ⟨-10001, by decide +kernel⟩
  have hrate : 0 ≤ numberOf (.text "19.99") := by decide +kernel
  obtain ⟨gross, back, g, t, b, hgross, hgrossText, htax, hsum, hback, hbackText, hsign, hlow,
    hhigh, -⟩ := @net_tax_gross_add_up _ _ (some 2) hnet hrate
  have hgross' : gross = "-119.01" := Except.ok.inj (hgross.symm.trans rfl)
  subst hgross'
  have hback' : back = "-100" := Option.some.inj (Except.ok.inj (hback.symm.trans rfl))
  exact ⟨hnet, hrate, "-119.01", back, g, t, b, hgross, hgrossText, htax, hsum, hback, hbackText,
    hsign, hlow, hhigh, rfl, hback'⟩

end Amount

end PayFormula
