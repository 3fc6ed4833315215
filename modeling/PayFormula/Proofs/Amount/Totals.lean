import Mathlib
import PayFormula.Proofs.Amount.NetGross

/-!
# Totals and Averages

A sum takes its members one after the other and cuts the running total each time, so the digits
that a member has beyond the scale are not collected: each such member costs up to one step of the
last digit.  As the total itself stays on the grid of the scale, members on the grid cost nothing,
and as long as the total keeps its sign a member adds what is left of it after its own cut.  In
these cases the order of the members does not matter.  Where a total changes its sign on the way,
the cut moves it up before the change and down after it, and another order can give another result.
-/

namespace PayFormula

namespace Exact

variable {places : ℕ} {q : ℚ} {numbers others : List ℚ}

/-! ## Running totals -/

/-- The numbers added up one after the other, with a cut after each. -/
def runningTotal (places : ℕ) (numbers : List ℚ) : ℚ :=
  numbers.foldl (fun total q ↦ cut places (total + q)) 0

@[simp]
theorem runningTotal_nil (places : ℕ) : runningTotal places [] = 0 := rfl

theorem runningTotal_concat (places : ℕ) (numbers : List ℚ) (q : ℚ) :
    runningTotal places (numbers ++ [q]) = cut places (runningTotal places numbers + q) := by
  rw [runningTotal, List.foldl_concat, runningTotal]

theorem onGrid_runningTotal (places : ℕ) (numbers : List ℚ) :
    OnGrid places (runningTotal places numbers) := by
  -- From the end of the list, as a cut meets the total of everything before it.
  induction numbers using List.reverseRecOn with
  | nil => simpa using onGrid_intCast places 0
  | append_singleton numbers q _ =>
    rw [runningTotal_concat]
    exact onGrid_cut _ _

/-- A cut changes a total on the grid only after a number off the grid, and by less than a step. -/
theorem abs_add_sub_cut_le {total : ℚ} (htotal : OnGrid places total) (q : ℚ) :
    |total + q - cut places (total + q)| ≤
      [q].countP (fun q ↦ cut places q ≠ q) / 10 ^ places := by
  by_cases hq : cut places q = q
  · have hsum : OnGrid places (total + q) := htotal.add (hq ▸ onGrid_cut places q)
    rw [hsum.cut_eq, sub_self, abs_zero]
    positivity
  · simpa [hq] using (abs_sub_cut_lt places (total + q)).le

theorem abs_sum_sub_runningTotal_le (places : ℕ) (numbers : List ℚ) :
    |numbers.sum - runningTotal places numbers| ≤
      numbers.countP (fun q ↦ cut places q ≠ q) / 10 ^ places := by
  induction numbers using List.reverseRecOn with
  | nil => simp
  | append_singleton numbers q ih =>
    have hstep := abs_add_sub_cut_le (onGrid_runningTotal places numbers) q
    calc
      |(numbers ++ [q]).sum - runningTotal places (numbers ++ [q])| =
          |(numbers.sum - runningTotal places numbers) + (runningTotal places numbers + q -
            cut places (runningTotal places numbers + q))| := by
        rw [runningTotal_concat, List.sum_append, List.sum_singleton]
        ring_nf
      _ ≤ numbers.countP (fun q ↦ cut places q ≠ q) / 10 ^ places +
          [q].countP (fun q ↦ cut places q ≠ q) / 10 ^ places :=
        (abs_add_le _ _).trans (add_le_add ih hstep)
      _ = (numbers ++ [q]).countP (fun q ↦ cut places q ≠ q) / 10 ^ places := by
        rw [List.countP_append, Nat.cast_add, add_div]

theorem runningTotal_of_onGrid (h : ∀ q ∈ numbers, OnGrid places q) :
    runningTotal places numbers = numbers.sum := by
  have hnone : numbers.countP (fun q ↦ cut places q ≠ q) = 0 := by
    rw [List.countP_eq_zero]
    intro q hq
    simpa using (h q hq).cut_eq
  have hle := abs_sum_sub_runningTotal_le places numbers
  rw [hnone, Nat.cast_zero, zero_div, abs_nonpos_iff, sub_eq_zero] at hle
  exact hle.symm

theorem runningTotal_neg (places : ℕ) (numbers : List ℚ) :
    runningTotal places (numbers.map Neg.neg) = -runningTotal places numbers := by
  induction numbers using List.reverseRecOn with
  | nil => simp
  | append_singleton numbers q ih =>
    rw [List.map_append, List.map_singleton, runningTotal_concat, runningTotal_concat, ih,
      ← neg_add, cut_neg]

/-- While the total does not fall below zero, each number adds what its own cut leaves of it. -/
theorem runningTotal_of_nonneg (h : ∀ q ∈ numbers, 0 ≤ q) :
    runningTotal places numbers = (numbers.map (cut places)).sum := by
  induction numbers using List.reverseRecOn with
  | nil => simp
  | append_singleton numbers q ih =>
    rw [List.forall_mem_append, List.forall_mem_singleton] at h
    have hrest := ih h.1
    have htotal : 0 ≤ runningTotal places numbers := by
      rw [hrest]
      apply List.sum_nonneg
      intro c hc
      obtain ⟨p, hp, rfl⟩ := List.mem_map.1 hc
      exact cut_nonneg places (h.1 p hp)
    rw [runningTotal_concat, cut_add_of_onGrid (onGrid_runningTotal places numbers) htotal h.2,
      hrest, List.map_append, List.sum_append, List.map_singleton, List.sum_singleton]

theorem runningTotal_of_nonpos (h : ∀ q ∈ numbers, q ≤ 0) :
    runningTotal places numbers = (numbers.map (cut places)).sum := by
  have hmirror : ∀ q ∈ numbers.map Neg.neg, 0 ≤ q := by
    intro c hc
    obtain ⟨q, hq, rfl⟩ := List.mem_map.1 hc
    exact neg_nonneg.2 (h q hq)
  have hcuts : (numbers.map Neg.neg).map (cut places) = (numbers.map (cut places)).map Neg.neg := by
    rw [List.map_map, List.map_map]
    exact List.map_congr_left fun q _ ↦ cut_neg places q
  have htotal : runningTotal places (numbers.map Neg.neg) = _ := runningTotal_of_nonneg hmirror
  rw [runningTotal_neg, hcuts, ← List.sum_neg] at htotal
  exact neg_injective htotal

/-! ## Order -/

/-- The numbers are on the grid, or none is on the other side of zero. -/
def IsSteady (places : ℕ) (numbers : List ℚ) : Prop :=
  (∀ q ∈ numbers, OnGrid places q) ∨ (∀ q ∈ numbers, 0 ≤ q) ∨ ∀ q ∈ numbers, q ≤ 0

theorem IsSteady.runningTotal_eq (h : IsSteady places numbers) :
    runningTotal places numbers = (numbers.map (cut places)).sum := by
  rcases h with hgrid | hnonneg | hnonpos
  · rw [runningTotal_of_onGrid hgrid, List.map_congr_left fun q hq ↦ (hgrid q hq).cut_eq,
      List.map_id']
  · exact runningTotal_of_nonneg hnonneg
  · exact runningTotal_of_nonpos hnonpos

theorem IsSteady.perm (h : IsSteady places numbers) (hperm : numbers.Perm others) :
    IsSteady places others := by
  simpa only [IsSteady, hperm.mem_iff] using h

theorem IsSteady.runningTotal_perm (h : IsSteady places numbers) (hperm : numbers.Perm others) :
    runningTotal places numbers = runningTotal places others := by
  rw [h.runningTotal_eq, (h.perm hperm).runningTotal_eq]
  exact (hperm.map _).sum_eq

/-- Two orders are equally near to the same sum. -/
theorem abs_runningTotal_sub_le (hperm : numbers.Perm others) :
    |runningTotal places numbers - runningTotal places others| ≤
      2 * (numbers.countP (fun q ↦ cut places q ≠ q) / 10 ^ places) := by
  have hnumbers := abs_sum_sub_runningTotal_le places numbers
  have hothers := abs_sum_sub_runningTotal_le places others
  rw [← hperm.sum_eq, ← hperm.countP_eq] at hothers
  rw [abs_sub_comm] at hnumbers
  calc
    |runningTotal places numbers - runningTotal places others| ≤
        |runningTotal places numbers - numbers.sum| + |numbers.sum - runningTotal places others| :=
      abs_sub_le _ _ _
    _ ≤ 2 * (numbers.countP (fun q ↦ cut places q ≠ q) / 10 ^ places) := by linarith

end Exact

namespace Decimal

theorem toRat_sumAt (scale : ℕ) (amounts : List Decimal) :
    (sumAt scale amounts).toRat = Exact.runningTotal scale (amounts.map toRat) := by
  rw [sumAt, Exact.runningTotal, List.foldl_map, ← toRat_zero]
  exact (List.foldl_hom toRat fun total amount ↦ (toRat_addAt scale total amount).symm).symm

theorem isTrimmed_sumAt (scale : ℕ) (amounts : List Decimal) : (sumAt scale amounts).IsTrimmed := by
  rcases List.eq_nil_or_concat amounts with rfl | ⟨amounts, last, rfl⟩
  · exact isTrimmed_ofInt 0
  · rw [sumAt, List.concat_eq_append, List.foldl_concat]
    exact isTrimmed_scaled _ _

/-- The number of the members is whole, so the cut does not take it for zero. -/
theorem meanAt?_eq (scale : ℕ) (amounts : List Decimal) :
    (meanAt? scale amounts).map toRat =
      if (amounts.length : ℚ) = 0 then none
      else some (Exact.cut scale ((sumAt scale amounts).toRat / amounts.length)) := by
  have hdiv := divAt?_eq scale (sumAt scale amounts) (ofInt amounts.length)
  rw [toRat_ofInt, Exact.cut_intCast, Int.cast_natCast] at hdiv
  rw [meanAt?, apply_ite (Option.map toRat), hdiv]
  cases amounts with
  | nil => simp
  | cons amount amounts => rfl

theorem isTrimmed_of_meanAt?_eq_some {scale : ℕ} {amounts : List Decimal} {d : Decimal}
    (h : meanAt? scale amounts = some d) : d.IsTrimmed := by
  rw [meanAt?, Option.ite_none_left_eq_some] at h
  exact isTrimmed_of_divAt?_eq_some h.2

end Decimal

namespace Amount

/-! ## Totals of members -/

/-- The numbers of the members that are present. -/
def presentNumbers (items : List Value) : List ℚ :=
  (items.filter fun item ↦ !item.isNull).map numberOf

/-- What the present members add up to, with a cut after each. -/
def totalOf (scale : Option ℤ) (items : List Value) : ℚ :=
  Exact.runningTotal (placesOf scale) (presentNumbers items)

theorem map_toRat_presentAmounts (items : List Value) :
    (items.filterMap Value.toDecimal?).map Decimal.toRat = presentNumbers items := by
  induction items with
  | nil => rfl
  | cons item items ih =>
    rw [presentNumbers] at ih ⊢
    cases hnull : item.isNull <;> simp [Value.toDecimal?, hnull, ih, numberOf]

theorem presentAmounts_list (items : List Value) :
    presentAmounts (.list items) = .ok (items.filterMap Value.toDecimal?) := rfl

theorem sum_eq (items : List Value) (scale : Option ℤ) :
    sum (.list items) (scaleOf scale) =
      .ok (Decimal.sumAt (placesOf scale) (items.filterMap Value.toDecimal?)).plain := by
  rw [sum, presentAmounts_list]
  cases items.filterMap Value.toDecimal? with
  | nil => rfl
  | cons amount amounts =>
    rw [cutPlaces_scaleOf]
    rfl

theorem average_eq (items : List Value) (scale : Option ℤ) :
    average (.list items) (scaleOf scale) =
      .ok ((Decimal.meanAt? (placesOf scale) (items.filterMap Value.toDecimal?)).map
        Decimal.plain) := by
  rw [average, presentAmounts_list]
  cases items.filterMap Value.toDecimal? with
  | nil => rfl
  | cons amount amounts =>
    simp only [quotientPlaces_scaleOf]
    rfl

theorem sum_gives (items : List Value) (scale : Option ℤ) :
    Gives (sum (.list items) (scaleOf scale)) (totalOf scale items) := by
  rw [sum_eq, totalOf, ← map_toRat_presentAmounts]
  exact gives_plain (Decimal.isTrimmed_sumAt _ _) (Decimal.toRat_sumAt _ _)

theorem average_gives (items : List Value) (scale : Option ℤ) :
    GivesUnless (presentNumbers items).length (average (.list items) (scaleOf scale))
      (cutAt scale (totalOf scale items / (presentNumbers items).length)) := by
  rw [average_eq, totalOf, ← map_toRat_presentAmounts, List.length_map, ← Decimal.toRat_sumAt]
  exact givesUnless_map_plain (fun _ h ↦ Decimal.isTrimmed_of_meanAt?_eq_some h)
    (Decimal.meanAt?_eq _ _)

/-! ## Members in another order -/

variable {items others : List Value}

theorem presentNumbers_perm (h : items.Perm others) :
    (presentNumbers items).Perm (presentNumbers others) :=
  (h.filter _).map _

/-- A sum cuts the running total after each member, and the average divides what comes out.  A
member adds to the error only if it has digits beyond the scale, and in a list of such members only
of one sign the sum is that of the single cuts.  Then, and where no member has such digits, every
order gives the same texts. -/
theorem totals_cut_each_step (items : List Value) (scale : Option ℤ) :
    Gives (sum (.list items) (scaleOf scale)) (totalOf scale items) ∧
    GivesUnless (presentNumbers items).length (average (.list items) (scaleOf scale))
      (cutAt scale (totalOf scale items / (presentNumbers items).length)) ∧
    |(presentNumbers items).sum - totalOf scale items| ≤
      (presentNumbers items).countP (fun q ↦ cutAt scale q ≠ q) / 10 ^ placesOf scale ∧
    ((∀ q ∈ presentNumbers items, Exact.OnGrid (placesOf scale) q) →
      totalOf scale items = (presentNumbers items).sum) ∧
    ((∀ q ∈ presentNumbers items, 0 ≤ q) ∨ (∀ q ∈ presentNumbers items, q ≤ 0) →
      totalOf scale items = ((presentNumbers items).map (cutAt scale)).sum) ∧
    ∀ others : List Value, items.Perm others →
      |totalOf scale items - totalOf scale others| ≤
        2 * ((presentNumbers items).countP (fun q ↦ cutAt scale q ≠ q) / 10 ^ placesOf scale) ∧
      (Exact.IsSteady (placesOf scale) (presentNumbers items) →
        sum (.list items) (scaleOf scale) = sum (.list others) (scaleOf scale) ∧
        average (.list items) (scaleOf scale) = average (.list others) (scaleOf scale)) := by
  refine ⟨sum_gives items scale, average_gives items scale,
    Exact.abs_sum_sub_runningTotal_le _ _, Exact.runningTotal_of_onGrid, ?_, ?_⟩
  · intro hsigns
    exact Exact.IsSteady.runningTotal_eq (.inr hsigns)
  · intro others hperm
    have hnumbers := presentNumbers_perm hperm
    refine ⟨Exact.abs_runningTotal_sub_le hnumbers, fun hsteady ↦ ?_⟩
    have htotal : totalOf scale items = totalOf scale others := hsteady.runningTotal_perm hnumbers
    have hsum := sum_gives items scale
    have haverage := average_gives items scale
    rw [htotal] at hsum haverage
    rw [hnumbers.length_eq] at haverage
    exact ⟨hsum.eq (sum_gives others scale), haverage.eq (average_gives others scale)⟩

/-- Two members with digits beyond the scale, which are lost in either order. -/
theorem totals_cut_each_step_swapped :
    [Value.text "1.255", .text "0.505", .null].Perm [.text "0.505", .text "1.255", .null] ∧
    Exact.IsSteady 2 (presentNumbers [.text "1.255", .text "0.505", .null]) ∧
    sum (.list [.text "1.255", .text "0.505", .null]) (.int 2) =
      sum (.list [.text "0.505", .text "1.255", .null]) (.int 2) ∧
    average (.list [.text "1.255", .text "0.505", .null]) (.int 2) =
      average (.list [.text "0.505", .text "1.255", .null]) (.int 2) ∧
    sum (.list [.text "1.255", .text "0.505", .null]) (.int 2) = .ok "1.75" := by
  have hperm : [Value.text "1.255", .text "0.505", .null].Perm
      [.text "0.505", .text "1.255", .null] := .swap _ _ _
  have hsteady : Exact.IsSteady 2 (presentNumbers [.text "1.255", .text "0.505", .null]) :=
    .inr (.inl (by decide +kernel))
  obtain ⟨-, -, -, -, -, horders⟩ :=
    totals_cut_each_step [.text "1.255", .text "0.505", .null] (some 2)
  obtain ⟨hsum, haverage⟩ := (horders _ hperm).2 hsteady
  exact ⟨hperm, hsteady, hsum, haverage, rfl⟩

/-- Members that are lost one by one although together they make a whole, and members whose order
decides. -/
theorem sum_loses_halves :
    sum (.list [.text "0.5", .text "0.5"]) (.int 0) = .ok "0" ∧
    Exact.cut 0 (numberOf (.text "0.5") + numberOf (.text "0.5")) = 1 ∧
    sum (.list [.text "1", .text "-0.5", .text "0.5"]) (.int 0) = .ok "0" ∧
    sum (.list [.text "-0.5", .text "0.5", .text "1"]) (.int 0) = .ok "1" ∧
    average (.list [.text "0.5", .text "1.5"]) (.int 0) = .ok (some "0") ∧
    Exact.cut 0 ((numberOf (.text "0.5") + numberOf (.text "1.5")) / 2) = 1 := by
  refine ⟨rfl, ?_, rfl, rfl, rfl, ?_⟩
  · decide +kernel
  · decide +kernel

end Amount

end PayFormula
