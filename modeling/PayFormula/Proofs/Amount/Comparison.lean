import Mathlib
import PayFormula.Proofs.Amount.Arithmetic
import PayFormula.Proofs.Decimal.Choice

/-!
# Comparing Amounts at a Scale

Amounts are compared after both are cut.  A cut is monotone and the same on both sides of zero, so
what is left is a total preorder that follows the order of the numbers: numbers that differ in later
digits only count as equal, but no two are ever turned around.  Cutting again after fewer digits
forgets that the number was cut before, which is why a finer scale can only tell apart what a
coarser one took for equal.
-/

namespace PayFormula

namespace Exact

variable {places digits : ℕ}

/-! ## Cutting twice -/

theorem towardZero_cut (digits : ℕ) (q : ℚ) : towardZero (cut digits q) = towardZero q := by
  have hnonneg {q : ℚ} (h : 0 ≤ q) : towardZero (cut digits q) = towardZero q := by
    rw [towardZero_of_nonneg (cut_nonneg digits h), towardZero_of_nonneg h, floor_cut digits h]
  rcases le_total 0 q with h | h
  · exact hnonneg h
  · have hmirror := hnonneg (neg_nonneg.2 h)
    rwa [cut_neg, towardZero_neg, towardZero_neg, neg_inj] at hmirror

/-- Of two cuts the one that leaves fewer digits counts. -/
theorem cut_cut (h : places ≤ digits) (q : ℚ) : cut places (cut digits q) = cut places q := by
  obtain ⟨more, rfl⟩ := Nat.exists_eq_add_of_le' h
  calc
    cut places (cut (more + places) q) =
        towardZero (cut (more + places) q * 10 ^ places) / 10 ^ places := rfl
    _ = towardZero (cut more (q * 10 ^ places)) / 10 ^ places := by rw [cut_add_mul]
    _ = towardZero (q * 10 ^ places) / 10 ^ places := by rw [towardZero_cut]
    _ = cut places q := rfl

/-! ## The order after the cut -/

/-- How two numbers compare when both are cut. -/
def order (places : ℕ) (x y : ℚ) : Ordering := compare (cut places x) (cut places y)

theorem order_isLE_of_le (places : ℕ) {x y : ℚ} (h : x ≤ y) : (order places x y).isLE = true :=
  Ordering.ne_gt_iff_isLE.1 (compare_le_iff_le.2 (cut_mono places h))

theorem order_eq_iff {x y : ℚ} : order places x y = .eq ↔ cut places x = cut places y :=
  compare_eq_iff_eq

theorem order_neg (places : ℕ) (x y : ℚ) : order places (-x) (-y) = order places y x := by
  have hanti : StrictAnti fun q : ℚ ↦ -q := fun _ _ hlt ↦ neg_lt_neg hlt
  rw [order, order, cut_neg, cut_neg, ← cmp_eq_compare, ← cmp_eq_compare]
  exact hanti.cmp_map_eq _ _

/-- Numbers that a scale tells apart are told apart in the same way by a finer one. -/
theorem order_eq_or_eq (h : places ≤ digits) (x y : ℚ) :
    order places x y = .eq ∨ order places x y = order digits x y := by
  have hfiner {x y : ℚ} (hlt : cut places x < cut places y) : cut digits x < cut digits y := by
    have hmono : Monotone (cut places) := fun _ _ hle ↦ cut_mono places hle
    apply hmono.reflect_lt
    rwa [cut_cut h, cut_cut h]
  rcases lt_trichotomy (cut places x) (cut places y) with hlt | heq | hgt
  · right
    rw [order, order, compare_lt_iff_lt.2 hlt, compare_lt_iff_lt.2 (hfiner hlt)]
  · exact .inl (order_eq_iff.2 heq)
  · right
    rw [order, order, compare_gt_iff_gt.2 hgt, compare_gt_iff_gt.2 (hfiner hgt)]

end Exact

namespace Amount

/-! ## Values -/

/-- How two values compare at a scale. -/
def order (scale : Option ℤ) (a b : Value) : Ordering :=
  Exact.order (placesOf scale) (numberOf a) (numberOf b)

theorem compare_eq (a b : Value) (scale : Option ℤ) :
    compare a b (scaleOf scale) = .ok (order scale a b) := by
  rw [compare, cutPlaces_scaleOf]
  exact congrArg Except.ok (Decimal.compareAt_eq _ _ _)

/-- A total preorder of values that follows the numbers which they are read as.  Like them, it is
turned around when both sides change their sign. -/
structure IsAmountOrder (order : Value → Value → Ordering) : Prop extends Std.TransCmp order where
  isLE_of_le : ∀ a b, numberOf a ≤ numberOf b → (order a b).isLE = true
  negated : ∀ a b a' b', numberOf a' = -numberOf a → numberOf b' = -numberOf b →
    order a' b' = order b a

theorem isAmountOrder_order (scale : Option ℤ) : IsAmountOrder (order scale) where
  eq_swap {_ _} := @Std.OrientedCmp.eq_swap ℚ Ord.compare _ _ _
  isLE_trans {_ _ _} := @Std.TransCmp.isLE_trans ℚ Ord.compare _ _ _ _
  isLE_of_le _ _ h := Exact.order_isLE_of_le _ h
  negated a b a' b' ha hb := by
    rw [order, ha, hb]
    exact Exact.order_neg _ _ _

end Amount

end PayFormula
