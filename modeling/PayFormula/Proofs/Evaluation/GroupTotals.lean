import Mathlib
import PayFormula.Proofs.Amount.Totals
import PayFormula.Proofs.Evaluation.Supply

/-!
# Totals of Groups

A member of a group counts for the amount of its concept times its weight, cut at the scale.  So it
lies on the grid of the scale, and the cuts that follow each addition find nothing to cut: the total
is the exact sum of what the members count for.  Members may then be summed in any order, and the
totals of two groups add up to that of both together.
-/

namespace PayFormula

open Amount

namespace Sources

/-- The entries of a member of a group. -/
abbrev Member := List (Value × Value)

/-! ## What a member counts for -/

/-- The number that a member weighs. -/
def weightOf (member : Member) : ℚ :=
  let weight := Value.lookup "weight" member
  if weight.isNull then 1 else numberOf (.text weight.toText)

/-- The amount of the concept that a member names in any case, if the concept is there. -/
def conceptOf? (concepts : List (Value × Value)) (member : Member) : Option Value := do
  let code ← Value.valueAt? "concept_code" member
  Value.valueAt? (Text.lower code.toText) concepts

/-- The number that a member adds to the total of its group. -/
def contribution? (concepts : List (Value × Value)) (scale : Option ℤ) (member : Member) :
    Option ℚ :=
  (conceptOf? concepts member).map fun amount ↦ cutAt scale (numberOf amount * weightOf member)

def groupTotal (concepts : List (Value × Value)) (scale : Option ℤ) (members : List Member) : ℚ :=
  (members.filterMap (contribution? concepts scale)).sum

/-- Nobody else is asked for the total of the group, and it has the members, each with a code. -/
structure SumsMembers (sources : Sources) (concepts : List (Value × Value)) (code groups : Value)
    (members : List Member) : Prop where
  silent : Silent sources.collaborators.groups? (.groupTotal code (.map concepts))
  group : groupMembers code groups = .ok (members.map .map)
  codes : ∀ member ∈ members, (Value.valueAt? "concept_code" member).isSome

/-- The text is the total of some group that has the members. -/
def IsGroupTotal (concepts : List (Value × Value)) (scale : Option ℤ) (members : List Member)
    (text : String) : Prop :=
  ∃ (sources : Sources) (code groups : Value), sources.SumsMembers concepts code groups members ∧
    (sources.groupSum code (.map concepts) groups (scaleOf scale)).outcome = .ok text

/-! ## The sum -/

theorem toRat_memberWeight (member : Member) :
    (memberWeight (.map member)).toRat = weightOf member := by
  unfold memberWeight weightOf
  dsimp only
  split
  · exact Decimal.toRat_one
  · rfl

theorem weightOf_numeral {member : Member} {n : Numeral}
    (h : Value.lookup "weight" member = .text n.text) : weightOf member = n.worth := by
  have hnull : (Value.text n.text).isNull = false := rfl
  simp only [weightOf, h, hnull, Bool.false_eq_true, if_false]
  exact (congrArg Decimal.toRat (Decimal.ofText_numeral n)).trans (Decimal.toRat_ofNumeral n)

variable (concepts : List (Value × Value)) (scale : Option ℤ) {members : List Member}

/-- The decimal number that is added for a member. -/
def product? (places : ℕ) (member : Member) : Option Decimal :=
  (conceptOf? concepts member).map fun amount ↦
    amount.toDecimal.mulAt places (memberWeight (.map member))

theorem map_toRat_product? (member : Member) :
    (product? concepts (placesOf scale) member).map Decimal.toRat =
      contribution? concepts scale member := by
  rw [product?, contribution?, Option.map_map]
  congr 1
  funext amount
  rw [Function.comp_apply, Decimal.toRat_mulAt, toRat_memberWeight]
  rfl

theorem addMember_eq_elim {member : Member}
    (hcode : (Value.valueAt? "concept_code" member).isSome) (total : Decimal) :
    addMember (.map concepts) (scaleOf scale) total (.map member) =
      .ok ((product? concepts (placesOf scale) member).elim total (total.addAt (placesOf scale))) := by
  obtain ⟨code, hcode⟩ := Option.isSome_iff_exists.1 hcode
  have hconcept : conceptOf? concepts member =
      Table.get? (.text (Text.lower code.toText)) concepts := by
    rw [conceptOf?, hcode]
    rfl
  rw [addMember_of_code concepts scale total hcode, product?, hconcept]
  cases Table.get? (.text (Text.lower code.toText)) concepts <;> rfl

theorem memberSum_eq
    (hcodes : ∀ member ∈ members, (Value.valueAt? "concept_code" member).isSome) :
    memberSum (.map concepts) (scaleOf scale) (members.map .map) =
      .ok (Decimal.sumAt (placesOf scale)
        (members.filterMap (product? concepts (placesOf scale)))) := by
  unfold memberSum Decimal.sumAt
  -- The members are added to what came before them, so the induction is for every total so far.
  generalize (0 : Decimal) = total
  induction members generalizing total with
  | nil => rfl
  | cons member rest ih =>
    rw [List.forall_mem_cons] at hcodes
    rw [List.map_cons, List.foldlM_cons, addMember_eq_elim concepts scale hcodes.1]
    cases hproduct : product? concepts (placesOf scale) member with
    | some amount =>
      rw [List.filterMap_cons_some hproduct, List.foldl_cons]
      exact ih hcodes.2 _
    | none =>
      rw [List.filterMap_cons_none hproduct]
      exact ih hcodes.2 _

/-- What members count for has no digits beyond the scale, so the cuts of the total take none. -/
theorem runningTotal_contributions (members : List Member) :
    Exact.runningTotal (placesOf scale) (members.filterMap (contribution? concepts scale)) =
      groupTotal concepts scale members := by
  apply Exact.runningTotal_of_onGrid
  intro q hq
  obtain ⟨member, -, hmember⟩ := List.mem_filterMap.1 hq
  obtain ⟨amount, -, rfl⟩ := Option.map_eq_some_iff.1 hmember
  exact Exact.onGrid_cut _ _

theorem isCanonicalText_sumAt (members : List Member) :
    IsCanonicalText (Decimal.sumAt (placesOf scale)
        (members.filterMap (product? concepts (placesOf scale)))).plain
      (groupTotal concepts scale members) := by
  have hworth : (Decimal.sumAt (placesOf scale)
      (members.filterMap (product? concepts (placesOf scale)))).toRat =
        groupTotal concepts scale members := by
    rw [Decimal.toRat_sumAt, List.map_filterMap, ← runningTotal_contributions]
    simp only [map_toRat_product?]
  rw [← hworth]
  exact (Decimal.isTrimmed_sumAt _ _).isCanonicalText_plain

theorem SumsMembers.gives {sources : Sources} {code groups : Value}
    (h : sources.SumsMembers concepts code groups members) :
    Gives (sources.groupSum code (.map concepts) groups (scaleOf scale)).outcome
      (groupTotal concepts scale members) := by
  rw [Run.outcome, ends_groupSum_of_members h.silent h.group, memberSum_eq concepts scale h.codes]
  exact ⟨_, rfl, isCanonicalText_sumAt concepts scale members⟩

variable {concepts scale}

theorem IsGroupTotal.isCanonicalText {text : String}
    (h : IsGroupTotal concepts scale members text) :
    IsCanonicalText text (groupTotal concepts scale members) := by
  obtain ⟨sources, code, groups, hsums, houtcome⟩ := h
  obtain ⟨other, hother, hcanonical⟩ := hsums.gives concepts scale
  obtain rfl : other = text := Except.ok.inj (hother.symm.trans houtcome)
  exact hcanonical

/-! ## Groups in another order, and groups put together -/

theorem groupTotal_perm {others : List Member} (h : members.Perm others) :
    groupTotal concepts scale members = groupTotal concepts scale others :=
  (h.filterMap _).sum_eq

theorem groupTotal_append (front back : List Member) :
    groupTotal concepts scale (front ++ back) =
      groupTotal concepts scale front + groupTotal concepts scale back := by
  rw [groupTotal, List.filterMap_append, List.sum_append, groupTotal, groupTotal]

theorem IsGroupTotal.eq_of_perm {others : List Member} {text other : String}
    (h : IsGroupTotal concepts scale members text)
    (hother : IsGroupTotal concepts scale others other) (hperm : members.Perm others) :
    other = text :=
  (hother.isCanonicalText.eq_iff h.isCanonicalText).2 (groupTotal_perm hperm).symm

/-- Two totals are added exactly, as their sum is a total again. -/
theorem IsGroupTotal.add_eq {front back : List Member} {first second text : String}
    (hfirst : IsGroupTotal concepts scale front first)
    (hsecond : IsGroupTotal concepts scale back second)
    (h : IsGroupTotal concepts scale (front ++ back) text) :
    add (.text first) (.text second) (scaleOf scale) = .ok text := by
  obtain ⟨sum, hsum, hcanonical⟩ := add_gives (.text first) (.text second) scale
  have hgrid : Exact.OnGrid (placesOf scale) (groupTotal concepts scale (front ++ back)) := by
    rw [← runningTotal_contributions]
    exact Exact.onGrid_runningTotal _ _
  have hworth : cutAt scale (numberOf (.text first) + numberOf (.text second)) =
      groupTotal concepts scale (front ++ back) := by
    rw [numberOf, numberOf, Value.toDecimal, Value.toDecimal, hfirst.isCanonicalText.toRat_ofText,
      hsecond.isCanonicalText.toRat_ofText, ← groupTotal_append]
    exact hgrid.cut_eq
  rw [hworth] at hcanonical
  rw [hsum, (hcanonical.eq_iff h.isCanonicalText).2 rfl]

/-- The total of a group whose members are summed is the canonical text of the exact sum of what its
members count for, whatever they weigh; a weight that is a numeral is worth what is written.  The
members give the same text in every order, and if they are two groups put together, the two totals
add up to theirs. -/
theorem group_total_is_weighted_sum {sources : Sources} {concepts : List (Value × Value)}
    {code groups : Value} {members : List Member}
    (h : sources.SumsMembers concepts code groups members) (scale : Option ℤ) :
    ∃ text, (sources.groupSum code (.map concepts) groups (scaleOf scale)).outcome = .ok text ∧
      IsCanonicalText text (groupTotal concepts scale members) ∧
      (∀ member ∈ members, ∀ n : Numeral, Value.lookup "weight" member = .text n.text →
        weightOf member = n.worth) ∧
      (∀ others other, members.Perm others → IsGroupTotal concepts scale others other →
        other = text) ∧
      ∀ front back first second, members = front ++ back →
        IsGroupTotal concepts scale front first → IsGroupTotal concepts scale back second →
        add (.text first) (.text second) (scaleOf scale) = .ok text := by
  obtain ⟨text, houtcome, hcanonical⟩ := h.gives concepts scale
  have htotal : IsGroupTotal concepts scale members text := ⟨sources, code, groups, h, houtcome⟩
  refine ⟨text, houtcome, hcanonical, fun _ _ _ ↦ weightOf_numeral, ?_, ?_⟩
  · intro others other hperm hother
    exact htotal.eq_of_perm hother hperm
  · rintro front back first second rfl hfirst hsecond
    exact hfirst.add_eq hsecond htotal

/-- A member without a weight counts whole, and one in capitals is found; what they add to the total
is cut on its own. -/
theorem group_total_is_weighted_sum_bonus :
    let concepts : List (Value × Value) :=
      [(.text "base", .text "10.55"), (.text "bonus", .text "3")]
    let members : List Member := [[(.text "concept_code", .text "base")],
      [(.text "concept_code", .text "BONUS"), (.text "weight", .text "-0.55")],
      [(.text "concept_code", .text "hours"), (.text "weight", .text "2")]]
    let groups : Value := .map [(.text "pay", .list (members.map .map))]
    ∃ text, (groupSum {} (.text "pay") (.map concepts) groups (.int 1)).outcome = .ok text ∧
      IsCanonicalText text (89 / 10) := by
  intro concepts members groups
  have hsums : SumsMembers {} concepts (.text "pay") groups members :=
    ⟨nofun, rfl, by decide⟩
  obtain ⟨text, houtcome, hcanonical, -⟩ := group_total_is_weighted_sum hsums (some 1)
  refine ⟨text, houtcome, ?_⟩
  have htotal : groupTotal concepts (some 1) members = 89 / 10 := by
    decide +kernel
  rw [← htotal]
  exact hcanonical

end Sources

/-- A formula gets the same total. -/
theorem Formula.givesAmount_sumGroup {s : Surroundings} {argument : Formula} {code : String}
    {members : List Sources.Member} (hargument : (argument.eval s).outcome = .ok (.text code))
    (h : HasMembers s code (members.map .map))
    (hcodes : ∀ member ∈ members, (Value.valueAt? "concept_code" member).isSome) :
    (call "SUM_GROUP" [argument]).GivesAmount s
      (Sources.groupTotal s.context.concepts (some s.context.scale) members) := by
  refine ⟨_, ?_, Sources.isCanonicalText_sumAt _ (some s.context.scale) members⟩
  have hsum := Sources.memberSum_eq s.context.concepts (some s.context.scale) hcodes
  rw [outcome_sumGroup hargument h]
  exact congrArg (Except.map Surroundings.amountValue) hsum

end PayFormula
