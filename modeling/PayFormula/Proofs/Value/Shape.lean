import Mathlib
import PayFormula.Evaluation.Functions

/-!
# Faults of Shape

Where data of the wrong shape stops the work, the fault is one of data and nothing else: it names no
key of a parameter, no group and no variable.
-/

namespace PayFormula

/-- Work on data: whatever stops it is a fault of data. -/
def FailsByData {α : Type} (result : Except Fault α) : Prop :=
  ∀ fault, result = .error fault → ∃ cause, fault = .badData cause

namespace FailsByData

variable {α β : Type}

@[simp]
theorem ok (a : α) : FailsByData (.ok a) := fun _ h ↦ nomatch h

@[simp]
theorem badData (cause : DataFault) : FailsByData (badData (α := α) cause) := by
  rintro fault ⟨⟩
  exact ⟨cause, rfl⟩

theorem bind {result : Except Fault α} {next : α → Except Fault β} (h : FailsByData result)
    (hnext : ∀ a, FailsByData (next a)) : FailsByData (result >>= next) := by
  intro fault hfault
  cases result with
  | ok a => exact hnext a fault hfault
  | error cause =>
    obtain rfl := Except.error.inj hfault
    exact h _ rfl

theorem map {result : Except Fault α} {f : α → β} (h : FailsByData result) :
    FailsByData (result.map f) := by
  intro fault hfault
  cases result with
  | ok a => nomatch hfault
  | error cause =>
    obtain rfl := Except.error.inj hfault
    exact h _ rfl

theorem foldlM {step : β → α → Except Fault β} (h : ∀ b a, FailsByData (step b a))
    (items : List α) (b : β) : FailsByData (items.foldlM step b) := by
  induction items generalizing b with
  | nil => exact .ok b
  | cons a rest ih => exact (h b a).bind ih

end FailsByData

/-! ## Sequences and mappings -/

namespace Value

theorem checkKey_failsByData (key : Value) : FailsByData key.checkKey := by
  unfold checkKey
  split
  · exact .badData _
  · exact .badData _
  · exact .badData _
  · exact .ok ()

theorem members_failsByData (value : Value) : FailsByData value.members := by
  unfold members
  split
  · exact .ok _
  · exact .ok _
  · exact .ok _
  · exact .badData _

theorem memberAt_failsByData (typeName : String) (items : List Value) (position : Int) :
    FailsByData (memberAt typeName items position) := by
  unfold memberAt
  extract_lets index
  split
  · exact .ok _
  · exact .badData _

theorem holds_failsByData (container key : Value) : FailsByData (container.holds key) := by
  unfold holds
  split
  · exact .ok _
  · exact (checkKey_failsByData key).bind fun _ ↦ .ok _
  · split
    · exact .ok _
    · exact .badData _
  · exact .badData _

theorem entryAt_failsByData (container key : Value) : FailsByData (container.entryAt key) := by
  unfold entryAt
  split
  · apply (checkKey_failsByData key).bind
    intro _
    split
    · exact .ok _
    · exact .badData _
  · split
    · exact memberAt_failsByData _ _ _
    · exact memberAt_failsByData _ _ _
    · exact .badData _
  · dsimp only
    split
    · exact memberAt_failsByData _ _ _
    · exact memberAt_failsByData _ _ _
    · exact .badData _
  · exact .badData _

theorem field_failsByData (key : String) (value : Value) : FailsByData (value.field key) :=
  entryAt_failsByData value (.text key)

theorem textsFrom_failsByData (index : Nat) (values : List Value) :
    FailsByData (textsFrom index values) := by
  fun_induction textsFrom index values with
  | case1 => exact .ok _
  | case2 index s rest ih => exact ih.bind fun _ ↦ .ok _
  | case3 => exact .badData _

theorem sideOfZero_failsByData {otherwise : DataFault} (value : Value) :
    FailsByData (value.sideOfZero otherwise) := by
  unfold sideOfZero
  split <;> simp

end Value

/-! ## Scales, groups and taxes -/

namespace Amount

theorem cutPlaces_failsByData (scale : Value) : FailsByData (cutPlaces scale) := by
  have hscale : FailsByData (Scale.ofValue scale) := by
    unfold Scale.ofValue
    split
    · exact .ok _
    · exact .ok _
    · exact .ok _
    · apply (Value.sideOfZero_failsByData _).bind
      intro side
      split <;> exact .ok _
  apply hscale.bind
  intro scale
  unfold Scale.cut
  split
  · exact .ok _
  · exact .ok _
  · exact .badData _
  · exact .badData _

end Amount

namespace Sources

theorem memberSum_failsByData (concepts scale : Value) (members : List Value) :
    FailsByData (memberSum concepts scale members) := by
  apply FailsByData.foldlM
  intro total member
  have hconcept : FailsByData (memberConcept member) :=
    (Value.field_failsByData _ _).bind fun _ ↦ .ok _
  apply hconcept.bind
  intro concept
  apply (Value.holds_failsByData _ _).bind
  intro held
  cases held with
  | false => exact .ok _
  | true =>
    apply (Value.entryAt_failsByData _ _).bind
    intro value
    exact (Amount.cutPlaces_failsByData _).bind fun _ ↦ .ok _

end Sources

namespace Surroundings

theorem shownAmounts_failsByData (tax : CountryTax) (amounts : List Value) :
    FailsByData (shownAmounts tax amounts) := by
  unfold shownAmounts
  split
  · exact .ok _
  · exact (Value.textsFrom_failsByData 0 _).map

theorem tierMode_failsByData (mode : Value) : FailsByData (tierMode mode) := by
  unfold tierMode
  split
  · exact .ok _
  · exact .badData _

end Surroundings

end PayFormula
