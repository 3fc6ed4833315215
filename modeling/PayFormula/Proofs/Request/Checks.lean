import Mathlib
import PayFormula.Proofs.Formula.Soundness
import PayFormula.Request.Form

/-!
# What Checks Accept

A form is accepted when there is nothing to complain about, and then each of its fields has passed its
own check.  A mapping passes when all its values do and a list when all its members do; what is taken
over has an entry for each of theirs, in their order.
-/

namespace PayFormula

variable {α β : Type}

/-! ## Complaints -/

namespace Complaint

theorem part?_eq_none_iff {name : String} {checked : Checked α} :
    part? name checked = none ↔ ∃ a, checked = .ok a := by
  cases checked <;> simp [part?]

theorem settle_eq_ok_iff {complaints : List (String × Complaint)} {a b : α} :
    settle complaints a = .ok b ↔ complaints = [] ∧ a = b := by
  cases complaints <;> simp [settle]

/-- Parts that are checked under names are taken over when every one of them passes. -/
theorem settle_parts_eq_ok_iff {checked : List (String × Checked α)} {a b : β} :
    settle (checked.filterMap fun (name, result) ↦ part? name result) a = .ok b ↔
      (∀ part ∈ checked, ∃ value, part.2 = .ok value) ∧ a = b := by
  rw [settle_eq_ok_iff, List.filterMap_eq_nil_iff]
  simp only [part?_eq_none_iff]

end Complaint

/-- The values that are taken over are those of all members, if all of them pass. -/
theorem forall₂_checks_iff {kind : α → Checked β} {members : List α} {values : List β} :
    List.Forall₂ (fun member value ↦ kind member = .ok value) members values ↔
      (∀ member ∈ members, ∃ value, kind member = .ok value) ∧
        (members.filterMap fun member ↦ (kind member).toOption) = values := by
  induction members generalizing values with
  | nil => simp [eq_comm]
  | cons member rest ih =>
    rw [List.forall₂_cons_left_iff, List.forall_mem_cons]
    cases hkind : kind member with
    | error complaint => simp
    | ok value => simp [ih, hkind, Except.toOption, and_assoc, eq_comm]

/-! ## Forms -/

/-- What a mapping has under a name, null when nothing is there. -/
def Value.under (name : String) : Value → Value
  | .map entries => lookup name entries
  | _ => .null

namespace Form

theorem assemble_eq_ok_iff {complaints : List (Option (String × Complaint))} {a b : α} :
    assemble complaints a = .ok b ↔ (∀ complaint ∈ complaints, complaint = none) ∧ a = b := by
  rw [assemble, Complaint.settle_eq_ok_iff, List.filterMap_eq_nil_iff]
  rfl

theorem fields_eq_ok_iff {value : Value} {body : List (Value × Value)} :
    fields value = .ok body ↔ value = .map body ∨ value = .null ∧ body = [] := by
  cases value <;> simp [fields, eq_comm]

theorem under_eq_lookup {value : Value} {body : List (Value × Value)}
    (h : fields value = .ok body) (name : String) : value.under name = Value.lookup name body := by
  rcases fields_eq_ok_iff.1 h with rfl | ⟨rfl, rfl⟩ <;> rfl

end Form

/-! ## Fields -/

namespace Field

variable {kind : Value → Checked α} {name : String} {body : List (Value × Value)}

theorem present_eq_ok_iff {value : Value} {a : α} :
    present kind value = .ok a ↔ value.isNull = false ∧ kind value = .ok a := by
  rw [present]
  cases value.isNull <;> simp

theorem required_eq_ok_iff {a? : Option α} :
    required kind name body = .ok a? ↔
      ∃ value a, Value.valueAt? name body = some value ∧ kind value = .ok a ∧ a? = some a := by
  rw [required, check]
  cases Value.valueAt? name body with
  | none => simp
  | some value => cases hkind : kind value <;> simp [Except.map, hkind, eq_comm]

theorem optional_eq_ok_iff {a? : Option α} :
    optional kind name body = .ok a? ↔
      Value.valueAt? name body = none ∧ a? = none ∨
        ∃ value a, Value.valueAt? name body = some value ∧ kind value = .ok a ∧ a? = some a := by
  rw [optional, check]
  cases Value.valueAt? name body with
  | none => simp [eq_comm]
  | some value => cases hkind : kind value <;> simp [Except.map, hkind, eq_comm]

/-- Where null does not pass, a field that is left out and one that is null are refused alike. -/
theorem required_lookup_eq_ok_iff (hnull : ∀ a, kind .null ≠ .ok a) {a? : Option α} :
    required kind name body = .ok a? ↔ ∃ a, kind (Value.lookup name body) = .ok a ∧ a? = some a := by
  rw [required_eq_ok_iff, Value.lookup]
  cases Value.valueAt? name body with
  | none => simp [hnull]
  | some value => simp

/-! ## Texts -/

theorem textFaults_eq_nil_iff {limit? : Option ℕ} {s : String} :
    textFaults limit? s = [] ↔ (∀ limit ∈ limit?, s.length ≤ limit) ∧ hasNull s = false := by
  unfold textFaults
  rw [List.append_eq_nil_iff]
  refine and_congr ?_ (by simp)
  cases limit? <;> simp

/-- Characters pass when they are neither empty nor, if trimmed, blank, and have no faults. -/
theorem taken_eq_ok_iff (isEmpty isTrimmed : Bool) (limit? : Option ℕ) (raw s : String) :
    (if isEmpty || (isTrimmed && (Text.trim raw).isEmpty) then
      .error (.of "This field may not be blank.")
    else
      let taken := if isTrimmed then Text.trim raw else raw
      match textFaults limit? taken with
      | [] => .ok taken
      | faults => .error (.messages faults) : Checked String) = .ok s ↔
    isEmpty = false ∧ (isTrimmed = true → s ≠ "") ∧
      s = (if isTrimmed then Text.trim raw else raw) ∧ textFaults limit? s = [] := by
  dsimp only
  split
  · next hblank =>
    rw [Bool.or_eq_true, Bool.and_eq_true, String.isEmpty_iff] at hblank
    refine ⟨nofun, fun ⟨hfilled, htrimmed, htaken, _⟩ ↦ ?_⟩
    obtain hempty | ⟨rfl, htrim⟩ := hblank
    · exact absurd hfilled (by simp [hempty])
    · exact absurd (htaken.trans htrim) (htrimmed rfl)
  · next hfilled =>
    rw [Bool.not_eq_true, Bool.or_eq_false_iff, Bool.and_eq_false_imp] at hfilled
    obtain ⟨hempty, htrim⟩ := hfilled
    split
    · next hfaults =>
      rw [Except.ok.injEq]
      constructor
      · rintro rfl
        refine ⟨hempty, fun htrimmed hblank ↦ ?_, rfl, hfaults⟩
        rw [if_pos htrimmed] at hblank
        simpa [hblank] using htrim htrimmed
      · exact fun h ↦ h.2.2.1.symm
    · next hfaults =>
      refine ⟨nofun, fun ⟨_, _, htaken, hnone⟩ ↦ ?_⟩
      exact absurd (htaken ▸ hnone) hfaults

/-- A text passes when it is not blank and has no faults; a trimmed one is taken over without the
blanks around it. -/
theorem text_eq_ok_iff {isTrimmed : Bool} {limit? : Option ℕ} {value : Value} {s : String} :
    text isTrimmed limit? value = .ok s ↔ value ≠ .text "" ∧ (isTrimmed = true → s ≠ "") ∧
      (∃ raw, characters? value = some raw ∧ s = if isTrimmed then Text.trim raw else raw) ∧
        textFaults limit? s = [] := by
  cases value with
  | text raw =>
    refine (taken_eq_ok_iff raw.isEmpty isTrimmed limit? raw s).trans ?_
    simp [characters?]
  | int n =>
    refine (taken_eq_ok_iff false isTrimmed limit? (Value.int n).toText s).trans ?_
    simp [characters?]
  | float x =>
    refine (taken_eq_ok_iff false isTrimmed limit? (Value.float x).toText s).trans ?_
    simp [characters?]
  | _ =>
    simp only [characters?, text, present, Value.isNull]
    split <;> simp

theorem text_null_ne_ok (isTrimmed : Bool) (limit? : Option ℕ) (s : String) :
    text isTrimmed limit? .null ≠ .ok s := by
  intro h
  obtain ⟨-, -, ⟨raw, hraw, -⟩, -⟩ := text_eq_ok_iff.1 h
  nomatch hraw

/-! ## Mappings and lists -/

variable {kind : Value → Checked Value} {value checked : Value}

/-- An entry that passes has its key as a text. -/
theorem entries_eq_ok_iff {pairs entries : List (Value × Value)} :
    Field.entries kind pairs = .ok entries ↔
      List.Forall₂ (fun pair entry ↦ entry.1 = .text pair.1.toText ∧ kind pair.2 = .ok entry.2)
        pairs entries := by
  let entryOf (pair : Value × Value) : Checked (Value × Value) :=
    (kind pair.2).map fun value ↦ (.text pair.1.toText, value)
  have hentry (pair entry : Value × Value) : entryOf pair = .ok entry ↔
      entry.1 = .text pair.1.toText ∧ kind pair.2 = .ok entry.2 := by
    obtain ⟨key, value⟩ := entry
    cases hkind : kind pair.2 <;> simp [entryOf, Except.map, hkind, eq_comm]
  have htaken : (fun pair ↦ (entryOf pair).toOption) = fun pair : Value × Value ↦
      (kind pair.2).toOption.map fun value ↦ (Value.text pair.1.toText, value) := by
    funext pair
    cases hkind : kind pair.2 <;> simp [entryOf, Except.map, hkind, Except.toOption]
  have hpasses (pair : Value × Value) :
      (∃ entry, entryOf pair = .ok entry) ↔ ∃ value, kind pair.2 = .ok value := by
    cases hkind : kind pair.2 <;> simp [entryOf, Except.map, hkind]
  simp only [← hentry]
  rw [forall₂_checks_iff, htaken, Field.entries]
  refine Complaint.settle_parts_eq_ok_iff.trans ?_
  simp only [List.forall_mem_map, List.filterMap_map, hpasses]
  rfl

theorem mapping_eq_ok_iff :
    mapping kind value = .ok checked ↔ ∃ pairs entries, value = .map pairs ∧
      checked = .map entries ∧
        List.Forall₂ (fun pair entry ↦ entry.1 = .text pair.1.toText ∧ kind pair.2 = .ok entry.2)
          pairs entries := by
  cases value with
  | map pairs =>
    simp only [mapping, ← entries_eq_ok_iff]
    cases hentries : Field.entries kind pairs <;> simp [Except.map, hentries, eq_comm]
  | _ => simp [mapping]

theorem listOf_eq_ok_iff :
    listOf kind value = .ok checked ↔ ∃ items members, value = .list items ∧
      checked = .list members ∧
        List.Forall₂ (fun item member ↦ kind item = .ok member) items members := by
  cases value with
  | list items =>
    have hplaces : (items.zipIdx.map fun place ↦ (toString place.2, kind place.1)).filterMap
        (fun part ↦ part.2.toOption) = items.filterMap fun item ↦ (kind item).toOption := by
      rw [List.filterMap_map]
      conv_rhs => rw [← List.zipIdx_map_fst 0 items, List.filterMap_map]
      rfl
    have hpasses : (∀ part ∈ items.zipIdx.map fun place ↦ (toString place.2, kind place.1),
        ∃ value, part.2 = .ok value) ↔ ∀ item ∈ items, ∃ value, kind item = .ok value := by
      conv_rhs => rw [← List.zipIdx_map_fst 0 items]
      simp only [List.forall_mem_map]
    rw [listOf]
    refine Complaint.settle_parts_eq_ok_iff.trans ?_
    refine (and_congr hpasses (Eq.congr_left (congrArg Value.list hplaces))).trans ?_
    simp only [forall₂_checks_iff, Value.list.injEq]
    simp [eq_comm, and_comm]
  | _ => simp [listOf]

end Field

end PayFormula
