import Mathlib
import PayFormula.Text.Case

/-!
# Letter Case

Only a capital sigma looks at its neighbours when a text is put in lower case, so a text without
one changes character by character.  Putting a text in upper case first leaves its lower case as it
is when each character keeps its case: its upper case goes back to its own lower case, and no capital
sigma comes up.  All ASCII characters do; a sharp s, whose upper case is two letters, does not.
-/

namespace PayFormula.Text

/-- What holds of each ASCII code point holds of each ASCII character. -/
theorem forall_ascii {p : Char → Prop} (h : ∀ n < 128, p (Char.ofNat n)) {c : Char}
    (hc : c.toNat < 128) : p c := by
  have hp := h c.toNat hc
  rwa [Char.ofNat_toNat] at hp

/-! ## Lower case -/

theorem lowerFrom_eq_flatMap {cs : List Char} (h : 'Σ' ∉ cs) (afterCased : Bool) :
    lowerFrom afterCased cs = cs.flatMap lowerChar := by
  induction cs generalizing afterCased with
  | nil => rfl
  | cons c cs ih =>
    rw [List.mem_cons, not_or] at h
    simp only [lowerFrom, if_neg (Ne.symm h.1), ih h.2, List.flatMap_cons]

theorem lower_eq_flatMap {s : String} (h : 'Σ' ∉ s.toList) :
    lower s = String.ofList (s.toList.flatMap lowerChar) := by
  rw [lower, lowerFrom_eq_flatMap h]

/-- A text of characters that are their own lower case is its own lower case. -/
theorem lower_ofList_eq_self {cs : List Char} (h : ∀ c ∈ cs, lowerChar c = [c]) (hsigma : 'Σ' ∉ cs) :
    lower (String.ofList cs) = String.ofList cs := by
  have hself : cs.flatMap lowerChar = cs.flatMap fun c ↦ [c] := List.flatMap_congr h
  rw [lower_eq_flatMap (by rwa [String.toList_ofList]), String.toList_ofList, hself,
    List.flatMap_singleton']

/-! ## Upper case first -/

/-- The upper case of the character has the lower case of the character, whatever stands beside
it. -/
def KeepsCase (c : Char) : Prop :=
  'Σ' ∉ c :: upperChar c ∧ (upperChar c).flatMap lowerChar = lowerChar c

instance (c : Char) : Decidable (KeepsCase c) :=
  inferInstanceAs (Decidable ('Σ' ∉ c :: upperChar c ∧
    (upperChar c).flatMap lowerChar = lowerChar c))

theorem lower_upper {s : String} (h : ∀ c ∈ s.toList, KeepsCase c) : lower (upper s) = lower s := by
  have hsigma : 'Σ' ∉ s.toList := fun hmem ↦ (h _ hmem).1 List.mem_cons_self
  have hupper : 'Σ' ∉ (upper s).toList := by
    rw [upper, String.toList_ofList, List.mem_flatMap]
    rintro ⟨c, hc, hmem⟩
    exact (h c hc).1 (List.mem_cons_of_mem c hmem)
  calc
    lower (upper s) = String.ofList ((s.toList.flatMap upperChar).flatMap lowerChar) := by
      rw [lower_eq_flatMap hupper, upper, String.toList_ofList]
    _ = String.ofList (s.toList.flatMap lowerChar) := by
      rw [List.flatMap_assoc, List.flatMap_congr fun c hc ↦ (h c hc).2]
    _ = lower s := (lower_eq_flatMap hsigma).symm

/-- No character vanishes in another case. -/
theorem mapChar_ne_nil {several : List (ℕ × List ℕ)} (hseveral : ∀ entry ∈ several, entry.2 ≠ [])
    (shifts : List Shift) (c : Char) : mapChar several shifts c ≠ [] := by
  unfold mapChar
  split
  · next points hpoints =>
    obtain ⟨before, after, rfl, -⟩ := List.lookup_eq_some_iff.1 hpoints
    have hne : points ≠ [] := hseveral (c.toNat, points) (by simp)
    simpa using hne
  · split <;> exact List.cons_ne_nil _ _

theorem upperChar_ne_nil (c : Char) : upperChar c ≠ [] :=
  mapChar_ne_nil (by decide +kernel) upperShifts c

/-! ## ASCII -/

def asciiUpperShift : Shift := ⟨0x61, 0x7A, 1, -32⟩

def asciiLowerShift : Shift := ⟨0x41, 0x5A, 1, 32⟩

/-- Of a table only its first shift matters below the next one. -/
theorem mapChar_of_lt {bound : ℕ} {c : Char} (hc : c.toNat < bound) {several : List (ℕ × List ℕ)}
    (hseveral : ∀ entry ∈ several, bound ≤ entry.1) (first : Shift) {rest : List Shift}
    (hrest : ∀ shift ∈ rest, bound ≤ shift.first) :
    mapChar several (first :: rest) c = mapChar [] [first] c := by
  have hsequence : several.lookup c.toNat = none := by
    rw [List.lookup_eq_none_iff]
    intro entry hentry
    have := hseveral entry hentry
    simp; omega
  have hshift : rest.find? (·.covers c.toNat) = none := by
    rw [List.find?_eq_none]
    intro shift hmem
    have := hrest shift hmem
    simp [Shift.covers]; omega
  simp only [mapChar, hsequence, List.find?_cons, hshift, List.lookup_nil, List.find?_nil]

theorem upperChar_of_ascii {c : Char} (hc : c.toNat < 128) :
    upperChar c = mapChar [] [asciiUpperShift] c :=
  mapChar_of_lt hc (by decide +kernel) asciiUpperShift
    (by decide +kernel : ∀ shift ∈ upperShifts.tail, 128 ≤ shift.first)

theorem lowerChar_of_ascii {c : Char} (hc : c.toNat < 128) :
    lowerChar c = mapChar [] [asciiLowerShift] c :=
  mapChar_of_lt hc (by decide +kernel) asciiLowerShift
    (by decide +kernel : ∀ shift ∈ lowerShifts.tail, 128 ≤ shift.first)

theorem keepsCase_of_ascii {c : Char} (hc : c.toNat < 128) : KeepsCase c := by
  have hupper : ∀ d ∈ upperChar c, d.toNat < 128 := by
    have hall : (mapChar [] [asciiUpperShift] c).all (·.toNat < 128) = true :=
      forall_ascii (p := fun c ↦ (mapChar [] [asciiUpperShift] c).all (·.toNat < 128) = true)
        (by decide +kernel) hc
    rw [upperChar_of_ascii hc]
    simpa using hall
  have hlower : (upperChar c).flatMap (mapChar [] [asciiLowerShift]) = lowerChar c := by
    rw [upperChar_of_ascii hc, lowerChar_of_ascii hc]
    exact forall_ascii
      (p := fun c ↦ (mapChar [] [asciiUpperShift] c).flatMap (mapChar [] [asciiLowerShift]) =
        mapChar [] [asciiLowerShift] c)
      (by decide +kernel) hc
  have hsigma : 'Σ' ∉ c :: upperChar c := by
    intro hmem
    have hascii : ∀ d ∈ c :: upperChar c, d.toNat < 128 := by simpa [hc] using hupper
    exact absurd (hascii _ hmem) (by decide)
  refine ⟨hsigma, ?_⟩
  rw [List.flatMap_congr fun d hd ↦ lowerChar_of_ascii (hupper d hd), hlower]

end PayFormula.Text
