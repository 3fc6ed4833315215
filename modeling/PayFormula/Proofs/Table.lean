import Mathlib
import PayFormula.Table

/-!
# Tables

A table has each key once, as far as its own equality can tell, and keeps for every key what was put
last.  Equality of keys need not be equality of data: all that is asked of it, and only among the
keys at hand, is that it is symmetric and transitive.
-/

namespace PayFormula.Table

variable {κ α : Type}

def keys (table : Table κ α) : List κ := table.map (·.1)

@[simp]
theorem keys_cons (entry : κ × α) (rest : Table κ α) : keys (entry :: rest) = entry.1 :: keys rest :=
  rfl

theorem mem_keys_of_mem {entry : κ × α} {table : Table κ α} (h : entry ∈ table) :
    entry.1 ∈ table.keys :=
  List.mem_map_of_mem h

variable [BEq κ]

/-- No key equals one that came before it. -/
def Distinct (table : Table κ α) : Prop := table.keys.Pairwise fun earlier later ↦ ¬earlier == later

/-- The key of an entry and a key that was put there: the same datum, or an equal one. -/
def SameKey (recorded put : κ) : Prop := recorded = put ∨ recorded == put

/-- Equality of keys is symmetric and transitive among those of a class. -/
structure Regular (S : κ → Prop) : Prop where
  symm : ∀ a b, S a → S b → a == b → b == a
  trans : ∀ a b c, S a → S b → S c → a == b → b == c → a == c

/-! ## One entry -/

theorem keys_put (key : κ) (value : α) (table : Table κ α) :
    (table.put key value).keys =
      if table.keys.any (· == key) then table.keys else table.keys ++ [key] := by
  induction table with
  | nil => rfl
  | cons entry rest ih =>
    obtain ⟨first, old⟩ := entry
    rw [put]
    by_cases hfirst : first == key
    · simp [hfirst]
    · simp only [hfirst, Bool.false_eq_true, if_false, keys_cons, ih, List.any_cons, Bool.false_or]
      split <;> rfl

theorem distinct_put {table : Table κ α} (h : table.Distinct) (key : κ) (value : α) :
    (table.put key value).Distinct := by
  unfold Distinct
  rw [keys_put]
  split
  · exact h
  · rename_i hnone
    rw [List.pairwise_append]
    refine ⟨h, List.pairwise_singleton _ _, ?_⟩
    intro first hfirst later hlater
    obtain rfl := List.mem_singleton.1 hlater
    intro hequal
    exact hnone (List.any_eq_true.2 ⟨first, hfirst, hequal⟩)

/-- What is put is there. -/
theorem exists_mem_put (key : κ) (value : α) (table : Table κ α) :
    ∃ recorded, SameKey recorded key ∧ (recorded, value) ∈ table.put key value := by
  induction table with
  | nil => exact ⟨key, .inl rfl, List.mem_singleton_self _⟩
  | cons entry rest ih =>
    obtain ⟨first, old⟩ := entry
    rw [put]
    split
    · rename_i hequal
      exact ⟨first, .inr hequal, List.mem_cons_self⟩
    · obtain ⟨recorded, hsame, hmember⟩ := ih
      exact ⟨recorded, hsame, List.mem_cons_of_mem _ hmember⟩

/-- An entry stays when another key is put. -/
theorem mem_put_of_ne {recorded key : κ} {old : α} {table : Table κ α}
    (h : (recorded, old) ∈ table) (hne : ¬recorded == key) (value : α) :
    (recorded, old) ∈ table.put key value := by
  induction table with
  | nil => nomatch h
  | cons entry rest ih =>
    obtain ⟨first, older⟩ := entry
    rw [put]
    rcases List.mem_cons.1 h with hfirst | hrest
    · obtain ⟨rfl, rfl⟩ := Prod.mk.inj hfirst
      rw [if_neg hne]
      exact List.mem_cons_self
    · split
      · exact List.mem_cons_of_mem _ hrest
      · exact List.mem_cons_of_mem _ (ih hrest)

theorem mem_keys_of_mem_keys_put {first key : κ} {value : α} {table : Table κ α}
    (h : first ∈ (table.put key value).keys) : first ∈ table.keys ∨ first = key := by
  rw [keys_put] at h
  split at h
  · exact .inl h
  · simpa using h

theorem keys_subset_keys_put (key : κ) (value : α) (table : Table κ α) :
    table.keys ⊆ (table.put key value).keys := by
  rw [keys_put]
  split
  · exact List.Subset.refl _
  · exact List.subset_append_left _ _

/-! ## Pairs put one after another -/

theorem ofPairs_concat (pairs : List (κ × α)) (key : κ) (value : α) :
    ofPairs (pairs ++ [(key, value)]) = (ofPairs pairs).put key value := by
  rw [ofPairs, List.foldl_concat, ofPairs]

theorem distinct_ofPairs (pairs : List (κ × α)) : (ofPairs pairs).Distinct := by
  induction pairs using List.reverseRecOn with
  | nil => exact List.Pairwise.nil
  | append_singleton pairs pair ih =>
    rw [ofPairs_concat]
    exact distinct_put ih _ _

/-! ## The last pair of a key -/

variable {S : κ → Prop}

/-- What a table has after one more key was put is new, or was there under another key. -/
theorem Regular.of_mem_put (hS : Regular S) {table : Table κ α} (hdistinct : table.Distinct)
    (htable : ∀ first ∈ table.keys, S first) {key : κ} (hkey : S key) {value : α} {entry : κ × α}
    (h : entry ∈ table.put key value) :
    (entry ∈ table ∧ ¬entry.1 == key) ∨ (entry.2 = value ∧ SameKey entry.1 key) := by
  induction table with
  | nil =>
    obtain rfl := List.mem_singleton.1 h
    exact .inr ⟨rfl, .inl rfl⟩
  | cons head rest ih =>
    obtain ⟨first, old⟩ := head
    rw [keys_cons, List.forall_mem_cons] at htable
    unfold Distinct at hdistinct
    rw [keys_cons, List.pairwise_cons] at hdistinct
    rw [put] at h
    split at h
    · rename_i hequal
      rcases List.mem_cons.1 h with rfl | hrest
      · exact .inr ⟨rfl, .inr hequal⟩
      · -- a second key equal to `key` would equal the first one
        have hentry := mem_keys_of_mem hrest
        refine .inl ⟨List.mem_cons_of_mem _ hrest, fun hother ↦ hdistinct.1 _ hentry ?_⟩
        have hback := hS.symm _ _ (htable.2 _ hentry) hkey hother
        exact hS.trans _ _ _ htable.1 hkey (htable.2 _ hentry) hequal hback
    · rename_i hne
      rcases List.mem_cons.1 h with rfl | hrest
      · exact .inl ⟨List.mem_cons_self, hne⟩
      · apply (ih hdistinct.2 htable.2 hrest).imp_left
        intro hold
        exact ⟨List.mem_cons_of_mem _ hold.1, hold.2⟩

variable {pairs : List (κ × α)}

theorem forall_mem_keys_put {table : Table κ α} (htable : ∀ first ∈ table.keys, S first) {key : κ}
    (hkey : S key) (value : α) : ∀ first ∈ (table.put key value).keys, S first := by
  intro first hfirst
  rcases mem_keys_of_mem_keys_put hfirst with hold | rfl
  · exact htable first hold
  · exact hkey

theorem forall_mem_keys_overlay {earlier : Table κ α} (hearlier : ∀ first ∈ earlier.keys, S first)
    (hpairs : ∀ pair ∈ pairs, S pair.1) : ∀ first ∈ (earlier.overlay pairs).keys, S first := by
  induction pairs generalizing earlier with
  | nil => exact hearlier
  | cons pair rest ih =>
    rw [List.forall_mem_cons] at hpairs
    exact ih (forall_mem_keys_put hearlier hpairs.1 pair.2) hpairs.2

theorem forall_mem_keys_ofPairs (hpairs : ∀ pair ∈ pairs, S pair.1) :
    ∀ key ∈ (ofPairs pairs).keys, S key :=
  forall_mem_keys_overlay (List.forall_mem_nil _) hpairs

/-- A pair is in the table if no later one has an equal key. -/
theorem Regular.exists_mem_ofPairs (hS : Regular S) {earlier later : List (κ × α)} {key : κ}
    {value : α} (hpairs : ∀ pair ∈ earlier ++ (key, value) :: later, S pair.1)
    (hlater : ∀ pair ∈ later, ¬key == pair.1) :
    ∃ recorded, SameKey recorded key ∧
      (recorded, value) ∈ ofPairs (earlier ++ (key, value) :: later) := by
  induction later using List.reverseRecOn with
  | nil =>
    rw [ofPairs_concat]
    exact exists_mem_put key value _
  | append_singleton later pair ih =>
    have hregroup : earlier ++ (key, value) :: (later ++ [pair]) =
        earlier ++ (key, value) :: later ++ [pair] := by simp
    rw [hregroup, List.forall_mem_append, List.forall_mem_singleton] at hpairs
    rw [List.forall_mem_append, List.forall_mem_singleton] at hlater
    obtain ⟨recorded, hsame, hmember⟩ := ih hpairs.1 hlater.1
    refine ⟨recorded, hsame, ?_⟩
    rw [hregroup, ofPairs_concat]
    apply mem_put_of_ne hmember
    intro hequal
    rcases hsame with rfl | hsame
    · exact hlater.2 hequal
    · have hrecorded := forall_mem_keys_ofPairs hpairs.1 _ (mem_keys_of_mem hmember)
      have hkey : S key := hpairs.1 (key, value) (by simp)
      have hback := hS.symm _ _ hrecorded hkey hsame
      exact hlater.2 (hS.trans _ _ _ hkey hrecorded hpairs.2 hback hequal)

/-- Whatever is in the table comes from the last pair of its key. -/
theorem Regular.exists_of_mem_ofPairs (hS : Regular S) (hpairs : ∀ pair ∈ pairs, S pair.1)
    {entry : κ × α} (h : entry ∈ ofPairs pairs) :
    ∃ earlier key later, pairs = earlier ++ (key, entry.2) :: later ∧ SameKey entry.1 key ∧
      ∀ pair ∈ later, ¬entry.1 == pair.1 := by
  induction pairs using List.reverseRecOn with
  | nil => nomatch h
  | append_singleton pairs pair ih =>
    rw [List.forall_mem_append, List.forall_mem_singleton] at hpairs
    rw [ofPairs_concat] at h
    rcases hS.of_mem_put (distinct_ofPairs pairs) (forall_mem_keys_ofPairs hpairs.1) hpairs.2 h with
      ⟨hold, hne⟩ | ⟨hnew, hsame⟩
    · obtain ⟨earlier, key, later, rfl, hsame, hlater⟩ := ih hpairs.1 hold
      refine ⟨earlier, key, later ++ [pair], by simp, hsame, ?_⟩
      rw [List.forall_mem_append, List.forall_mem_singleton]
      exact ⟨hlater, hne⟩
    · exact ⟨pairs, pair.1, [], by rw [hnew], hsame, List.forall_mem_nil _⟩

/-! ## Looking up -/

/-- A key that is put is found with its value, and all others are found as before. -/
theorem Regular.get?_put (hS : Regular S) {table : Table κ α} (htable : ∀ first ∈ table.keys, S first)
    {key other : κ} (hkey : S key) (hother : S other) (value : α) :
    (table.put key value).get? other = if key == other then some value else table.get? other := by
  induction table with
  | nil => cases hequal : key == other <;> simp [put, get?, hequal]
  | cons entry rest ih =>
    obtain ⟨first, old⟩ := entry
    rw [keys_cons, List.forall_mem_cons] at htable
    by_cases hfirst : first == key
    · have hsame : (first == other) = (key == other) := by
        rw [Bool.eq_iff_iff]
        constructor
        · exact hS.trans _ _ _ hkey htable.1 hother (hS.symm _ _ htable.1 hkey hfirst)
        · exact hS.trans _ _ _ htable.1 hkey hother hfirst
      cases hequal : key == other <;> simp [put, get?, hfirst, hsame, hequal]
    · by_cases hsecond : first == other
      · have hne : ¬key == other := fun hequal ↦
          hfirst (hS.trans _ _ _ htable.1 hother hkey hsecond (hS.symm _ _ hkey hother hequal))
        simp [put, get?, hfirst, hsecond, hne]
      · simpa [put, get?, hfirst, hsecond] using ih htable.2

/-! ## Putting on top -/

/-- A key that is put again has the later value. -/
theorem Regular.put_put (hS : Regular S) {table : Table κ α} (htable : ∀ first ∈ table.keys, S first)
    {key again : κ} (hkey : S key) (hagain : S again) (hequal : key == again) (value new : α) :
    (table.put key value).put again new = table.put key new := by
  induction table with
  | nil => simp [put, hequal]
  | cons entry rest ih =>
    obtain ⟨first, old⟩ := entry
    rw [keys_cons, List.forall_mem_cons] at htable
    by_cases hfirst : first == key
    · have := hS.trans _ _ _ htable.1 hkey hagain hfirst hequal
      simp [put, hfirst, this]
    · have hne : ¬first == again := fun h ↦
        hfirst (hS.trans _ _ _ htable.1 hagain hkey h (hS.symm _ _ hkey hagain hequal))
      simp [put, hfirst, hne, ih htable.2]

/-- Two keys that differ may be put in either order if one of them is there already. -/
theorem Regular.put_comm (hS : Regular S) {table : Table κ α} (htable : ∀ first ∈ table.keys, S first)
    {key other : κ} (hkey : S key) (hother : S other) (hne : ¬other == key)
    (hmember : ∃ first ∈ table.keys, first == key) (value new : α) :
    (table.put other new).put key value = (table.put key value).put other new := by
  induction table with
  | nil => simp [keys] at hmember
  | cons entry rest ih =>
    obtain ⟨first, old⟩ := entry
    rw [keys_cons, List.forall_mem_cons] at htable
    rw [keys_cons, List.exists_mem_cons_iff] at hmember
    by_cases hfirst : first == key <;> by_cases hsecond : first == other
    · have hback := hS.symm _ _ htable.1 hother hsecond
      exact absurd (hS.trans _ _ _ hother htable.1 hkey hback hfirst) hne
    · simp [put, hfirst, hsecond]
    · simp [put, hfirst, hsecond]
    · simp [put, hfirst, hsecond, ih htable.2 (hmember.resolve_left hfirst)]

/-- Putting a key after a table that lacks it is putting it before, if it is there already. -/
theorem Regular.overlay_put_comm (hS : Regular S) {earlier later : Table κ α}
    (hearlier : ∀ first ∈ earlier.keys, S first) (hlater : ∀ first ∈ later.keys, S first) {key : κ}
    (hkey : S key) (hne : ∀ first ∈ later.keys, ¬first == key)
    (hmember : ∃ first ∈ earlier.keys, first == key) (value : α) :
    (earlier.overlay later).put key value = (earlier.put key value).overlay later := by
  induction later generalizing earlier with
  | nil => rfl
  | cons entry rest ih =>
    obtain ⟨other, new⟩ := entry
    rw [keys_cons, List.forall_mem_cons] at hlater hne
    obtain ⟨first, hfirst, hequal⟩ := hmember
    calc
      _ = ((earlier.put other new).overlay rest).put key value := rfl
      _ = ((earlier.put other new).put key value).overlay rest :=
        ih (forall_mem_keys_put hearlier hlater.1 new) hlater.2 hne.2
          ⟨first, keys_subset_keys_put other new earlier hfirst, hequal⟩
      _ = ((earlier.put key value).put other new).overlay rest := by
        rw [hS.put_comm hearlier hkey hlater.1 hne.1 ⟨first, hfirst, hequal⟩]
      _ = _ := rfl

theorem Regular.overlay_put (hS : Regular S) {earlier later : Table κ α}
    (hearlier : ∀ first ∈ earlier.keys, S first) (hlater : ∀ first ∈ later.keys, S first)
    (hdistinct : later.Distinct) {key : κ} (hkey : S key) (value : α) :
    earlier.overlay (later.put key value) = (earlier.overlay later).put key value := by
  induction later generalizing earlier with
  | nil => rfl
  | cons entry rest ih =>
    obtain ⟨first, old⟩ := entry
    rw [keys_cons, List.forall_mem_cons] at hlater
    unfold Distinct at hdistinct
    rw [keys_cons, List.pairwise_cons] at hdistinct
    rw [put]
    split
    · rename_i hequal
      have hne : ∀ second ∈ keys rest, ¬second == key := by
        intro second hsecond hother
        have hback := hS.symm _ _ (hlater.2 _ hsecond) hkey hother
        exact hdistinct.1 second hsecond
          (hS.trans _ _ _ hlater.1 hkey (hlater.2 _ hsecond) hequal hback)
      obtain ⟨recorded, hsame, hmember⟩ := exists_mem_put first old earlier
      have hpresent : ∃ present ∈ (earlier.put first old).keys, present == key := by
        refine ⟨recorded, mem_keys_of_mem hmember, ?_⟩
        rcases hsame with hsame | hsame
        · rw [hsame]
          exact hequal
        · have hrecorded := forall_mem_keys_put hearlier hlater.1 old _ (mem_keys_of_mem hmember)
          exact hS.trans _ _ _ hrecorded hlater.1 hkey hsame hequal
      calc
        _ = (earlier.put first value).overlay rest := rfl
        _ = ((earlier.put first old).put key value).overlay rest := by
          rw [hS.put_put hearlier hlater.1 hkey hequal]
        _ = ((earlier.put first old).overlay rest).put key value :=
          (hS.overlay_put_comm (forall_mem_keys_put hearlier hlater.1 old) hlater.2 hkey hne
            hpresent value).symm
        _ = _ := rfl
    · exact ih (forall_mem_keys_put hearlier hlater.1 old) hlater.2 hdistinct.2

/-- Pairs may be put one by one, or as the table that they build. -/
theorem Regular.overlay_ofPairs (hS : Regular S) {earlier : Table κ α}
    (hearlier : ∀ first ∈ earlier.keys, S first) (hpairs : ∀ pair ∈ pairs, S pair.1) :
    earlier.overlay (ofPairs pairs) =
      pairs.foldl (fun table pair ↦ table.put pair.1 pair.2) earlier := by
  induction pairs using List.reverseRecOn with
  | nil => rfl
  | append_singleton pairs pair ih =>
    rw [List.forall_mem_append, List.forall_mem_singleton] at hpairs
    rw [ofPairs_concat, List.foldl_concat, ← ih hpairs.1]
    exact hS.overlay_put hearlier (forall_mem_keys_ofPairs hpairs.1) (distinct_ofPairs pairs)
      hpairs.2 pair.2

end PayFormula.Table
