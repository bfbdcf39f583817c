import Mathlib.Data.List.Basic

/-!
# Lists that give values to keys

A list of keys with values is read from its beginning (`find?`), and is changed by giving a key that
it has another value where it stands, or by putting a new key behind all others.  What was put is
what is read (`find?_putEntry`), and a key that is there once stays there once
(`nodup_keys_putEntry`).  A list that is made for some keys has their values (`find?_filterMap`), and
its order does not matter (`find?_perm`).
-/

namespace HourlyIngest

variable {κ α : Type} [BEq κ] [LawfulBEq κ]

/-- Give a key a value, where it stands or behind all others. -/
def putEntry (entries : List (κ × α)) (key : κ) (value : α) : List (κ × α) :=
  if entries.any (·.1 == key) then
    entries.map fun entry => if entry.1 == key then (key, value) else entry
  else entries ++ [(key, value)]

variable {entries : List (κ × α)} {key : κ} {value : α}

theorem find?_eq_none_of_notMem (hkey : key ∉ entries.map Prod.fst) :
    entries.find? (·.1 == key) = none := by
  rw [List.find?_eq_none]
  intro entry hentry heq
  exact hkey (eq_of_beq heq ▸ List.mem_map_of_mem hentry)

theorem notMem_of_any {key : κ} (hnone : ¬ entries.any (·.1 == key) = true) :
    key ∉ entries.map Prod.fst := by
  intro hmem
  obtain ⟨entry, hentry, hkey⟩ := List.mem_map.mp hmem
  exact hnone (List.any_eq_true.mpr ⟨entry, hentry, by simp [hkey]⟩)

theorem find?_putEntry (entries : List (κ × α)) (key : κ) (value : α) (other : κ) :
    ((putEntry entries key value).find? (·.1 == other)).map (·.2) =
      if other == key then some value else (entries.find? (·.1 == other)).map (·.2) := by
  unfold putEntry
  split
  · next hany =>
    -- the value is changed where it stands, and no entry gets another key
    have hkey : ∀ entry : κ × α,
        ((if entry.1 == key then (key, value) else entry).1 == other) = (entry.1 == other) := by
      intro entry
      split
      · next heq => rw [eq_of_beq heq]
      · rfl
    simp only [List.find?_map, Function.comp_def, hkey, Option.map_map]
    obtain ⟨entry, hmem, hentry⟩ := List.any_eq_true.mp hany
    cases hfind : entries.find? (·.1 == other) with
    | none =>
        split
        · next heq =>
          rw [eq_of_beq heq] at hfind
          exact absurd hentry (List.find?_eq_none.mp hfind entry hmem)
        · rfl
    | some found =>
        have hfound : found.1 = other := by simpa using List.find?_some hfind
        by_cases heq : other = key <;> simp [hfound, heq]
  · next hnone =>
    rw [List.find?_append]
    by_cases heq : other = key
    · subst heq
      simp [find?_eq_none_of_notMem (notMem_of_any hnone)]
    · have hne : (key == other) = false := by simpa using Ne.symm heq
      simp [hne, heq]

omit [LawfulBEq κ] in
/-- The keys are those that were there before, and the new one. -/
theorem mem_keys_putEntry {other : κ} (hother : other ∈ (putEntry entries key value).map Prod.fst) :
    other = key ∨ other ∈ entries.map Prod.fst := by
  unfold putEntry at hother
  split at hother
  · rw [List.map_map] at hother
    obtain ⟨entry, hentry, rfl⟩ := List.mem_map.mp hother
    simp only [Function.comp_apply]
    split
    · exact Or.inl rfl
    · exact Or.inr (List.mem_map_of_mem hentry)
  · simpa [or_comm] using hother

theorem nodup_keys_putEntry (hnodup : (entries.map Prod.fst).Nodup) :
    ((putEntry entries key value).map Prod.fst).Nodup := by
  unfold putEntry
  split
  · have hkeys : (entries.map fun entry => if entry.1 == key then (key, value) else entry).map
        Prod.fst = entries.map Prod.fst := by
      rw [List.map_map]
      refine List.map_congr_left fun entry _ => ?_
      simp only [Function.comp_apply]
      split
      · next heq => exact (eq_of_beq heq).symm
      · rfl
    rwa [hkeys]
  · next hnone =>
    rw [List.map_append, List.nodup_append]
    refine ⟨hnodup, by simp, ?_⟩
    intro other hother last hlast heq
    rw [List.map_singleton, List.mem_singleton] at hlast
    rw [heq, hlast] at hother
    exact notMem_of_any hnone hother

/-- Where a key is there once, its entry is the one that is read. -/
theorem find?_of_mem (hnodup : (entries.map Prod.fst).Nodup) (hmem : (key, value) ∈ entries) :
    (entries.find? (·.1 == key)).map (·.2) = some value := by
  induction entries with
  | nil => simp at hmem
  | cons entry rest ih =>
      rw [List.map_cons, List.nodup_cons] at hnodup
      rcases List.mem_cons.mp hmem with rfl | hrest
      · simp
      · have hne : (entry.1 == key) = false := by
          rw [beq_eq_false_iff_ne]
          intro heq
          exact hnodup.1 (heq ▸ List.mem_map_of_mem (f := Prod.fst) hrest)
        rw [List.find?_cons, hne]
        exact ih hnodup.2 hrest

/-- In a list made for some keys, each of them has its value. -/
theorem find?_filterMap (keys : List κ) (value? : κ → Option α) (key : κ) :
    ((keys.filterMap fun key => (value? key).map (key, ·)).find? (·.1 == key)).map (·.2) =
      if key ∈ keys then value? key else none := by
  induction keys with
  | nil => rfl
  | cons first rest ih =>
      cases hvalue : value? first with
      | none =>
          rw [List.filterMap_cons_none (by rw [hvalue]; rfl), ih]
          by_cases heq : key = first
          · subst heq
            simp [hvalue]
          · simp [heq]
      | some value =>
          rw [List.filterMap_cons_some (by rw [hvalue]; rfl), List.find?_cons]
          by_cases heq : key = first
          · subst heq
            simp [hvalue]
          · have hne : (first == key) = false := by simpa using Ne.symm heq
            simp only [hne, ih, List.mem_cons, heq, false_or]

omit [BEq κ] [LawfulBEq κ] in
/-- The keys of such a list are some of those that it was made for, in their order. -/
theorem keys_filterMap_sublist (keys : List κ) (value? : κ → Option α) :
    ((keys.filterMap fun key => (value? key).map (key, ·)).map Prod.fst).Sublist keys := by
  induction keys with
  | nil => exact List.Sublist.refl _
  | cons first rest ih =>
      cases hvalue : value? first with
      | none =>
          rw [List.filterMap_cons_none (by rw [hvalue]; rfl)]
          exact ih.cons first
      | some value =>
          rw [List.filterMap_cons_some (by rw [hvalue]; rfl), List.map_cons]
          exact ih.cons_cons first

/-- The order of entries with different keys does not matter. -/
theorem find?_perm {other : List (κ × α)} (hperm : entries.Perm other)
    (hnodup : (entries.map Prod.fst).Nodup) (key : κ) :
    (entries.find? (·.1 == key)).map (·.2) = (other.find? (·.1 == key)).map (·.2) := by
  have hother : (other.map Prod.fst).Nodup := (hperm.map Prod.fst).nodup_iff.mp hnodup
  cases hfound : entries.find? (·.1 == key) with
  | some entry =>
      have hkey : entry.1 = key := by simpa using List.find?_some hfound
      have hmem : (key, entry.2) ∈ other :=
        hkey ▸ hperm.mem_iff.mp (List.mem_of_find?_eq_some hfound)
      exact (find?_of_mem hother hmem).symm
  | none =>
      have hkey : key ∉ other.map Prod.fst := by
        rw [← (hperm.map Prod.fst).mem_iff]
        intro hmem
        obtain ⟨entry, hentry, rfl⟩ := List.mem_map.mp hmem
        exact absurd (beq_self_eq_true entry.1) (List.find?_eq_none.mp hfound entry hentry)
      rw [find?_eq_none_of_notMem hkey]

end HourlyIngest
