import Mathlib.Data.List.Basic

/-!
# Entries by key

Trees, settings and the fields of objects are lists of entries in which a key comes once.
An entry is put among them in one way: a key that is there keeps its place and takes the new
value, and a new key comes last.  `lookup_put` and `nodup_keys_put` are what follows for the
value of a key and for the keys.
-/

namespace ProseCompiler

variable {κ α : Type} [BEq κ] [LawfulBEq κ] [DecidableEq κ] {entries : List (κ × α)} {key : κ}

omit [DecidableEq κ] in
theorem lookup_eq_none_of_any_eq_false (hany : (entries.any fun (k, _) => k == key) = false) :
    entries.lookup key = none := by
  rw [List.lookup_eq_none_iff]
  intro entry hentry
  have hne := List.any_eq_false.mp hany entry hentry
  simp only [beq_iff_eq] at hne
  simpa using Ne.symm hne

/-- Replacing the value of a key changes that key alone, if it is there. -/
theorem lookup_map_replace (entries : List (κ × α)) (key other : κ) (value : α) :
    (entries.map fun (k, v) => if k = key then (k, value) else (k, v)).lookup other =
      if other = key then (entries.lookup key).map fun _ => value else entries.lookup other := by
  induction entries with
  | nil => simp
  | cons entry entries ih =>
    obtain ⟨k, v⟩ := entry
    rw [List.map_cons, List.lookup_cons, List.lookup_cons, List.lookup_cons, ih]
    by_cases hother : other = key <;> by_cases hk : k = key <;> by_cases hsame : other = k <;>
      simp_all [beq_eq_false_iff_ne.mpr, Ne.symm]

/-- Putting a value under a key decides that key and keeps every other. -/
theorem lookup_put (entries : List (κ × α)) (key other : κ) (value : α) :
    (if entries.any fun (k, _) => k == key then
        entries.map fun (k, v) => if k = key then (k, value) else (k, v)
      else entries ++ [(key, value)]).lookup other =
      if other = key then some value else entries.lookup other := by
  cases hany : entries.any fun (k, _) => k == key with
  | false =>
    have hnone := lookup_eq_none_of_any_eq_false hany
    by_cases hother : other = key
    · subst hother
      simp [List.lookup_append, hnone]
    · have hnew : List.lookup other [(key, value)] = none := by simp [hother]
      simp [List.lookup_append, hnew, hother]
  | true =>
    obtain ⟨⟨k, v⟩, hentry, hk⟩ := List.any_eq_true.mp hany
    have hk : k = key := by simpa using hk
    have hsome : (entries.lookup key).isSome := by
      rw [List.lookup_isSome_iff]
      exact ⟨(k, v), hentry, by simp [hk]⟩
    obtain ⟨old, hold⟩ := Option.isSome_iff_exists.mp hsome
    simp only [if_true, lookup_map_replace, hold, Option.map_some]

/-- Putting a value under a key keeps the keys apart. -/
theorem nodup_keys_put (key : κ) (value : α) (h : (entries.map Prod.fst).Nodup) :
    ((if entries.any fun (k, _) => k == key then
        entries.map fun (k, v) => if k = key then (k, value) else (k, v)
      else entries ++ [(key, value)]).map Prod.fst).Nodup := by
  split
  · have hsame : (entries.map fun (k, v) => if k = key then (k, value) else (k, v)).map Prod.fst =
        entries.map Prod.fst := by
      rw [List.map_map]
      refine List.map_congr_left fun entry _ => ?_
      simp only [Function.comp_apply]
      split <;> rfl
    rw [hsame]
    exact h
  · next hnew =>
    rw [List.map_append, List.nodup_append]
    refine ⟨h, by simp, ?_⟩
    rintro other hother _ hkey rfl
    obtain ⟨entry, hentry, rfl⟩ := List.mem_map.mp hother
    have hsame : entry.1 = key := List.mem_singleton.mp hkey
    exact hnew (List.any_eq_true.mpr ⟨entry, hentry, beq_iff_eq.mpr hsame⟩)

/-- The value of a key is the one it stands with, if the keys are apart. -/
theorem mem_iff_lookup_eq_some (hapart : (entries.map Prod.fst).Nodup) {value : α} :
    (key, value) ∈ entries ↔ entries.lookup key = some value := by
  induction entries with
  | nil => simp
  | cons entry entries ih =>
    obtain ⟨k, v⟩ := entry
    rw [List.map_cons, List.nodup_cons] at hapart
    rw [List.mem_cons, List.lookup_cons, ih hapart.2]
    by_cases hk : key = k
    · subst hk
      have hnone : entries.lookup key = none := by
        rw [List.lookup_eq_none_iff]
        intro entry hentry
        have hne : entry.1 ≠ key := by
          intro hsame
          exact hapart.1 (List.mem_map.mpr ⟨entry, hentry, hsame⟩)
        simpa using Ne.symm hne
      simp [hnone, eq_comm]
    · simp [hk, beq_eq_false_iff_ne.mpr hk]

/-- The order of the entries does not show in a lookup, if the keys are apart. -/
theorem lookup_eq_of_perm {others : List (κ × α)} (hapart : (entries.map Prod.fst).Nodup)
    (h : entries.Perm others) : entries.lookup key = others.lookup key := by
  have hothers : (others.map Prod.fst).Nodup := (h.map Prod.fst).nodup_iff.mp hapart
  refine Option.ext fun value => ?_
  rw [← mem_iff_lookup_eq_some hapart, ← mem_iff_lookup_eq_some hothers, h.mem_iff]

end ProseCompiler
