import SqlSession.HandleTable
/-!
# Entries of a handle table

A table keeps its sessions and its statements as lists of entries, each a key and a value.

    find? k (replace key value entries)  =  value at key, else as before     (find?_replace)
    find? k (remove key entries)         =  nothing at key, else as before   (find?_remove)
    find? key entries = some value       ↔  (key, value) ∈ entries           (find?_eq_some_iff)
    find? key (entries.filter keep)      =  what is found, if it is kept     (find?_filter)

The last two need that no key has two entries.
-/

namespace SqlSession.HandleTable

variable {κ ν : Type} [DecidableEq κ] {entries : List (κ × ν)}

/-! ## Finding -/

theorem find?_cons (key : κ) (e : κ × ν) (es : List (κ × ν)) :
    find? key (e :: es) = if e.1 = key then some e.2 else find? key es := by
  unfold find?
  rw [List.find?_cons]
  by_cases h : e.1 = key
  · simp [h]
  · simp [h]

theorem mem_of_find? {key : κ} {value : ν} (h : find? key entries = some value) :
    (key, value) ∈ entries := by
  obtain ⟨e, he, rfl⟩ := Option.map_eq_some_iff.1 h
  have hkey : e.1 = key := by simpa using List.find?_some he
  rw [← hkey]
  exact List.mem_of_find?_eq_some he

theorem find?_eq_none_iff (key : κ) : find? key entries = none ↔ ∀ e ∈ entries, e.1 ≠ key := by
  simp [find?]

/-- Where no key has two entries, finding is membership. -/
theorem find?_eq_some_iff (hunique : (entries.map (·.1)).Nodup) (key : κ) (value : ν) :
    find? key entries = some value ↔ (key, value) ∈ entries := by
  refine ⟨mem_of_find?, fun h => ?_⟩
  induction entries with
  | nil => simp at h
  | cons e es ih =>
    rw [List.map_cons, List.nodup_cons] at hunique
    rw [find?_cons]
    rcases List.mem_cons.1 h with rfl | h
    · rw [if_pos rfl]
    · have hne : e.1 ≠ key := by
        intro he
        exact hunique.1 (he ▸ List.mem_map_of_mem h)
      rw [if_neg hne]
      exact ih hunique.2 h

/-! ## Replacing -/

theorem keys_replace (key : κ) (value : ν) (es : List (κ × ν)) :
    (replace key value es).map (·.1) = es.map (·.1) := by
  unfold replace
  rw [List.map_map]
  refine List.map_congr_left fun e _ => ?_
  by_cases h : e.1 = key
  · simp [h]
  · simp [h]

theorem mem_replace {key : κ} {value : ν} {e : κ × ν} (h : e ∈ replace key value entries) :
    e = (key, value) ∨ e ∈ entries := by
  obtain ⟨e', he', rfl⟩ := List.mem_map.1 h
  by_cases hkey : e'.1 = key
  · exact .inl (if_pos hkey)
  · rw [if_neg hkey]
    exact .inr he'

theorem find?_replace (k key : κ) (value : ν) :
    find? k (replace key value entries) =
      if k = key then (find? key entries).map fun _ => value else find? k entries := by
  induction entries with
  | nil => simp [find?, replace]
  | cons e es ih =>
    have hcons : replace key value (e :: es) =
      (if e.1 = key then (key, value) else e) :: replace key value es := rfl
    rw [hcons, find?_cons, ih, find?_cons, find?_cons]
    grind

theorem find?_replace_self {key : κ} {old : ν} (value : ν) (h : find? key entries = some old) :
    find? key (replace key value entries) = some value := by
  rw [find?_replace, if_pos rfl, h, Option.map_some]

/-! ## Removing -/

theorem find?_remove (k key : κ) :
    find? k (remove key entries) = if k = key then none else find? k entries := by
  induction entries with
  | nil => simp [find?, remove]
  | cons e es ih =>
    have hcons : remove key (e :: es) =
        if e.1 = key then remove key es else e :: remove key es := by
      by_cases h : e.1 = key
      · simp [remove, h]
      · simp [remove, h]
    rw [hcons, find?_cons]
    by_cases h : e.1 = key
    · rw [if_pos h, ih]
      grind
    · rw [if_neg h, find?_cons, ih]
      grind

/-- Where no key has two entries, the entry that is removed is one. -/
theorem length_remove {key : κ} {value : ν} (hunique : (entries.map (·.1)).Nodup)
    (h : find? key entries = some value) : (remove key entries).length + 1 = entries.length := by
  induction entries with
  | nil => simp [find?] at h
  | cons e es ih =>
    rw [List.map_cons, List.nodup_cons] at hunique
    rw [find?_cons] at h
    by_cases hkey : e.1 = key
    · have hother : ∀ e' ∈ es, e'.1 ≠ key := by
        intro e' he' heq
        exact hunique.1 (hkey ▸ heq ▸ List.mem_map_of_mem he')
      have hkept : es.filter (fun e => decide (e.1 ≠ key)) = es :=
        List.filter_eq_self.2 fun e' he' => decide_eq_true (hother e' he')
      rw [remove, List.filter_cons_of_neg (by simp [hkey]), hkept, List.length_cons]
    · rw [if_neg hkey] at h
      rw [remove, List.filter_cons_of_pos (by simp [hkey]), List.length_cons, List.length_cons]
      exact congrArg (· + 1) (ih hunique.2 h)

/-! ## Keeping some -/

/-- Where no key has two entries, keeping some of them keeps what is found or hides it. -/
theorem find?_filter (hunique : (entries.map (·.1)).Nodup) (keep : κ × ν → Bool) (key : κ) :
    find? key (entries.filter keep) =
      (find? key entries).filter fun value => keep (key, value) := by
  have hkept : ((entries.filter keep).map (·.1)).Nodup :=
    hunique.sublist (List.filter_sublist.map _)
  ext value
  rw [find?_eq_some_iff hkept, List.mem_filter, Option.filter_eq_some_iff,
    find?_eq_some_iff hunique]

end SqlSession.HandleTable
