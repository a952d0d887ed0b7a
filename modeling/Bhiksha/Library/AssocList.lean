import Mathlib.Data.List.Nodup

/-! Association lists: what a lookup finds when the keys are told apart, and what filtering by the key
or by the value leaves of it. -/

namespace Library

variable {κ β γ : Type} [DecidableEq κ] {entries : List (κ × β)} {key : κ}

theorem isSome_lookup_iff_mem_keys : (entries.lookup key).isSome ↔ key ∈ entries.map Prod.fst := by
  induction entries with
  | nil => simp
  | cons entry rest ih =>
    rw [List.lookup_cons, List.map_cons, List.mem_cons]
    by_cases hkey : key = entry.1
    · subst hkey
      simp
    · have hbeq : (key == entry.1) = false := by simpa using hkey
      rw [hbeq]
      simpa only [hkey, false_or] using ih

theorem lookup_eq_none_of_notMem (h : key ∉ entries.map Prod.fst) : entries.lookup key = none := by
  rw [← Option.not_isSome_iff_eq_none, isSome_lookup_iff_mem_keys]
  exact h

theorem mem_of_lookup {value : β} (h : entries.lookup key = some value) : (key, value) ∈ entries := by
  obtain ⟨before, after, rfl, -⟩ := List.lookup_eq_some_iff.mp h
  simp

/-- Among distinct keys, every entry is the one that is found under its key. -/
theorem lookup_of_mem (hkeys : (entries.map Prod.fst).Nodup) {entry : κ × β} (h : entry ∈ entries) :
    entries.lookup entry.1 = some entry.2 := by
  induction entries with
  | nil => cases h
  | cons first rest ih =>
    rw [List.map_cons, List.nodup_cons] at hkeys
    rw [List.lookup_cons]
    rcases List.mem_cons.mp h with rfl | hrest
    · rw [beq_self_eq_true]
    · have hne : entry.1 ≠ first.1 := by
        intro heq
        exact hkeys.1 (heq ▸ List.mem_map_of_mem hrest)
      have hbeq : (entry.1 == first.1) = false := by simpa using hne
      rw [hbeq]
      exact ih hkeys.2 hrest

theorem lookup_filter_key (keep : κ → Bool) :
    (entries.filter fun entry => keep entry.1).lookup key =
      if keep key then entries.lookup key else none := by
  induction entries with
  | nil => simp
  | cons entry rest ih =>
    rw [List.filter_cons, List.lookup_cons]
    by_cases hkey : key = entry.1
    · subst hkey
      by_cases hkeep : keep entry.1
      · rw [if_pos hkeep, if_pos hkeep, List.lookup_cons, beq_self_eq_true]
      · rw [if_neg hkeep, ih, if_neg hkeep, if_neg hkeep]
    · have hbeq : (key == entry.1) = false := by simpa using hkey
      rw [hbeq]
      by_cases hkeep : keep entry.1
      · rw [if_pos hkeep, List.lookup_cons, hbeq, ih]
      · rw [if_neg hkeep, ih]

/-- Of columns with distinct names, those that have a value are found under their names. -/
theorem lookup_filterMap_key {columns : List γ} (name : γ → κ) (value : γ → Option β)
    (hnames : (columns.map name).Nodup) {column : γ} (h : column ∈ columns) :
    (columns.filterMap fun column => (value column).map fun v => (name column, v)).lookup
      (name column) = value column := by
  induction columns with
  | nil => cases h
  | cons first rest ih =>
    rw [List.map_cons, List.nodup_cons] at hnames
    rcases List.mem_cons.mp h with rfl | hrest
    · have hnone : (rest.filterMap fun column => (value column).map fun v => (name column, v)).lookup
          (name column) = none := by
        apply lookup_eq_none_of_notMem
        intro hmem
        obtain ⟨entry, hentry, hname⟩ := List.mem_map.mp hmem
        obtain ⟨other, hother, hvalue⟩ := List.mem_filterMap.mp hentry
        obtain ⟨v, -, rfl⟩ := Option.map_eq_some_iff.mp hvalue
        exact hnames.1 (hname ▸ List.mem_map_of_mem hother)
      rw [List.filterMap_cons]
      cases hvalue : value column with
      | none => exact hnone
      | some v => simp
    · have hne : (name column == name first) = false := by
        have hne : name column ≠ name first := fun heq => hnames.1 (heq ▸ List.mem_map_of_mem hrest)
        simpa using hne
      rw [List.filterMap_cons]
      cases hvalue : value first with
      | none => exact ih hnames.2 hrest
      | some v =>
        rw [Option.map_some, List.lookup_cons, hne]
        exact ih hnames.2 hrest

theorem lookup_map_key (keys : List κ) (value : κ → β) :
    (keys.map fun key => (key, value key)).lookup key = if key ∈ keys then some (value key) else none := by
  induction keys with
  | nil => simp
  | cons first rest ih =>
    rw [List.map_cons, List.lookup_cons]
    by_cases hkey : key = first
    · subst hkey
      simp
    · have hbeq : (key == first) = false := by simpa using hkey
      rw [hbeq, ih]
      simp [hkey]

omit [DecidableEq κ] in
theorem keys_filterMap_sublist {columns : List γ} (name : γ → κ) (value : γ → Option β) :
    ((columns.filterMap fun column => (value column).map fun v => (name column, v)).map
      Prod.fst).Sublist (columns.map name) := by
  induction columns with
  | nil => exact List.Sublist.slnil
  | cons first rest ih =>
    rw [List.filterMap_cons]
    cases value first with
    | none => exact ih.cons _
    | some v => exact ih.cons_cons _

section Put

/-- A dictionary after an assignment: an old key keeps its place, a new one goes to the end. -/
def put (key : κ) (value : β) : List (κ × β) → List (κ × β)
  | [] => [(key, value)]
  | entry :: rest => if entry.1 = key then (key, value) :: rest else entry :: put key value rest

theorem lookup_put (key other : κ) (value : β) :
    (put key value entries).lookup other = if other = key then some value else entries.lookup other := by
  induction entries with
  | nil =>
    rw [put, List.lookup_cons]
    by_cases hother : other = key
    · simp [hother]
    · have hbeq : (other == key) = false := by simpa using hother
      rw [hbeq, if_neg hother]
  | cons entry rest ih =>
    rw [put]
    by_cases hentry : entry.1 = key
    · rw [if_pos hentry, List.lookup_cons, List.lookup_cons, hentry]
      by_cases hother : other = key
      · simp [hother]
      · have hbeq : (other == key) = false := by simpa using hother
        rw [hbeq, if_neg hother]
    · rw [if_neg hentry, List.lookup_cons, List.lookup_cons, ih]
      by_cases hother : other = entry.1
      · subst hother
        simp [hentry]
      · have hbeq : (other == entry.1) = false := by simpa using hother
        rw [hbeq]

theorem keys_put (key : κ) (value : β) :
    (put key value entries).map Prod.fst =
      if key ∈ entries.map Prod.fst then entries.map Prod.fst else entries.map Prod.fst ++ [key] := by
  induction entries with
  | nil => rfl
  | cons entry rest ih =>
    rw [put]
    by_cases hentry : entry.1 = key
    · rw [if_pos hentry, if_pos (by simp [hentry]), List.map_cons, List.map_cons, hentry]
    · have hne : ¬key = entry.1 := fun h => hentry h.symm
      rw [if_neg hentry, List.map_cons, ih, List.map_cons]
      by_cases hkey : key ∈ rest.map Prod.fst
      · rw [if_pos hkey, if_pos (List.mem_cons_of_mem _ hkey)]
      · rw [if_neg hkey, if_neg (by simp [hne, hkey]), List.cons_append]

theorem keys_put_nodup (h : (entries.map Prod.fst).Nodup) (key : κ) (value : β) :
    ((put key value entries).map Prod.fst).Nodup := by
  rw [keys_put]
  by_cases hkey : key ∈ entries.map Prod.fst
  · rwa [if_pos hkey]
  · rw [if_neg hkey, ← List.concat_eq_append]
    exact List.Nodup.concat hkey h

@[simp] theorem mem_keys_put {key other : κ} {value : β} :
    other ∈ (put key value entries).map Prod.fst ↔ other = key ∨ other ∈ entries.map Prod.fst := by
  rw [keys_put]
  by_cases hkey : key ∈ entries.map Prod.fst
  · rw [if_pos hkey]
    exact ⟨Or.inr, fun h => h.elim (fun heq => heq ▸ hkey) id⟩
  · rw [if_neg hkey, List.mem_append, List.mem_singleton, or_comm]

theorem mem_of_mem_put {key : κ} {value : β} {entry : κ × β} (h : entry ∈ put key value entries) :
    entry = (key, value) ∨ entry ∈ entries := by
  induction entries with
  | nil => exact Or.inl (List.mem_singleton.mp h)
  | cons first rest ih =>
    rw [put] at h
    by_cases hfirst : first.1 = key
    · rw [if_pos hfirst] at h
      exact (List.mem_cons.mp h).imp id (List.mem_cons_of_mem first)
    · rw [if_neg hfirst] at h
      rcases List.mem_cons.mp h with rfl | hrest
      · exact Or.inr List.mem_cons_self
      · exact (ih hrest).imp id (List.mem_cons_of_mem first)

end Put

end Library
