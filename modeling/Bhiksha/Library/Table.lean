import Mathlib.Data.List.Nodup
import Mathlib.Algebra.BigOperators.Group.List.Basic
import Mathlib.Algebra.Order.BigOperators.Group.List

/-! Rows under a primary key, with the statements a relational store offers on them. -/
namespace Library

/-- A table: no two of its rows share a key. -/
structure Table {κ ρ : Type} (key : ρ → κ) where
  rows : List ρ
  nodup : (rows.map key).Nodup

namespace Table

variable {κ ρ : Type} [DecidableEq κ] {key : ρ → κ}

def empty : Table key := ⟨[], List.nodup_nil⟩

/-- `SELECT * WHERE key = k`. -/
def get? (t : Table key) (k : κ) : Option ρ := t.rows.find? fun r => key r = k

/-- `UPDATE SET ... WHERE p`, for an assignment that leaves the key alone. -/
def update (t : Table key) (p : ρ → Bool) (f : ρ → ρ) (hf : ∀ r, key (f r) = key r) :
    Table key where
  rows := t.rows.map fun r => if p r then f r else r
  nodup := by
    have hkey : key ∘ (fun r => if p r then f r else r) = key := by
      funext r
      by_cases hp : p r <;> simp [hp, hf]
    simpa only [List.map_map, hkey] using t.nodup

/-- The row count that `UPDATE ... WHERE p` reports. -/
def count (t : Table key) (p : ρ → Bool) : ℕ := t.rows.countP p

theorem get?_eq_none_iff (t : Table key) (k : κ) : t.get? k = none ↔ k ∉ t.rows.map key := by
  simp [get?]

/-- `INSERT` of a row whose key is free. -/
def insert (t : Table key) (r : ρ) (h : t.get? (key r) = none) : Table key where
  rows := t.rows ++ [r]
  nodup := by
    have hn := (t.get?_eq_none_iff (key r)).mp h
    simpa [List.nodup_append, t.nodup] using fun a ha he => hn (by simpa using ⟨a, ha, he⟩)

/-- `INSERT ... ON CONFLICT(key) DO UPDATE SET ...`. -/
def upsert (t : Table key) (r : ρ) (f : ρ → ρ) (hf : ∀ r, key (f r) = key r) : Table key :=
  if h : t.get? (key r) = none then t.insert r h
  else t.update (fun x => key x = key r) f hf

@[simp] theorem get?_empty (k : κ) : (empty : Table key).get? k = none := rfl

theorem key_of_get? {t : Table key} {k : κ} {r : ρ} (h : t.get? k = some r) : key r = k := by
  simpa using List.find?_some h

theorem mem_of_get? {t : Table key} {k : κ} {r : ρ} (h : t.get? k = some r) : r ∈ t.rows :=
  List.mem_of_find?_eq_some h

omit [DecidableEq κ] in
/-- A primary key determines its row. -/
theorem eq_of_key_eq (t : Table key) {a b : ρ} (ha : a ∈ t.rows) (hb : b ∈ t.rows)
    (h : key a = key b) : a = b :=
  List.inj_on_of_nodup_map t.nodup ha hb h

theorem get?_eq_some_iff (t : Table key) (k : κ) (r : ρ) :
    t.get? k = some r ↔ r ∈ t.rows ∧ key r = k := by
  constructor
  · exact fun h => ⟨mem_of_get? h, key_of_get? h⟩
  · rintro ⟨hr, rfl⟩
    cases hg : t.get? (key r) with
    | none => exact absurd (List.mem_map_of_mem hr) ((t.get?_eq_none_iff _).mp hg)
    | some x => rw [t.eq_of_key_eq (mem_of_get? hg) hr (key_of_get? hg)]

theorem get?_update (t : Table key) (p : ρ → Bool) (f : ρ → ρ) (hf : ∀ r, key (f r) = key r)
    (k : κ) : (t.update p f hf).get? k = (t.get? k).map fun r => if p r then f r else r := by
  have hkey (r : ρ) : key (if p r then f r else r) = key r := by
    by_cases hp : p r <;> simp [hp, hf]
  simp only [get?, update, List.find?_map]
  congr 2
  funext r
  simp [hkey]

theorem get?_insert (t : Table key) (r : ρ) (h : t.get? (key r) = none) (k : κ) :
    (t.insert r h).get? k = if key r = k then some r else t.get? k := by
  by_cases hk : key r = k
  · subst hk
    have hf : t.rows.find? (fun x => key x = key r) = none := h
    simp [insert, get?, List.find?_append, hf]
  · simp [insert, get?, List.find?_append, hk]

theorem get?_upsert (t : Table key) (r : ρ) (f : ρ → ρ) (hf : ∀ r, key (f r) = key r) (k : κ) :
    (t.upsert r f hf).get? k =
      if key r = k then some (((t.get? k).map f).getD r) else t.get? k := by
  unfold upsert
  split
  · next h =>
    rw [get?_insert]
    split
    · next hk => rw [← hk, h]; rfl
    · rfl
  · next h =>
    rw [get?_update]
    cases hg : t.get? k with
    | none =>
      have hne : key r ≠ k := fun hk => h (hk ▸ hg)
      simp [hne]
    | some x =>
      have hx := key_of_get? hg
      by_cases hk : key r = k
      · simp [hk, hx]
      · have hxr : key x ≠ key r := fun he => hk (he ▸ hx)
        simp [hk, hxr]

omit [DecidableEq κ] in
theorem mem_update_iff (t : Table key) (p : ρ → Bool) (f : ρ → ρ) (hf : ∀ r, key (f r) = key r)
    (r : ρ) : r ∈ (t.update p f hf).rows ↔ ∃ x ∈ t.rows, (if p x then f x else x) = r := by
  simp [update]

theorem mem_insert_iff (t : Table key) (r : ρ) (h : t.get? (key r) = none) (x : ρ) :
    x ∈ (t.insert r h).rows ↔ x ∈ t.rows ∨ x = r := by
  simp [insert]

/-- A statement that finds its key reports a positive row count. -/
theorem count_pos_of_get? {t : Table key} {k : κ} {r : ρ} (h : t.get? k = some r)
    {p : ρ → Bool} (hp : p r) : 0 < t.count p :=
  List.countP_pos_iff.mpr ⟨r, mem_of_get? h, hp⟩

/-- A statement restricted to one key touches at most one row. -/
theorem count_le_one (t : Table key) (k : κ) (p : ρ → Bool) (hp : ∀ r, p r → key r = k) :
    t.count p ≤ 1 := by
  have hle : t.count p ≤ (t.rows.map key).count k := by
    rw [count, List.count_eq_countP, List.countP_map]
    exact List.countP_mono_left fun r _ h => by simpa using hp r h
  exact Nat.le_trans hle (List.nodup_iff_count_le_one.mp t.nodup k)

section Total

variable {M : Type} [AddCommMonoid M]

/-- `SELECT SUM(w)` over the whole table. -/
def total (t : Table key) (w : ρ → M) : M := (t.rows.map w).sum

/-- The sum over the rows of every other key. -/
def rest (t : Table key) (k : κ) (w : ρ → M) : M :=
  ((t.rows.filter fun r => key r ≠ k).map w).sum

theorem total_eq_add_rest (t : Table key) (k : κ) (w : ρ → M) :
    t.total w = (t.get? k).elim 0 w + t.rest k w := by
  obtain ⟨rows, hnodup⟩ := t
  simp only [total, get?, rest]
  induction rows with
  | nil => simp
  | cons r rows ih =>
    rw [List.map_cons, List.nodup_cons] at hnodup
    by_cases hr : key r = k
    · -- no other row has the key of the head
      have hfilter : rows.filter (fun x => key x ≠ k) = rows := by
        rw [List.filter_eq_self]
        intro x hx
        rw [decide_eq_true_eq]
        intro hxk
        apply hnodup.1
        rw [hr, ← hxk]
        exact List.mem_map_of_mem hx
      rw [List.find?_cons_of_pos (by simpa using hr), List.filter_cons_of_neg (by simpa using hr),
        hfilter, List.map_cons, List.sum_cons]
      rfl
    · simp only [List.map_cons, List.sum_cons, ih hnodup.2]
      rw [List.find?_cons_of_neg (by simpa using hr), List.filter_cons_of_pos (by simpa using hr),
        List.map_cons, List.sum_cons, add_left_comm]

theorem rest_update (t : Table key) (p : ρ → Bool) (f : ρ → ρ) (hf : ∀ r, key (f r) = key r)
    {k : κ} (hp : ∀ r, p r → key r = k) (w : ρ → M) :
    (t.update p f hf).rest k w = t.rest k w := by
  simp only [rest, update, List.filter_map, List.map_map]
  have hkey : (fun r => decide (key r ≠ k)) ∘ (fun r => if p r then f r else r) =
      fun r => decide (key r ≠ k) := by
    funext r
    by_cases hr : p r <;> simp [hr, hf]
  rw [hkey]
  congr 1
  apply List.map_congr_left
  intro r hr
  have hne := of_decide_eq_true (List.mem_filter.mp hr).2
  have hpr : p r = false := by
    by_contra htouched
    rw [Bool.not_eq_false] at htouched
    exact hne (hp r htouched)
  simp [hpr]

theorem rest_insert (t : Table key) (r : ρ) (h : t.get? (key r) = none) (w : ρ → M) :
    (t.insert r h).rest (key r) w = t.rest (key r) w := by
  simp [rest, insert]

theorem rest_upsert (t : Table key) (r : ρ) (f : ρ → ρ) (hf : ∀ r, key (f r) = key r) (w : ρ → M) :
    (t.upsert r f hf).rest (key r) w = t.rest (key r) w := by
  unfold upsert
  split
  · exact t.rest_insert r _ w
  · exact t.rest_update _ f hf (fun x hx => of_decide_eq_true hx) w

theorem total_upsert (t : Table key) (r : ρ) (f : ρ → ρ) (hf : ∀ r, key (f r) = key r) (w : ρ → M) :
    (t.upsert r f hf).total w = w (((t.get? (key r)).map f).getD r) + t.rest (key r) w := by
  rw [total_eq_add_rest _ (key r), rest_upsert, get?_upsert, if_pos rfl]
  rfl

/-- An update of the row of one key. -/
theorem total_update_key (t : Table key) (k : κ) (f : ρ → ρ) (hf : ∀ r, key (f r) = key r)
    (w : ρ → M) :
    (t.update (fun r => key r = k) f hf).total w =
      (t.get? k).elim 0 (fun r => w (f r)) + t.rest k w := by
  rw [total_eq_add_rest _ k, rest_update _ _ f hf (fun r hr => of_decide_eq_true hr), get?_update]
  cases hget : t.get? k with
  | none => rfl
  | some r => simp [key_of_get? hget]

omit [DecidableEq κ] in
theorem total_update_le [PartialOrder M] [IsOrderedAddMonoid M] (t : Table key) (p : ρ → Bool)
    (f : ρ → ρ) (hf : ∀ r, key (f r) = key r) (w : ρ → M)
    (h : ∀ r ∈ t.rows, p r → w (f r) ≤ w r) : (t.update p f hf).total w ≤ t.total w := by
  unfold total update
  rw [List.map_map]
  apply List.sum_le_sum
  intro r hr
  by_cases hp : p r
  · simpa [hp] using h r hr hp
  · simp [hp]

end Total

end Table

end Library
