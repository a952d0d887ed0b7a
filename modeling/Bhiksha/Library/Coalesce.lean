import Mathlib.Algebra.BigOperators.Group.Finset.Piecewise
import Mathlib.Algebra.GroupWithZero.Nat
import Mathlib.Data.List.Nodup

/-! Two keyed lists read as one book: where both have a row for a key, the first one speaks for it. -/

namespace Library

variable {κ α β : Type} [DecidableEq κ] (ka : α → κ) (kb : β → κ) (as : List α) (bs : List β)

/-- The rows of the second list whose key the first does not have. -/
def antiJoin : List β := bs.filter fun b => kb b ∉ as.map ka

/-- The keys of the book. -/
def bookKeys : Finset κ := (as.map ka ++ bs.map kb).toFinset

/-- The row that speaks for a key. -/
def coalesce (k : κ) : Option (α ⊕ β) :=
  ((as.find? fun a => ka a = k).map Sum.inl).or ((bs.find? fun b => kb b = k).map Sum.inr)

variable {ka kb as bs}

theorem mem_bookKeys_iff {k : κ} :
    k ∈ bookKeys ka kb as bs ↔ k ∈ as.map ka ∨ k ∈ bs.map kb := by
  simp [bookKeys]

theorem mem_antiJoin_iff {b : β} :
    b ∈ antiJoin ka kb as bs ↔ b ∈ bs ∧ kb b ∉ as.map ka := by
  simp [antiJoin]

theorem find?_key {γ : Type} {key : γ → κ} {rows : List γ} (hrows : (rows.map key).Nodup) {r : γ}
    (hr : r ∈ rows) : rows.find? (fun x => key x = key r) = some r := by
  induction rows with
  | nil => cases hr
  | cons x rows ih =>
    rw [List.map_cons, List.nodup_cons] at hrows
    rcases List.mem_cons.mp hr with rfl | hr
    · simp
    · have hne : key x ≠ key r := by
        intro heq
        apply hrows.1
        rw [heq]
        exact List.mem_map_of_mem hr
      rw [List.find?_cons_of_neg (by simpa using hne)]
      exact ih hrows.2 hr

theorem coalesce_left (has : (as.map ka).Nodup) {a : α} (ha : a ∈ as) :
    coalesce ka kb as bs (ka a) = some (.inl a) := by
  simp [coalesce, find?_key has ha]

theorem coalesce_right (hbs : (bs.map kb).Nodup) {b : β} (hb : b ∈ antiJoin ka kb as bs) :
    coalesce ka kb as bs (kb b) = some (.inr b) := by
  obtain ⟨hmem, hfree⟩ := mem_antiJoin_iff.mp hb
  have hnone : as.find? (fun a => ka a = kb b) = none := by
    rw [List.find?_eq_none]
    intro a ha heq
    apply hfree
    rw [← of_decide_eq_true heq]
    exact List.mem_map_of_mem ha
  simp [coalesce, hnone, find?_key hbs hmem]

theorem nodup_keys (has : (as.map ka).Nodup) (hbs : (bs.map kb).Nodup) :
    (as.map ka ++ (antiJoin ka kb as bs).map kb).Nodup := by
  have hsub : ((antiJoin ka kb as bs).map kb).Nodup :=
    hbs.sublist (List.filter_sublist.map kb)
  rw [List.nodup_append]
  refine ⟨has, hsub, ?_⟩
  intro k hk k' hk' heq
  obtain ⟨b, hb, rfl⟩ := List.mem_map.mp hk'
  apply (mem_antiJoin_iff.mp hb).2
  rwa [← heq]

theorem bookKeys_eq :
    bookKeys ka kb as bs = (as.map ka ++ (antiJoin ka kb as bs).map kb).toFinset := by
  ext k
  rw [mem_bookKeys_iff, List.mem_toFinset, List.mem_append]
  constructor
  · rintro (hk | hk)
    · exact Or.inl hk
    · by_cases hleft : k ∈ as.map ka
      · exact Or.inl hleft
      · obtain ⟨b, hb, rfl⟩ := List.mem_map.mp hk
        exact Or.inr (List.mem_map_of_mem (mem_antiJoin_iff.mpr ⟨hb, hleft⟩))
  · rintro (hk | hk)
    · exact Or.inl hk
    · obtain ⟨b, hb, rfl⟩ := List.mem_map.mp hk
      exact Or.inr (List.mem_map_of_mem (mem_antiJoin_iff.mp hb).1)

/-- Every key of the book has a row that speaks for it. -/
theorem coalesce_cases (has : (as.map ka).Nodup) (hbs : (bs.map kb).Nodup) {k : κ}
    (hk : k ∈ bookKeys ka kb as bs) :
    (∃ a ∈ as, coalesce ka kb as bs k = some (.inl a)) ∨
      ∃ b ∈ antiJoin ka kb as bs, coalesce ka kb as bs k = some (.inr b) := by
  rw [bookKeys_eq, List.mem_toFinset, List.mem_append] at hk
  rcases hk with hk | hk
  · obtain ⟨a, ha, rfl⟩ := List.mem_map.mp hk
    exact Or.inl ⟨a, ha, coalesce_left has ha⟩
  · obtain ⟨b, hb, rfl⟩ := List.mem_map.mp hk
    exact Or.inr ⟨b, hb, coalesce_right hbs hb⟩

/-- A sum over the keys of the book counts every row of the first list and those of the second that
it leaves, each once. -/
theorem sum_bookKeys {M : Type} [AddCommMonoid M] (has : (as.map ka).Nodup)
    (hbs : (bs.map kb).Nodup) (w : κ → M) :
    ∑ k ∈ bookKeys ka kb as bs, w k =
      (as.map fun a => w (ka a)).sum + ((antiJoin ka kb as bs).map fun b => w (kb b)).sum := by
  rw [bookKeys_eq, List.sum_toFinset w (nodup_keys has hbs), List.map_append, List.sum_append,
    List.map_map, List.map_map]
  rfl

theorem sum_coalesce {M : Type} [AddCommMonoid M] (has : (as.map ka).Nodup)
    (hbs : (bs.map kb).Nodup) (w : α ⊕ β → M) :
    ∑ k ∈ bookKeys ka kb as bs, (coalesce ka kb as bs k).elim 0 w =
      (as.map fun a => w (.inl a)).sum +
        ((antiJoin ka kb as bs).map fun b => w (.inr b)).sum := by
  rw [sum_bookKeys has hbs]
  congr 2
  · apply List.map_congr_left
    intro a ha
    rw [coalesce_left has ha]
    rfl
  · apply List.map_congr_left
    intro b hb
    rw [coalesce_right hbs hb]
    rfl

theorem sum_ite_eq_countP {γ : Type} (p : γ → Bool) (l : List γ) :
    (l.map fun x => if p x then 1 else 0).sum = l.countP p := by
  induction l with
  | nil => rfl
  | cons x l ih =>
    rw [List.map_cons, List.sum_cons, List.countP_cons, ih]
    omega

theorem card_coalesce (has : (as.map ka).Nodup) (hbs : (bs.map kb).Nodup) (p : α ⊕ β → Bool) :
    ((bookKeys ka kb as bs).filter fun k => (coalesce ka kb as bs k).any p).card =
      as.countP (fun a => p (.inl a)) + (antiJoin ka kb as bs).countP fun b => p (.inr b) := by
  have hsum := sum_coalesce (M := ℕ) has hbs fun row => if p row then 1 else 0
  rw [sum_ite_eq_countP, sum_ite_eq_countP] at hsum
  rw [Finset.card_filter, ← hsum]
  apply Finset.sum_congr rfl
  intro k _
  cases coalesce ka kb as bs k with
  | none => rfl
  | some row => rfl

theorem filter_key_ne {γ : Type} (key : γ → κ) (rows : List γ) (k₀ k : κ) (hk : k ≠ k₀) :
    (rows.filter fun r => key r ≠ k₀).find? (fun r => key r = k) =
      rows.find? fun r => key r = k := by
  rw [List.find?_filter]
  congr 1
  funext r
  by_cases hr : key r = k
  · simp [hr, hk]
  · simp [hr]

/-- Leaving out the rows of one key on both sides leaves out that key and nothing else. -/
theorem bookKeys_filter_ne (k₀ : κ) :
    bookKeys ka kb (as.filter fun a => ka a ≠ k₀) (bs.filter fun b => kb b ≠ k₀) =
      (bookKeys ka kb as bs).erase k₀ := by
  ext k
  simp only [mem_bookKeys_iff, Finset.mem_erase, List.mem_map, List.mem_filter, decide_eq_true_eq]
  constructor
  · rintro (⟨a, ⟨ha, hne⟩, rfl⟩ | ⟨b, ⟨hb, hne⟩, rfl⟩)
    · exact ⟨hne, Or.inl ⟨a, ha, rfl⟩⟩
    · exact ⟨hne, Or.inr ⟨b, hb, rfl⟩⟩
  · rintro ⟨hne, ⟨a, ha, rfl⟩ | ⟨b, hb, rfl⟩⟩
    · exact Or.inl ⟨a, ⟨ha, hne⟩, rfl⟩
    · exact Or.inr ⟨b, ⟨hb, hne⟩, rfl⟩

theorem coalesce_filter_ne {k₀ k : κ} (hk : k ≠ k₀) :
    coalesce ka kb (as.filter fun a => ka a ≠ k₀) (bs.filter fun b => kb b ≠ k₀) k =
      coalesce ka kb as bs k := by
  rw [coalesce, coalesce, filter_key_ne ka as k₀ k hk, filter_key_ne kb bs k₀ k hk]

end Library
