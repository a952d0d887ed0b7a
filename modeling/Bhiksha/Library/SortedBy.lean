import Mathlib.Data.List.Sort

/-! Stable sorting by a key: the order of the input does not matter where no two keys are equal. -/

namespace Library

variable {α κ : Type} [LinearOrder κ] (key : α → κ)

def sortedBy (xs : List α) : List α := xs.insertionSort fun a b => key a ≤ key b

variable {key} {xs ys : List α}

theorem sortedBy_perm (xs : List α) : (sortedBy key xs).Perm xs := List.perm_insertionSort _ xs

@[simp] theorem mem_sortedBy {a : α} : a ∈ sortedBy key xs ↔ a ∈ xs := (sortedBy_perm xs).mem_iff

@[simp] theorem length_sortedBy : (sortedBy key xs).length = xs.length := (sortedBy_perm xs).length_eq

theorem sortedBy_pairwise (xs : List α) : (sortedBy key xs).Pairwise fun a b => key a ≤ key b := by
  have htotal : Std.Total fun a b : α => key a ≤ key b := ⟨fun a b => le_total (key a) (key b)⟩
  have htrans : IsTrans α fun a b => key a ≤ key b := ⟨fun a b c hab hbc => le_trans hab hbc⟩
  exact List.pairwise_insertionSort _ xs

/-- Two orders of the same items are sorted alike when their keys tell them apart. -/
theorem sortedBy_eq_of_perm (h : xs.Perm ys)
    (hkey : ∀ a ∈ xs, ∀ b ∈ xs, key a = key b → a = b) : sortedBy key xs = sortedBy key ys := by
  refine List.Perm.eq_of_pairwise (fun a b ha hb hab hba => ?_) (sortedBy_pairwise xs)
    (sortedBy_pairwise ys) ((sortedBy_perm xs).trans (h.trans (sortedBy_perm ys).symm))
  have hb' : b ∈ xs := h.mem_iff.mpr (mem_sortedBy.mp hb)
  exact hkey a (mem_sortedBy.mp ha) b hb' (le_antisymm hab hba)

/-- Strictly sorted lists of the same items are the same. -/
theorem eq_of_strictly_sorted (hxs : xs.Pairwise fun a b => key a < key b)
    (hys : ys.Pairwise fun a b => key a < key b) (hmem : ∀ a, a ∈ xs ↔ a ∈ ys) : xs = ys := by
  have hnodup {zs : List α} (h : zs.Pairwise fun a b => key a < key b) : zs.Nodup :=
    h.imp fun hlt heq => hlt.ne (congrArg key heq)
  have hperm : xs.Perm ys := (List.perm_ext_iff_of_nodup (hnodup hxs) (hnodup hys)).mpr hmem
  exact hperm.eq_of_pairwise (fun a b _ _ hab hba => absurd hab hba.asymm) hxs hys

/-- In a strictly sorted list, the items before one are those with smaller keys. -/
theorem filter_lt_of_sorted {before after : List α} {x : α}
    (h : (before ++ x :: after).Pairwise fun a b => key a < key b) :
    (before ++ x :: after).filter (fun a => key a < key x) = before := by
  obtain ⟨-, hlater, hacross⟩ := List.pairwise_append.mp h
  have hafter : ∀ a ∈ x :: after, ¬ key a < key x := by
    intro a ha
    rcases List.mem_cons.mp ha with rfl | ha
    · exact lt_irrefl _
    · exact ((List.pairwise_cons.mp hlater).1 a ha).asymm
  rw [List.filter_append, List.filter_eq_self.mpr, List.filter_eq_nil_iff.mpr, List.append_nil]
  · intro a ha
    simpa using hafter a ha
  · intro a ha
    simpa using hacross a ha x List.mem_cons_self

end Library
