import Mathlib.Data.List.Basic
import Mathlib.Data.List.DropRight

/-! Columns of a table whose value in a row depends on no later row. -/

namespace Library

variable {α β γ δ : Type}

/-- The column of a prefix is the prefix of the column. -/
def Causal (f : List α → List β) : Prop := ∀ n xs, f (xs.take n) = (f xs).take n

/-- The column that gives each row the value of a function of the rows up to it. -/
def prefixMap (g : List α → β) (xs : List α) : List β :=
  (List.range xs.length).map fun i => g (xs.take (i + 1))

@[simp] theorem length_prefixMap (g : List α → β) (xs : List α) :
    (prefixMap g xs).length = xs.length := by
  simp [prefixMap]

theorem causal_prefixMap (g : List α → β) : Causal (prefixMap g) := by
  intro n xs
  have hrange : List.range (min n xs.length) = (List.range xs.length).take n := by
    rw [List.take_range]
  rw [prefixMap, prefixMap, List.length_take, ← List.map_take, hrange]
  apply List.map_congr_left
  intro i hi
  rw [← hrange, List.mem_range] at hi
  have hle : i + 1 ≤ n := by omega
  rw [List.take_take, min_eq_left hle]

theorem causal_id : Causal (fun xs : List α => xs) := fun _ _ => rfl

theorem causal_map (f : α → β) : Causal (List.map f) := fun _ _ => List.map_take

theorem Causal.comp {g : List β → List γ} {f : List α → List β} (hg : Causal g) (hf : Causal f) :
    Causal fun xs => g (f xs) := by
  intro n xs
  dsimp only
  rw [hf n xs, hg n (f xs)]

theorem Causal.zipWith {f : List α → List β} {g : List α → List γ} (hf : Causal f) (hg : Causal g)
    (k : β → γ → δ) : Causal fun xs => List.zipWith k (f xs) (g xs) := by
  intro n xs
  dsimp only
  rw [hf n xs, hg n xs, List.take_zipWith]

theorem Causal.mapIdx {f : List α → List β} (hf : Causal f) (k : ℕ → β → γ) :
    Causal fun xs => (f xs).mapIdx k := by
  intro n xs
  dsimp only
  rw [hf n xs]
  apply List.ext_getElem?
  intro i
  by_cases hi : i < n
  · simp [hi]
  · -- neither table has a row there
    have hshort : ((f xs).take n).length ≤ i := (List.length_take_le n _).trans (Nat.le_of_not_lt hi)
    have hlong : (((f xs).mapIdx k).take n).length ≤ i :=
      (List.length_take_le n _).trans (Nat.le_of_not_lt hi)
    rw [List.getElem?_mapIdx, List.getElem?_eq_none hshort, List.getElem?_eq_none hlong]
    rfl

/-- The column of a longer table begins with that of the shorter one. -/
theorem Causal.append {f : List α → List β} (hf : Causal f) (xs ys : List α) :
    f (xs ++ ys) = f xs ++ (f (xs ++ ys)).drop xs.length := by
  have hbefore : f xs = (f (xs ++ ys)).take xs.length := by
    rw [← hf, List.take_left]
  rw [hbefore]
  exact (List.take_append_drop _ _).symm

/-- A table in which the rows with a property come first. -/
theorem filter_append_filter_not {p : α → Bool} {xs : List α}
    (h : xs.Pairwise fun x y => p y = true → p x = true) :
    xs.filter p ++ xs.filter (fun x => !p x) = xs := by
  induction xs with
  | nil => rfl
  | cons x xs ih =>
    obtain ⟨hx, hrest⟩ := List.pairwise_cons.mp h
    cases hp : p x with
    | true => simp [hp, ih hrest]
    | false =>
      have hnone : ∀ y ∈ xs, p y = false := by
        intro y hy
        by_contra hpy
        simp [hx y hy (by simpa using hpy)] at hp
      have hfirst : xs.filter p = [] := by simpa using hnone
      have hothers : xs.filter (fun y => !p y) = xs := by simpa using hnone
      simp [hp, hfirst, hothers]

end Library
