import Mathlib.Data.List.Basic
import Mathlib.Data.List.Induction
import Mathlib.Order.Lattice

/-! Runs of consecutive matches: a counter that is carried along a list against a window that slides
over it. -/

namespace Library

variable {α : Type} (p : α → Bool) (count : ℕ)

/-- The length of the run of matches at the end, with `run` of them before the list. -/
def streakAfter (run : ℕ) (xs : List α) : ℕ :=
  xs.foldl (fun run x => if p x then run + 1 else 0) run

/-- The items at which the counter stands at `count` or more. -/
def streaks (run : ℕ) : List α → List α
  | [] => []
  | x :: xs =>
    let run := if p x then run + 1 else 0
    if count ≤ run then x :: streaks run xs else streaks run xs

/-- The items that end a window of `count` matches. -/
def windows (xs : List α) : List α :=
  (List.range' (count - 1) (xs.length - (count - 1))).filterMap fun i =>
    if ((xs.drop (i + 1 - count)).take count).all p then xs[i]? else none

variable {p count}

theorem streakAfter_cons (run : ℕ) (x : α) (xs : List α) :
    streakAfter p run (x :: xs) = streakAfter p (if p x then run + 1 else 0) xs := rfl

theorem streakAfter_append (run : ℕ) (xs ys : List α) :
    streakAfter p run (xs ++ ys) = streakAfter p (streakAfter p run xs) ys :=
  List.foldl_append

theorem streaks_append (run : ℕ) (xs ys : List α) :
    streaks p count run (xs ++ ys) =
      streaks p count run xs ++ streaks p count (streakAfter p run xs) ys := by
  induction xs generalizing run with
  | nil => rfl
  | cons x xs ih =>
    rw [streakAfter_cons, List.cons_append]
    simp only [streaks, ih]
    generalize (if p x then run + 1 else 0) = next
    split
    · rfl
    · rfl

theorem streaks_sublist (run : ℕ) (xs : List α) : (streaks p count run xs).Sublist xs := by
  induction xs generalizing run with
  | nil => exact List.Sublist.slnil
  | cons x xs ih =>
    simp only [streaks]
    generalize (if p x then run + 1 else 0) = next
    split
    · exact (ih next).cons_cons x
    · exact (ih next).cons x

/-- A counter need not be kept beyond `count`. -/
theorem streaks_saturate {a b : ℕ} (h : min a count = min b count) (xs : List α) :
    streaks p count a xs = streaks p count b xs ∧
      min (streakAfter p a xs) count = min (streakAfter p b xs) count := by
  induction xs generalizing a b with
  | nil => exact ⟨rfl, h⟩
  | cons x xs ih =>
    have hnext : min (if p x then a + 1 else 0) count = min (if p x then b + 1 else 0) count := by
      split
      · omega
      · rfl
    have hreached : count ≤ (if p x then a + 1 else 0) ↔ count ≤ (if p x then b + 1 else 0) := by
      omega
    obtain ⟨hrest, hafter⟩ := ih hnext
    refine ⟨?_, hafter⟩
    simp only [streaks, hreached, hrest]

/-- The counter stands at `n` or more exactly when the last `n` items match. -/
theorem le_streakAfter_iff {n : ℕ} {xs : List α} :
    n ≤ streakAfter p 0 xs ↔ n ≤ xs.length ∧ (xs.drop (xs.length - n)).all p := by
  induction xs using List.reverseRecOn generalizing n with
  | nil => simp [streakAfter]
  | append_singleton xs x ih =>
    have hstep : streakAfter p 0 (xs ++ [x]) = if p x then streakAfter p 0 xs + 1 else 0 :=
      streakAfter_append 0 xs [x]
    rw [hstep, List.length_append, List.length_singleton]
    cases n with
    | zero => simp
    | succ n =>
      have hdrop : xs.length + 1 - (n + 1) ≤ xs.length := by omega
      have hsub : xs.length + 1 - (n + 1) = xs.length - n := by omega
      rw [List.drop_append_of_le_length hdrop, hsub, List.all_append, Bool.and_eq_true]
      have hsingle : [x].all p = p x := by simp
      rw [hsingle]
      cases hx : p x with
      | false => simp
      | true =>
        rw [if_pos rfl, Nat.succ_le_succ_iff, Nat.succ_le_succ_iff, ih]
        simp

theorem streaks_append_singleton (xs : List α) (x : α) :
    streaks p count 0 (xs ++ [x]) =
      streaks p count 0 xs ++ if count ≤ streakAfter p 0 (xs ++ [x]) then [x] else [] := by
  rw [streaks_append, streakAfter_append]
  rfl

theorem windows_append_singleton (hcount : 1 ≤ count) (xs : List α) (x : α) :
    windows p count (xs ++ [x]) =
      windows p count xs ++ if count ≤ streakAfter p 0 (xs ++ [x]) then [x] else [] := by
  have hlength : (xs ++ [x]).length = xs.length + 1 := by simp
  -- a window that ends before the last item is a window of the list without it
  have hearlier (k : ℕ) (hk : count - 1 + k ≤ xs.length) :
      (List.range' (count - 1) k).filterMap (fun i =>
          if (((xs ++ [x]).drop (i + 1 - count)).take count).all p then (xs ++ [x])[i]? else none) =
        (List.range' (count - 1) k).filterMap fun i =>
          if ((xs.drop (i + 1 - count)).take count).all p then xs[i]? else none := by
    apply List.filterMap_congr
    intro i hi
    obtain ⟨hge, hle⟩ := List.mem_range'_1.mp hi
    have hlt : i < xs.length := by omega
    have hdrop : i + 1 - count ≤ xs.length := by omega
    have htake : ((xs ++ [x]).drop (i + 1 - count)).take count =
        (xs.drop (i + 1 - count)).take count := by
      rw [List.drop_append_of_le_length hdrop, List.take_append_of_le_length]
      rw [List.length_drop]
      omega
    rw [htake, List.getElem?_append_left hlt]
  unfold windows
  rw [hlength]
  by_cases hlong : count ≤ xs.length + 1
  · have hsucc : xs.length + 1 - (count - 1) = xs.length - (count - 1) + 1 := by omega
    have hend : count - 1 + (xs.length - (count - 1)) = xs.length := by omega
    rw [hsucc, List.range'_concat, Nat.one_mul, hend, List.filterMap_append,
      hearlier _ (by omega)]
    congr 1
    have hlast : ((xs ++ [x]).drop (xs.length + 1 - count)).take count =
        (xs ++ [x]).drop ((xs ++ [x]).length - count) := by
      rw [hlength]
      apply List.take_of_length_le
      rw [List.length_drop, hlength]
      omega
    have hiff : count ≤ streakAfter p 0 (xs ++ [x]) ↔
        ((xs ++ [x]).drop ((xs ++ [x]).length - count)).all p = true := by
      rw [le_streakAfter_iff, hlength]
      exact and_iff_right hlong
    simp only [List.filterMap_cons, List.filterMap_nil, hlast, hiff, List.getElem?_concat_length]
    split
    · next h => split at h <;> simp_all
    · next h => split at h <;> simp_all
  · have hzero : xs.length + 1 - (count - 1) = 0 := by omega
    have hzero' : xs.length - (count - 1) = 0 := by omega
    have hshort : ¬count ≤ streakAfter p 0 (xs ++ [x]) := by
      rw [le_streakAfter_iff, hlength]
      exact fun h => hlong h.1
    rw [hzero, hzero', if_neg hshort]
    rfl

/-- The counter and the window pick the same items. -/
theorem windows_eq_streaks (hcount : 1 ≤ count) (xs : List α) :
    windows p count xs = streaks p count 0 xs := by
  induction xs using List.reverseRecOn with
  | nil =>
    unfold windows
    rw [List.length_nil, Nat.zero_sub]
    rfl
  | append_singleton xs x ih =>
    rw [windows_append_singleton hcount, streaks_append_singleton, ih]

/-- Items that do not match leave the counter at zero. -/
theorem streaks_of_none (hcount : 1 ≤ count) {xs : List α} (h : ∀ x ∈ xs, p x = false) :
    streaks p count 0 xs = [] ∧ streakAfter p 0 xs = 0 := by
  induction xs with
  | nil => exact ⟨rfl, rfl⟩
  | cons x xs ih =>
    have hx : p x = false := h x List.mem_cons_self
    have hzero : ¬count ≤ 0 := by omega
    obtain ⟨hrest, hafter⟩ := ih fun y hy => h y (List.mem_cons_of_mem x hy)
    simp only [streaks, hx, Bool.false_eq_true, if_false, hzero, streakAfter, List.foldl_cons]
    exact ⟨hrest, hafter⟩

/-- Only what the predicate says of the items matters. -/
theorem streaks_congr {q : α → Bool} {xs : List α} (h : ∀ x ∈ xs, p x = q x) (run : ℕ) :
    streaks p count run xs = streaks q count run xs ∧ streakAfter p run xs = streakAfter q run xs := by
  induction xs generalizing run with
  | nil => exact ⟨rfl, rfl⟩
  | cons x xs ih =>
    have hx : p x = q x := h x List.mem_cons_self
    obtain ⟨hrest, hafter⟩ := ih (fun y hy => h y (List.mem_cons_of_mem x hy))
      (if q x then run + 1 else 0)
    simp only [streaks, hx, hrest, streakAfter, List.foldl_cons, true_and]
    exact hafter

end Library
