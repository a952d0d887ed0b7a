import Mathlib.Data.List.Pairwise
import Mathlib.Order.Lattice

/-! Lists of intervals in order of time: each begins when the one before it has ended. -/

namespace Library

variable {ι α : Type} [LinearOrder α] (start finish : ι → α)

structure InOrder (xs : List ι) : Prop where
  lasts : ∀ x ∈ xs, start x < finish x
  after : xs.Pairwise fun x y => finish x ≤ start y

/-- The end of the last interval. -/
def through (xs : List ι) : Option α := xs.getLast?.map finish

variable {start finish} {xs ys : List ι}

omit [LinearOrder α] in
theorem through_cons (x : ι) (xs : List ι) :
    through finish (x :: xs) = some ((through finish xs).getD (finish x)) := by
  unfold through
  rw [List.getLast?_cons]
  cases xs.getLast? with
  | none => rfl
  | some last => rfl

omit [LinearOrder α] in
theorem through_eq_none_iff : through finish xs = none ↔ xs = [] := by
  unfold through
  rw [Option.map_eq_none_iff, List.getLast?_eq_none_iff]

omit [LinearOrder α] in
theorem through_append (xs ys : List ι) :
    through finish (xs ++ ys) = (through finish ys).or (through finish xs) := by
  unfold through
  rw [List.getLast?_append]
  cases ys.getLast? with
  | none => rfl
  | some last => rfl

namespace InOrder

theorem nil : InOrder start finish ([] : List ι) := ⟨(fun _ hx => nomatch hx), List.Pairwise.nil⟩

theorem sublist (h : InOrder start finish ys) (hsub : xs.Sublist ys) : InOrder start finish xs :=
  ⟨fun x hx => h.lasts x (hsub.subset hx), h.after.sublist hsub⟩

theorem map {κ : Type} {f : κ → ι} {zs : List κ}
    (h : InOrder (fun z => start (f z)) (fun z => finish (f z)) zs) :
    InOrder start finish (zs.map f) where
  lasts x hx := by
    obtain ⟨z, hz, rfl⟩ := List.mem_map.mp hx
    exact h.lasts z hz
  after := List.pairwise_map.mpr h.after

theorem append (hx : InOrder start finish xs) (hy : InOrder start finish ys)
    (hbetween : ∀ x ∈ xs, ∀ y ∈ ys, finish x ≤ start y) : InOrder start finish (xs ++ ys) where
  lasts x hmem := by
    rcases List.mem_append.mp hmem with h | h
    · exact hx.lasts x h
    · exact hy.lasts x h
  after := List.pairwise_append.mpr ⟨hx.after, hy.after, hbetween⟩

theorem finish_lt (h : InOrder start finish xs) :
    xs.Pairwise fun x y => finish x < finish y := by
  refine h.after.imp_of_mem fun {x y} _ hy hle => ?_
  exact lt_of_le_of_lt hle (h.lasts y hy)

theorem start_lt (h : InOrder start finish xs) : xs.Pairwise fun x y => start x < start y := by
  refine h.after.imp_of_mem fun {x y} hx _ hle => ?_
  exact lt_of_lt_of_le (h.lasts x hx) hle

theorem nodup_finish (h : InOrder start finish xs) : (xs.map finish).Nodup :=
  List.pairwise_map.mpr (h.finish_lt.imp fun hlt => ne_of_lt hlt)

/-- The intervals that have ended by an instant come first. -/
theorem takeWhile_eq_filter (h : InOrder start finish xs) (now : α) :
    xs.takeWhile (fun x => finish x ≤ now) = xs.filter fun x => finish x ≤ now := by
  induction xs with
  | nil => rfl
  | cons x xs ih =>
    obtain ⟨hafter, hrest⟩ := List.pairwise_cons.mp h.finish_lt
    rw [List.takeWhile_cons, List.filter_cons]
    split
    · rw [ih (h.sublist (List.sublist_cons_self x xs))]
    · next hlate =>
      symm
      rw [List.filter_eq_nil_iff]
      intro y hy hended
      have hlt := hafter y hy
      have hle : finish y ≤ now := of_decide_eq_true hended
      exact hlate (decide_eq_true (le_of_lt (lt_of_lt_of_le hlt hle)))

theorem filter_finish_grow (h : InOrder start finish xs) {now later : α} (hle : now ≤ later) :
    xs.filter (fun x => finish x ≤ now) <+: xs.filter fun x => finish x ≤ later := by
  have hsub := h.sublist (List.filter_sublist (p := fun x => decide (finish x ≤ later)))
  have hfilter : xs.filter (fun x => finish x ≤ now) =
      (xs.filter fun x => finish x ≤ later).filter fun x => finish x ≤ now := by
    rw [List.filter_filter]
    apply List.filter_congr
    intro x _
    by_cases hx : finish x ≤ now
    · simp [hx, le_trans hx hle]
    · simp [hx]
  rw [hfilter, ← hsub.takeWhile_eq_filter]
  exact List.takeWhile_prefix _

/-- The intervals that begin before an instant, and then the others. -/
theorem split_at_start (h : InOrder start finish xs) (t : α) :
    xs = xs.filter (fun x => start x < t) ++ xs.filter fun x => t ≤ start x := by
  induction xs with
  | nil => rfl
  | cons x xs ih =>
    have hrest := ih (h.sublist (List.sublist_cons_self x xs))
    by_cases hx : start x < t
    · have hnot : ¬t ≤ start x := not_le_of_gt hx
      simp only [List.filter_cons, decide_eq_true_eq, if_pos hx, if_neg hnot, List.cons_append]
      rw [← hrest]
    · have hge : t ≤ start x := le_of_not_gt hx
      have hall : xs.filter (fun y => start y < t) = [] := by
        rw [List.filter_eq_nil_iff]
        intro y hy hlt
        have hafter := (List.pairwise_cons.mp h.start_lt).1 y hy
        exact hx (lt_trans hafter (of_decide_eq_true hlt))
      rw [hall, List.nil_append] at hrest
      simp only [List.filter_cons, decide_eq_true_eq, if_pos hge, if_neg hx, hall, List.nil_append]
      rw [← hrest]

theorem mem_lt_through {t : α} (h : InOrder start finish xs) (ht : through finish xs = some t) {x : ι}
    (hx : x ∈ xs) : finish x ≤ t ∧ start x < t := by
  obtain ⟨last, hlast, rfl⟩ := Option.map_eq_some_iff.mp ht
  obtain ⟨init, rfl⟩ := List.getLast?_eq_some_iff.mp hlast
  have hle : finish x ≤ finish last := by
    rcases List.mem_append.mp hx with hinit | hsingle
    · exact le_of_lt ((List.pairwise_append.mp h.finish_lt).2.2 x hinit last (by simp))
    · rw [List.mem_singleton.mp hsingle]
  exact ⟨hle, lt_of_lt_of_le (h.lasts x hx) hle⟩

theorem through_le_start {t : α} (h : InOrder start finish (xs ++ ys))
    (ht : through finish xs = some t) {y : ι} (hy : y ∈ ys) : t ≤ start y := by
  obtain ⟨last, hlast, rfl⟩ := Option.map_eq_some_iff.mp ht
  exact (List.pairwise_append.mp h.after).2.2 last (List.mem_of_getLast? hlast) y hy

/-- Resuming at the end of the intervals done leaves just the others. -/
theorem filter_start_through {t : α} (h : InOrder start finish (xs ++ ys))
    (ht : through finish xs = some t) : (xs ++ ys).filter (fun x => t ≤ start x) = ys := by
  have hx : xs.filter (fun x => t ≤ start x) = [] := by
    rw [List.filter_eq_nil_iff]
    intro x hx hle
    have hlt := ((h.sublist (List.sublist_append_left xs ys)).mem_lt_through ht hx).2
    exact absurd (of_decide_eq_true hle) (not_le_of_gt hlt)
  have hy : ys.filter (fun x => t ≤ start x) = ys := by
    rw [List.filter_eq_self]
    intro y hy
    exact decide_eq_true (h.through_le_start ht hy)
  rw [List.filter_append, hx, hy, List.nil_append]

theorem lt_finish_of_mem {t : α} (h : InOrder start finish (xs ++ ys))
    (ht : through finish xs = some t) {y : ι} (hy : y ∈ ys) : t < finish y :=
  lt_of_le_of_lt (h.through_le_start ht hy) (h.lasts y (List.mem_append_right xs hy))

end InOrder

end Library
