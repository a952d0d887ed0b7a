import Mathlib.Data.List.Pairwise
import Mathlib.Order.Lattice
import Mathlib.Tactic.Push

/-! Streams that are thinned to their rising part: an item passes when it is later than every item that
passed before it. Thinning twice is thinning once, so a consumer may repeat its producer's check. -/

namespace Library

variable {β τ : Type} [LinearOrder τ] {time : β → τ} {last : Option τ} {item : β} {items more : List β}

def After (last : Option τ) (t : τ) : Prop := ∀ s ∈ last, s < t

instance (last : Option τ) (t : τ) : Decidable (After last t) :=
  match last with
  | none => isTrue fun t h => absurd h (Option.not_mem_none t)
  | some s => decidable_of_iff (s < t) ⟨fun h _ hs => Option.some.inj hs ▸ h, fun h => h s rfl⟩

variable (time) in
def rising : Option τ → List β → List β
  | _, [] => []
  | last, item :: rest =>
    if After last (time item) then item :: rising (some (time item)) rest else rising last rest

variable (time) in
/-- The time of the last item that passed. -/
def reached : Option τ → List β → Option τ
  | last, [] => last
  | last, item :: rest =>
    if After last (time item) then reached (some (time item)) rest else reached last rest

theorem rising_append (last : Option τ) (items more : List β) :
    rising time last (items ++ more) =
      rising time last items ++ rising time (reached time last items) more := by
  induction items generalizing last with
  | nil => rfl
  | cons item rest ih =>
    rw [List.cons_append, rising, rising, reached]
    by_cases h : After last (time item)
    · rw [if_pos h, if_pos h, if_pos h, ih, List.cons_append]
    · rw [if_neg h, if_neg h, if_neg h, ih]

theorem reached_append (last : Option τ) (items more : List β) :
    reached time last (items ++ more) = reached time (reached time last items) more := by
  induction items generalizing last with
  | nil => rfl
  | cons item rest ih =>
    rw [List.cons_append, reached, reached]
    by_cases h : After last (time item)
    · rw [if_pos h, if_pos h, ih]
    · rw [if_neg h, if_neg h, ih]

theorem after_of_mem_rising (h : item ∈ rising time last items) : After last (time item) := by
  induction items generalizing last with
  | nil => cases h
  | cons first rest ih =>
    rw [rising] at h
    by_cases hafter : After last (time first)
    · rw [if_pos hafter] at h
      rcases List.mem_cons.mp h with rfl | hrest
      · exact hafter
      · intro s hs
        exact (hafter s hs).trans (ih hrest _ rfl)
    · rw [if_neg hafter] at h
      exact ih h

theorem pairwise_rising (last : Option τ) (items : List β) :
    (rising time last items).Pairwise fun a b => time a < time b := by
  induction items generalizing last with
  | nil => exact List.Pairwise.nil
  | cons item rest ih =>
    rw [rising]
    by_cases hafter : After last (time item)
    · rw [if_pos hafter]
      apply List.Pairwise.cons
      · intro b hb
        exact after_of_mem_rising hb _ rfl
      · exact ih (some (time item))
    · rw [if_neg hafter]
      exact ih last

/-- Of a stream that already rises, the items pass that are later than the start. -/
theorem rising_of_pairwise (last : Option τ) (h : items.Pairwise fun a b => time a < time b) :
    rising time last items = items.filter fun item => After last (time item) := by
  induction items generalizing last with
  | nil => rfl
  | cons item rest ih =>
    obtain ⟨hlater, hrest⟩ := List.pairwise_cons.mp h
    rw [rising, List.filter_cons]
    by_cases hafter : After last (time item)
    · rw [if_pos hafter, if_pos (decide_eq_true hafter), ih _ hrest]
      congr 1
      apply List.filter_congr
      intro other hother
      have hlast : After last (time other) := fun s hs => (hafter s hs).trans (hlater other hother)
      have hitem : After (some (time item)) (time other) := by
        rintro _ ⟨⟩
        exact hlater other hother
      rw [decide_eq_true hlast, decide_eq_true hitem]
    · rw [if_neg hafter, if_neg (by simpa using hafter), ih last hrest]

theorem rising_sublist (last : Option τ) (items : List β) : (rising time last items).Sublist items := by
  induction items generalizing last with
  | nil => exact List.Sublist.slnil
  | cons item rest ih =>
    rw [rising]
    split
    · exact (ih _).cons_cons item
    · exact (ih _).cons item

theorem reached_eq_getLast (last : Option τ) (items : List β) :
    reached time last items = ((rising time last items).getLast?.map time).or last := by
  induction items generalizing last with
  | nil => rfl
  | cons item rest ih =>
    rw [reached, rising]
    by_cases hafter : After last (time item)
    · rw [if_pos hafter, if_pos hafter, ih, List.getLast?_cons]
      cases (rising time (some (time item)) rest).getLast? with
      | none => rfl
      | some b => rfl
    · rw [if_neg hafter, if_neg hafter, ih]

/-- A second check that has seen at least as much decides alone. -/
theorem rising_rising {earlier : Option τ} (h : ∀ s ∈ earlier, ∃ t ∈ last, s ≤ t) (items : List β) :
    rising time last (rising time earlier items) = rising time last items := by
  induction items generalizing earlier last with
  | nil => rfl
  | cons item rest ih =>
    rw [rising]
    by_cases hearlier : After earlier (time item)
    · rw [if_pos hearlier, rising, rising]
      by_cases hlast : After last (time item)
      · rw [if_pos hlast, if_pos hlast]
        rw [ih]
        rintro s ⟨⟩
        exact ⟨time item, rfl, le_refl _⟩
      · rw [if_neg hlast, if_neg hlast]
        apply ih
        rintro s ⟨⟩
        unfold After at hlast
        push Not at hlast
        exact hlast
    · -- What the first check stops, the second would stop too.
      have hlast : ¬After last (time item) := by
        intro hlast
        apply hearlier
        intro s hs
        obtain ⟨t, ht, hst⟩ := h s hs
        exact hst.trans_lt (hlast t ht)
      rw [if_neg hearlier, rising, if_neg hlast]
      exact ih h

end Library
