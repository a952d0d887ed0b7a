import Mathlib.Data.List.Pairwise
import Bhiksha.Library.Transaction

/-! A watcher reads a tape up to the first item on which it fires; an item on which it does not fire
only moves its state. When may a stretch of the tape be left out? -/

namespace Library

/-- What a watcher fires on an item, and its state after an item on which it fires nothing. -/
structure Watcher (α σ ε ω : Type) where
  fire : α → σ → Except ε (Option ω)
  pass : σ → α → σ

/-- A firing: the item, what was fired, the state that fired it and the items not read yet. -/
structure Firing (α σ ω : Type) where
  item : α
  fired : ω
  state : σ
  later : List α

namespace Watcher

variable {α σ ε ω κ : Type} (m : Watcher α σ ε ω)

def firstFiring : σ → List α → Except ε (Option (Firing α σ ω))
  | _, [] => .ok none
  | s, x :: xs =>
    match m.fire x s with
    | .error e => .error e
    | .ok (some w) => .ok (some ⟨x, w, s, xs⟩)
    | .ok none => firstFiring (m.pass s x) xs

/-- The state after items on none of which the watcher fired. -/
def passed (s : σ) (xs : List α) : σ := xs.foldl m.pass s

/-- The watcher fires on none of these items. -/
def Quiet (s : σ) (xs : List α) : Prop :=
  ∀ before x after, xs = before ++ x :: after → m.fire x (m.passed s before) = .ok none

variable {m} {s t : σ} {x : α} {xs ys : List α}

@[simp] theorem passed_nil : m.passed s [] = s := rfl

@[simp] theorem passed_cons : m.passed s (x :: xs) = m.passed (m.pass s x) xs := rfl

theorem passed_append : m.passed s (xs ++ ys) = m.passed (m.passed s xs) ys := List.foldl_append

theorem quiet_nil : m.Quiet s [] := by
  intro before x after h
  exact absurd h.symm (by simp)

theorem quiet_cons_iff : m.Quiet s (x :: xs) ↔ m.fire x s = .ok none ∧ m.Quiet (m.pass s x) xs := by
  constructor
  · intro h
    refine ⟨h [] x xs rfl, ?_⟩
    intro before y after heq
    exact h (x :: before) y after (by rw [heq, List.cons_append])
  · rintro ⟨hfirst, hrest⟩ before y after heq
    cases before with
    | nil =>
      obtain ⟨rfl, -⟩ := List.cons.inj heq
      exact hfirst
    | cons z before =>
      obtain ⟨rfl, hxs⟩ := List.cons.inj heq
      exact hrest before y after hxs

theorem firstFiring_append (h : m.Quiet s xs) :
    m.firstFiring s (xs ++ ys) = m.firstFiring (m.passed s xs) ys := by
  induction xs generalizing s with
  | nil => rfl
  | cons x xs ih =>
    obtain ⟨hfirst, hrest⟩ := quiet_cons_iff.mp h
    rw [List.cons_append, firstFiring, hfirst]
    exact ih hrest

/-- A firing is the first item after a quiet stretch. -/
theorem firstFiring_eq_some_iff {f : Firing α σ ω} : m.firstFiring s xs = .ok (some f) ↔
    ∃ before, xs = before ++ f.item :: f.later ∧ m.Quiet s before ∧ f.state = m.passed s before ∧
      m.fire f.item f.state = .ok (some f.fired) := by
  constructor
  · intro h
    induction xs generalizing s with
    | nil => cases h
    | cons x xs ih =>
      unfold firstFiring at h
      split at h
      next => cases h
      next w hfire =>
        cases h
        exact ⟨[], rfl, quiet_nil, rfl, hfire⟩
      next hfire =>
        obtain ⟨before, rfl, hquiet, hstate, hfired⟩ := ih h
        exact ⟨x :: before, rfl, quiet_cons_iff.mpr ⟨hfire, hquiet⟩, hstate, hfired⟩
  · rintro ⟨before, rfl, hquiet, hstate, hfired⟩
    rw [firstFiring_append hquiet, firstFiring, ← hstate, hfired]

/-- A tape is quiet, or it comes to an item on which the watcher raises or fires. -/
theorem quiet_or_not (m : Watcher α σ ε ω) (s : σ) (xs : List α) : m.Quiet s xs ∨
    ∃ before x after, xs = before ++ x :: after ∧ m.Quiet s before ∧
      m.fire x (m.passed s before) ≠ .ok none := by
  induction xs generalizing s with
  | nil => exact .inl quiet_nil
  | cons x xs ih =>
    by_cases hfire : m.fire x s = .ok none
    · rcases ih (m.pass s x) with hquiet | ⟨before, y, after, rfl, hquiet, hnot⟩
      · exact .inl (quiet_cons_iff.mpr ⟨hfire, hquiet⟩)
      · exact .inr ⟨x :: before, y, after, rfl, quiet_cons_iff.mpr ⟨hfire, hquiet⟩, hnot⟩
    · exact .inr ⟨[], x, xs, rfl, quiet_nil, hfire⟩

/-- Where a watcher fires first, as it is seen: the key of the item, and what was fired. -/
def firstSeen (m : Watcher α σ ε ω) (key : α → κ) (s : σ) (xs : List α) : Except ε (Option (κ × ω)) :=
  (m.firstFiring s xs).map fun found => found.map fun f => (key f.item, f.fired)

section Seen

variable {key : α → κ} {seen : Option (κ × ω)}

theorem firstSeen_cons_of_fired {w : ω} (h : m.fire x s = .ok (some w)) :
    m.firstSeen key s (x :: xs) = .ok (some (key x, w)) := by
  rw [firstSeen, firstFiring, h]
  rfl

theorem firstSeen_cons_of_quiet (h : m.fire x s = .ok none) :
    m.firstSeen key s (x :: xs) = m.firstSeen key (m.pass s x) xs := by
  rw [firstSeen, firstFiring, h]
  rfl

theorem firstSeen_cons_of_error {e : ε} (h : m.fire x s = .error e) :
    m.firstSeen key s (x :: xs) = .error e := by
  rw [firstSeen, firstFiring, h]
  rfl

theorem firstSeen_append (h : m.Quiet s xs) :
    m.firstSeen key s (xs ++ ys) = m.firstSeen key (m.passed s xs) ys := by
  rw [firstSeen, firstFiring_append h, firstSeen]

/-- What is seen is an item of the tape. -/
theorem mem_of_firstSeen {k : κ} {w : ω} (h : m.firstSeen key s xs = .ok (some (k, w))) :
    ∃ x ∈ xs, key x = k := by
  induction xs generalizing s with
  | nil => cases h
  | cons x xs ih =>
    cases hfire : m.fire x s with
    | error e =>
      rw [firstSeen_cons_of_error hfire] at h
      cases h
    | ok fired =>
      cases fired with
      | none =>
        rw [firstSeen_cons_of_quiet hfire] at h
        obtain ⟨y, hmem, hkey⟩ := ih h
        exact ⟨y, List.mem_cons_of_mem x hmem, hkey⟩
      | some w' =>
        rw [firstSeen_cons_of_fired hfire] at h
        cases h
        exact ⟨x, List.mem_cons_self, rfl⟩

/-- Two states see the same on a tape of distinct items exactly when they fire the same at every item
that the second comes to quietly. -/
theorem firstSeen_eq_iff (hkeys : xs.Pairwise fun a b => key a ≠ key b)
    (hseen : m.firstSeen key s xs = .ok seen) : m.firstSeen key t xs = .ok seen ↔
      ∀ before x after, xs = before ++ x :: after → m.Quiet s before →
        m.fire x (m.passed t before) = m.fire x (m.passed s before) := by
  induction xs generalizing s t with
  | nil =>
    refine iff_of_true hseen ?_
    intro before x after h
    exact absurd h.symm (by simp)
  | cons x xs ih =>
    obtain ⟨hfirst, hrest⟩ := List.pairwise_cons.mp hkeys
    -- what is fired on the first item is not seen on a later one
    have hnotlater {u : σ} {w : ω} (h : m.firstSeen key u xs = .ok (some (key x, w))) : False := by
      obtain ⟨y, hmem, hkey⟩ := mem_of_firstSeen h
      exact hfirst y hmem hkey.symm
    have hsplit : (∀ before y after, x :: xs = before ++ y :: after → m.Quiet s before →
          m.fire y (m.passed t before) = m.fire y (m.passed s before)) ↔
        m.fire x t = m.fire x s ∧ (m.fire x s = .ok none →
          ∀ before y after, xs = before ++ y :: after → m.Quiet (m.pass s x) before →
            m.fire y (m.passed (m.pass t x) before) = m.fire y (m.passed (m.pass s x) before)) := by
      constructor
      · intro h
        refine ⟨h [] x xs rfl quiet_nil, ?_⟩
        intro hquiet before y after heq hbefore
        exact h (x :: before) y after (by rw [heq, List.cons_append])
          (quiet_cons_iff.mpr ⟨hquiet, hbefore⟩)
      · rintro ⟨hhead, htail⟩ before y after heq hbefore
        cases before with
        | nil =>
          obtain ⟨rfl, -⟩ := List.cons.inj heq
          exact hhead
        | cons z before =>
          obtain ⟨rfl, hxs⟩ := List.cons.inj heq
          obtain ⟨hquiet, hrest⟩ := quiet_cons_iff.mp hbefore
          exact htail hquiet before y after hxs hrest
    rw [hsplit]
    cases hfire : m.fire x s with
    | error e =>
      rw [firstSeen_cons_of_error hfire] at hseen
      cases hseen
    | ok fired =>
      cases fired with
      | some w =>
        rw [firstSeen_cons_of_fired hfire] at hseen
        cases hseen
        constructor
        · intro h
          refine ⟨?_, (fun hquiet => nomatch hquiet)⟩
          cases hother : m.fire x t with
          | error e =>
            rw [firstSeen_cons_of_error hother] at h
            cases h
          | ok fired =>
            cases fired with
            | none =>
              rw [firstSeen_cons_of_quiet hother] at h
              exact absurd h hnotlater
            | some w' =>
              rw [firstSeen_cons_of_fired hother] at h
              cases h
              rfl
        · rintro ⟨hother, -⟩
          exact firstSeen_cons_of_fired hother
      | none =>
        rw [firstSeen_cons_of_quiet hfire] at hseen
        constructor
        · intro h
          cases hother : m.fire x t with
          | error e =>
            rw [firstSeen_cons_of_error hother] at h
            cases h
          | ok fired =>
            cases fired with
            | none =>
              rw [firstSeen_cons_of_quiet hother] at h
              exact ⟨rfl, fun _ => (ih hrest hseen).mp h⟩
            | some w' =>
              rw [firstSeen_cons_of_fired hother] at h
              cases h
              exact absurd hseen hnotlater
        · rintro ⟨hother, hafter⟩
          rw [firstSeen_cons_of_quiet hother]
          exact (ih hrest hseen).mpr (hafter rfl)

/-- Leaving out a stretch of the tape changes nothing that is seen exactly when the watcher is quiet on
it, and fires the same after it as without it at every item that it comes to quietly. -/
theorem firstSeen_skip_iff (hkeys : (xs ++ ys).Pairwise fun a b => key a ≠ key b)
    (hseen : m.firstSeen key s ys = .ok seen) : m.firstSeen key s (xs ++ ys) = .ok seen ↔
      m.Quiet s xs ∧ ∀ before y after, ys = before ++ y :: after → m.Quiet s before →
        m.fire y (m.passed s (xs ++ before)) = m.fire y (m.passed s before) := by
  obtain ⟨-, hlater, hdistinct⟩ := List.pairwise_append.mp hkeys
  have hquietly (hquiet : m.Quiet s xs) : m.firstSeen key s (xs ++ ys) = .ok seen ↔
      ∀ before y after, ys = before ++ y :: after → m.Quiet s before →
        m.fire y (m.passed s (xs ++ before)) = m.fire y (m.passed s before) := by
    rw [firstSeen_append hquiet, firstSeen_eq_iff hlater hseen]
    simp only [passed_append]
  rcases quiet_or_not m s xs with hquiet | ⟨before, x, after, rfl, hbefore, hfires⟩
  · rw [hquietly hquiet]
    exact (and_iff_right hquiet).symm
  · refine iff_of_false ?_ fun h => hfires (h.1 before x after rfl)
    rw [List.append_assoc, firstSeen_append hbefore, List.cons_append]
    intro h
    cases hfire : m.fire x (m.passed s before) with
    | error e =>
      rw [firstSeen_cons_of_error hfire] at h
      cases h
    | ok fired =>
      cases fired with
      | none => exact hfires hfire
      | some w =>
        rw [firstSeen_cons_of_fired hfire] at h
        cases h
        obtain ⟨y, hmem, hkey⟩ := mem_of_firstSeen hseen
        exact hdistinct x (by simp) y hmem hkey.symm

end Seen

end Watcher

end Library
