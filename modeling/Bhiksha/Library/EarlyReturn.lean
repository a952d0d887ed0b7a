import Mathlib.Data.List.Basic

/-! Loops over a list whose body can go on, return from the loop, or raise. -/

namespace Library

/-- What one turn of a loop comes to. -/
inductive Turn (σ ρ : Type) where
  | goesOn (state : σ)
  | returns (result : ρ)

variable {σ α ρ ε : Type}

/-- A loop that returns nothing where no turn of it returns. -/
def loop (turn : σ → α → Except ε (Turn σ ρ)) : σ → List α → Except ε (Option ρ)
  | _, [] => .ok none
  | s, x :: xs =>
    match turn s x with
    | .error e => .error e
    | .ok (.returns result) => .ok (some result)
    | .ok (.goesOn next) => loop turn next xs

variable {turn : σ → α → Except ε (Turn σ ρ)} {s : σ} {xs : List α} {r : ρ}

/-- What the last turn of the loop came to: a result, or the state in which the items ran out. -/
def run (turn : σ → α → Except ε (Turn σ ρ)) : σ → List α → Except ε (Turn σ ρ)
  | s, [] => .ok (.goesOn s)
  | s, x :: xs =>
    match turn s x with
    | .error e => .error e
    | .ok (.returns result) => .ok (.returns result)
    | .ok (.goesOn next) => run turn next xs

def Turn.result : Turn σ ρ → Option ρ
  | goesOn _ => none
  | returns result => some result

theorem loop_eq_run : loop turn s xs = (run turn s xs).map Turn.result := by
  induction xs generalizing s with
  | nil => rfl
  | cons x xs ih =>
    rw [loop, run]
    cases turn s x with
    | error e => rfl
    | ok next =>
      cases next with
      | goesOn next => exact ih
      | returns result => rfl

/-- What a loop has returned does not depend on items that it has not read. -/
theorem loop_append (h : loop turn s xs = .ok (some r)) (later : List α) :
    loop turn s (xs ++ later) = .ok (some r) := by
  induction xs generalizing s with
  | nil => cases h
  | cons x xs ih =>
    rw [List.cons_append]
    unfold loop at h ⊢
    cases hturn : turn s x with
    | error e =>
      rw [hturn] at h
      cases h
    | ok next =>
      rw [hturn] at h
      cases next with
      | goesOn next => exact ih h
      | returns result => exact h

/-- The loop has read a list of items without raising or returning. -/
inductive Reads (turn : σ → α → Except ε (Turn σ ρ)) (s : σ) : List α → σ → Prop where
  | start : Reads turn s [] s
  | step {read : List α} {x : α} {before after : σ} (earlier : Reads turn s read before)
    (took : turn before x = .ok (.goesOn after)) : Reads turn s (read ++ [x]) after

theorem Reads.trans {read more : List α} {mid last : σ} (h : Reads turn s read mid)
    (hmore : Reads turn mid more last) : Reads turn s (read ++ more) last := by
  induction hmore with
  | start => rwa [List.append_nil]
  | step _ took ih =>
    rw [← List.append_assoc]
    exact ih.step took

/-- A loop returns from one of its turns, after the items before it. -/
theorem loop_eq_some_iff : loop turn s xs = .ok (some r) ↔
    ∃ read x later last, xs = read ++ x :: later ∧ Reads turn s read last ∧
      turn last x = .ok (.returns r) := by
  constructor
  · intro h
    induction xs generalizing s with
    | nil => cases h
    | cons x xs ih =>
      unfold loop at h
      cases hturn : turn s x with
      | error e =>
        rw [hturn] at h
        cases h
      | ok next =>
        rw [hturn] at h
        cases next with
        | goesOn next =>
          obtain ⟨read, y, later, last, rfl, hreads, hreturns⟩ := ih h
          have hfirst : Reads turn s [x] next := Reads.start.step hturn
          exact ⟨x :: read, y, later, last, rfl, hfirst.trans hreads, hreturns⟩
        | returns result =>
          cases h
          exact ⟨[], x, xs, s, rfl, .start, hturn⟩
  · rintro ⟨read, x, later, last, rfl, hreads, hreturns⟩
    have hrest : ∀ rest, loop turn s (read ++ rest) = loop turn last rest := by
      intro rest
      clear hreturns
      induction hreads generalizing rest with
      | start => rfl
      | step _ took ih =>
        rw [List.append_assoc, ih, List.singleton_append, loop, took]
    rw [hrest, loop, hreturns]

/-- What every turn keeps holds after the items that a loop has read. -/
theorem Reads.invariant {I : List α → σ → Prop}
    (hturn : ∀ read before x after, I read before → turn before x = .ok (.goesOn after) →
      I (read ++ [x]) after)
    (hstart : I [] s) {read : List α} {last : σ} (h : Reads turn s read last) : I read last := by
  induction h with
  | start => exact hstart
  | step _ took ih => exact hturn _ _ _ _ ih took

end Library
