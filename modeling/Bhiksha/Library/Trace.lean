import Mathlib.Algebra.BigOperators.Group.List.Basic
import Mathlib.Data.List.Pairwise

/-! Runs of a deterministic system under a list of calls, with every call's outcome recorded. -/

namespace Library

structure Event (σ ι ρ : Type) where
  before : σ
  call : ι
  result : ρ
  after : σ

variable {σ ι ρ : Type} (step : ι → σ → ρ × σ)

def event (i : ι) (s : σ) : Event σ ι ρ := ⟨s, i, (step i s).1, (step i s).2⟩

def trace : σ → List ι → List (Event σ ι ρ)
  | _, [] => []
  | s, i :: is => event step i s :: trace (step i s).2 is

def finish : σ → List ι → σ
  | s, [] => s
  | s, i :: is => finish (step i s).2 is

variable {step}

theorem finish_append (s : σ) (is js : List ι) :
    finish step s (is ++ js) = finish step (finish step s is) js := by
  induction is generalizing s with
  | nil => rfl
  | cons i is ih => exact ih (step i s).2

theorem trace_append (s : σ) (is js : List ι) :
    trace step s (is ++ js) = trace step s is ++ trace step (finish step s is) js := by
  induction is generalizing s with
  | nil => rfl
  | cons i is ih => simp only [List.cons_append, trace, finish, ih]

theorem invariant_finish {I : σ → Prop} (hstep : ∀ i s, I s → I (step i s).2) {s : σ} (hs : I s)
    (is : List ι) : I (finish step s is) := by
  induction is generalizing s with
  | nil => exact hs
  | cons i is ih => exact ih (hstep i s hs)

/-- Every recorded event is a step of the system from a state that satisfies the invariant, if the
calls of the run preserve it. -/
theorem invariant_of_mem_trace {I : σ → Prop} {P : ι → Prop}
    (hstep : ∀ i s, P i → I s → I (step i s).2) {s : σ} (hs : I s) {is : List ι}
    (his : ∀ i ∈ is, P i) {e : Event σ ι ρ} (he : e ∈ trace step s is) :
    I e.before ∧ P e.call ∧ e = event step e.call e.before := by
  induction is generalizing s with
  | nil => cases he
  | cons i is ih =>
    have hi := his i List.mem_cons_self
    rcases List.mem_cons.mp he with rfl | he
    · exact ⟨hs, hi, rfl⟩
    · exact ih (hstep i s hi hs) (fun j hj => his j (List.mem_cons_of_mem i hj)) he

/-- An invariant that the steps of a run preserve, for what is known of each of its events. -/
theorem invariant_of_events {I : σ → Prop} {C : Event σ ι ρ → Prop}
    (hstep : ∀ i s, C (event step i s) → I s → I (step i s).2) {s : σ} (hs : I s) {is : List ι}
    (hC : ∀ e ∈ trace step s is, C e) {e : Event σ ι ρ} (he : e ∈ trace step s is) :
    I e.before ∧ e = event step e.call e.before := by
  induction is generalizing s with
  | nil => cases he
  | cons i is ih =>
    have hnext : I (step i s).2 := hstep i s (hC _ List.mem_cons_self) hs
    rcases List.mem_cons.mp he with rfl | he
    · exact ⟨hs, rfl⟩
    · exact ih hnext (fun e he => hC e (List.mem_cons_of_mem _ he)) he

theorem eq_event_of_mem_trace {I : σ → Prop} (hstep : ∀ i s, I s → I (step i s).2) {s : σ}
    (hs : I s) {is : List ι} {e : Event σ ι ρ} (he : e ∈ trace step s is) :
    I e.before ∧ e = event step e.call e.before := by
  have h := invariant_of_mem_trace (P := fun _ => True) (fun i s _ => hstep i s) hs
    (fun _ _ => trivial) he
  exact ⟨h.1, h.2.2⟩

theorem call_mem_of_mem_trace {s : σ} {is : List ι} {e : Event σ ι ρ} (he : e ∈ trace step s is) :
    e.call ∈ is := by
  induction is generalizing s with
  | nil => cases he
  | cons i is ih =>
    rcases List.mem_cons.mp he with rfl | he
    · exact List.mem_cons_self
    · exact List.mem_cons_of_mem i (ih he)

theorem forall_mem_trace {P : Event σ ι ρ → Prop} (hP : ∀ i s, P (event step i s)) (s : σ)
    (is : List ι) : ∀ e ∈ trace step s is, P e := by
  intro e he
  have hI := eq_event_of_mem_trace (I := fun _ => True) (fun _ _ _ => trivial) trivial he
  rw [hI.2]
  exact hP _ _

/-- What holds between the state and a record of the events so far, if every step keeps it. -/
theorem recorded_trace {β : Type} {T : σ → β → Prop} {record : β → Event σ ι ρ → β}
    (hstep : ∀ i s b, T s b → T (step i s).2 (record b (event step i s))) {s : σ} {b : β}
    (h : T s b) (is : List ι) : T (finish step s is) ((trace step s is).foldl record b) := by
  induction is generalizing s b with
  | nil => exact h
  | cons i is ih => exact ih (hstep i s b h)

/-- A measure follows its update rule at every point of a run exactly when every step obeys it. -/
theorem finish_take_eq_foldl_iff {α : Type} {f : σ → α} {g : ι → α → α} {s : σ} {is : List ι} :
    (∀ n, f (finish step s (is.take n)) = (is.take n).foldl (fun a i => g i a) (f s)) ↔
      ∀ e ∈ trace step s is, f e.after = g e.call (f e.before) := by
  induction is generalizing s with
  | nil => simp [trace, finish]
  | cons i is ih =>
    constructor
    · intro h e he
      have hhead : f (step i s).2 = g i (f s) := h 1
      rcases List.mem_cons.mp he with rfl | he
      · exact hhead
      · refine ih.mp ?_ e he
        intro n
        have htail := h (n + 1)
        simpa only [List.take_succ_cons, List.foldl_cons, finish, hhead] using htail
    · intro h n
      have hhead : f (step i s).2 = g i (f s) := h _ List.mem_cons_self
      cases n with
      | zero => rfl
      | succ n =>
        have htail := ih.mpr (fun e he => h e (List.mem_cons_of_mem _ he)) n
        simpa only [List.take_succ_cons, List.foldl_cons, finish, hhead] using htail

/-- What every step hands over is missing from what remains: a measure and what left it add up to the
measure at the start. -/
theorem finish_add_sum_trace {M : Type} [AddCommMonoid M] {f : σ → M} {g : Event σ ι ρ → M} {s : σ}
    {is : List ι} (h : ∀ e ∈ trace step s is, f e.after + g e = f e.before) :
    f (finish step s is) + ((trace step s is).map g).sum = f s := by
  induction is generalizing s with
  | nil => exact add_zero _
  | cons i is ih =>
    have hhead : f (step i s).2 + g (event step i s) = f s := h _ List.mem_cons_self
    have htail := ih fun e he => h e (List.mem_cons_of_mem _ he)
    calc f (finish step (step i s).2 is)
          + (g (event step i s) + ((trace step (step i s).2 is).map g).sum)
        = f (finish step (step i s).2 is) + ((trace step (step i s).2 is).map g).sum
          + g (event step i s) := by rw [add_assoc, add_comm (g _)]
      _ = f (step i s).2 + g (event step i s) := by rw [htail]
      _ = f s := hhead

section Preorder

variable {R : σ → σ → Prop}

theorem related_finish (hrefl : ∀ s, R s s) (htrans : ∀ {a b c}, R a b → R b c → R a c)
    (hstep : ∀ i s, R s (step i s).2) (s : σ) (is : List ι) : R s (finish step s is) := by
  induction is generalizing s with
  | nil => exact hrefl s
  | cons i is ih => exact htrans (hstep i s) (ih (step i s).2)

theorem related_of_mem_trace (hrefl : ∀ s, R s s) (htrans : ∀ {a b c}, R a b → R b c → R a c)
    (hstep : ∀ i s, R s (step i s).2) {s : σ} {is : List ι} :
    ∀ e ∈ trace step s is, R s e.before := by
  induction is generalizing s with
  | nil => exact fun _ he => by cases he
  | cons i is ih =>
    intro e he
    rcases List.mem_cons.mp he with rfl | he
    · exact hrefl s
    · exact htrans (hstep i s) (ih e he)

/-- What every step moves along, a run moves along between any two of its events. -/
theorem pairwise_trace (hrefl : ∀ s, R s s) (htrans : ∀ {a b c}, R a b → R b c → R a c)
    (hstep : ∀ i s, R s (step i s).2) (s : σ) (is : List ι) :
    (trace step s is).Pairwise fun e f => R e.after f.before := by
  induction is generalizing s with
  | nil => exact List.Pairwise.nil
  | cons i is ih => exact List.Pairwise.cons (related_of_mem_trace hrefl htrans hstep) (ih _)

end Preorder

section Latch

variable {L : σ → Prop} {fires : Event σ ι ρ → Bool}

theorem filter_fires_of_latched {s : σ} {is : List ι} (hs : L s)
    (hkeep : ∀ e ∈ trace step s is, L e.before → L e.after)
    (hfire : ∀ e ∈ trace step s is, fires e → ¬L e.before) :
    (trace step s is).filter fires = [] := by
  induction is generalizing s with
  | nil => rfl
  | cons i is ih =>
    have hhead : fires (event step i s) = false :=
      Bool.eq_false_iff.mpr fun hf => hfire _ List.mem_cons_self hf hs
    rw [trace, List.filter_cons_of_neg (by simp [hhead])]
    apply ih (hkeep _ List.mem_cons_self hs)
    · exact fun e he => hkeep e (List.mem_cons_of_mem _ he)
    · exact fun e he => hfire e (List.mem_cons_of_mem _ he)

/-- What sets a latch, and only against an open one, fires at most once in a run that keeps it. -/
theorem length_fires_le_one {s : σ} {is : List ι}
    (hkeep : ∀ e ∈ trace step s is, L e.before → L e.after)
    (hfire : ∀ e ∈ trace step s is, fires e → ¬L e.before ∧ L e.after) :
    ((trace step s is).filter fires).length ≤ 1 := by
  induction is generalizing s with
  | nil => exact Nat.zero_le 1
  | cons i is ih =>
    have hkeeps := fun e he => hkeep e (List.mem_cons_of_mem (event step i s) he)
    have hfires := fun e he => hfire e (List.mem_cons_of_mem (event step i s) he)
    by_cases hhead : fires (event step i s)
    · have hset : L (step i s).2 := (hfire _ List.mem_cons_self hhead).2
      have hrest := filter_fires_of_latched hset hkeeps fun e he hf => (hfires e he hf).1
      rw [trace, List.filter_cons_of_pos hhead, hrest]
      exact Nat.le_refl 1
    · rw [trace, List.filter_cons_of_neg hhead]
      exact ih hkeeps hfires

end Latch

end Library
