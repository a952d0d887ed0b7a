import Mathlib

/-! Programs with a state that may end with an exception, and what their triples say of the state they
leave. -/

namespace Library

open Std.Do

variable {ε σ α : Type}

/-- The state that a program leaves, however it ends. -/
def finalState (program : ExceptT ε (StateM σ) α) (start : σ) : σ := (program.run.run start).2

/-- The value or the exception that a program ends with. -/
def finalResult (program : ExceptT ε (StateM σ) α) (start : σ) : Except ε α :=
  (program.run.run start).1

theorem ok_of_triple {P : σ → Prop} {Q : α → σ → Prop} {E : ε → σ → Prop}
    {program : ExceptT ε (StateM σ) α}
    (h : ⦃fun s => ⌜P s⌝⦄ program ⦃post⟨fun a s => ⌜Q a s⌝, fun e s => ⌜E e s⌝⟩⦄) {start : σ}
    (hstart : P start) {a : α} (ha : finalResult program start = .ok a) :
    Q a (finalState program start) := by
  have hrun := h start hstart
  simp only [wp, PredTrans.apply_pushExcept, PredTrans.apply_pushArg, PredTrans.apply_Pure_pure] at hrun
  have hresult : (StateT.run program.run start).run.1 = .ok a := ha
  rw [hresult] at hrun
  exact hrun

theorem finalState_of_posts {P R : σ → Prop} {Q : α → σ → Prop} {E : ε → σ → Prop}
    {program : ExceptT ε (StateM σ) α}
    (h : ⦃fun s => ⌜P s⌝⦄ program ⦃post⟨fun a s => ⌜Q a s⌝, fun e s => ⌜E e s⌝⟩⦄)
    (hQ : ∀ a s, Q a s → R s) (hE : ∀ e s, E e s → R s) {start : σ} (hstart : P start) :
    R (finalState program start) := by
  have hrun := h start hstart
  simp only [wp, PredTrans.apply_pushExcept, PredTrans.apply_pushArg, PredTrans.apply_Pure_pure] at hrun
  cases hresult : (StateT.run program.run start).run.1 with
  | ok result =>
    rw [hresult] at hrun
    exact hQ result _ hrun
  | error exit =>
    rw [hresult] at hrun
    exact hE exit _ hrun

/-- The postcondition is the same for a result and for an exception. -/
theorem finalState_of_triple {P Q : σ → Prop} {program : ExceptT ε (StateM σ) α}
    (h : ⦃fun s => ⌜P s⌝⦄ program ⦃post⟨fun _ s => ⌜Q s⌝, fun _ s => ⌜Q s⌝⟩⦄) {start : σ}
    (hstart : P start) : Q (finalState program start) :=
  finalState_of_posts h (fun _ _ hs => hs) (fun _ _ hs => hs) hstart

/-- Every program ends somehow. -/
theorem triple_true (program : ExceptT ε (StateM σ) α) :
    ⦃⌜True⌝⦄ program ⦃post⟨fun _ _ => ⌜True⌝, fun _ _ => ⌜True⌝⟩⦄ := by
  intro start _
  simp only [wp, PredTrans.apply_pushExcept, PredTrans.apply_pushArg, PredTrans.apply_Pure_pure]
  cases (StateT.run program.run start).run.1 with
  | ok result => trivial
  | error exit => trivial

end Library
