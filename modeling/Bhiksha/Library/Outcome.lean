import Mathlib.Logic.Basic

/-! What holds of the value of a computation that may raise, if it returns one. -/

namespace Library

variable {ε α β : Type}

structure Ensures (x : Except ε α) (Q : α → Prop) : Prop where
  of_ok : ∀ a, x = .ok a → Q a

theorem ensures_error (e : ε) (Q : α → Prop) : Ensures (.error e) Q := ⟨fun _ h => by cases h⟩

theorem ensures_ok {a : α} {Q : α → Prop} (h : Q a) : Ensures (.ok a : Except ε α) Q := by
  constructor
  intro b hb
  rwa [← Except.ok.inj hb]

/-- A value is known to be what was returned. -/
theorem ensures_self (x : Except ε α) : Ensures x fun a => x = .ok a := ⟨fun _ h => h⟩

theorem ensures_pure {a : α} {Q : α → Prop} (h : Q a) : Ensures (pure a : Except ε α) Q :=
  ensures_ok h

theorem Ensures.mono {x : Except ε α} {Q R : α → Prop} (h : Ensures x Q) (hQR : ∀ a, Q a → R a) :
    Ensures x R := ⟨fun a ha => hQR a (h.of_ok a ha)⟩

/-- What is known of the value, together with what it is. -/
theorem Ensures.and_self {x : Except ε α} {Q : α → Prop} (h : Ensures x Q) :
    Ensures x fun a => Q a ∧ x = .ok a := ⟨fun a ha => ⟨h.of_ok a ha, ha⟩⟩

/-- The rule for sequencing: the first part hands its postcondition to the second. -/
theorem ensures_bind {x : Except ε α} {f : α → Except ε β} {Q : α → Prop} {R : β → Prop}
    (hx : Ensures x Q) (hf : ∀ a, Q a → Ensures (f a) R) : Ensures (x >>= f) R := by
  constructor
  intro b hb
  cases hxa : x with
  | error e =>
    rw [hxa] at hb
    cases hb
  | ok a =>
    rw [hxa] at hb
    exact (hf a (hx.of_ok a hxa)).of_ok b hb

/-- Sequencing after a part of which nothing is needed. -/
theorem ensures_bind_any {x : Except ε α} {f : α → Except ε β} {R : β → Prop}
    (hf : ∀ a, Ensures (f a) R) : Ensures (x >>= f) R :=
  ensures_bind (Q := fun _ => True) ⟨fun _ _ => trivial⟩ fun a _ => hf a

theorem ensures_ite {c : Prop} [Decidable c] {x y : Except ε α} {Q : α → Prop}
    (hx : c → Ensures x Q) (hy : ¬c → Ensures y Q) : Ensures (if c then x else y) Q := by
  by_cases hc : c
  · rw [if_pos hc]
    exact hx hc
  · rw [if_neg hc]
    exact hy hc

end Library
