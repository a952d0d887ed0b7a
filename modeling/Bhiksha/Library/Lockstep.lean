import Mathlib.Data.List.Defs

/-! Two runs of one deterministic system under the same events, compared by what they output. -/

namespace Library

variable {σ ε ο : Type} (step : σ → ε → Option (ο × σ))

/-- The outputs of a run, up to the first event that is not enabled. -/
def outputs : σ → List ε → List ο
  | _, [] => []
  | s, e :: es =>
    match step s e with
    | none => []
    | some (o, s') => o :: outputs s' es

/-- Some event of the run meets `D` in the state before it. -/
def Encounters (D : σ → ε → Prop) : σ → List ε → Prop
  | _, [] => False
  | s, e :: es => D s e ∨ ∃ o s', step s e = some (o, s') ∧ Encounters D s' es

/-- Related states stay related and answer alike up to an event in `D`, where they differ. -/
structure Lockstep (R : σ → σ → Prop) (D : σ → ε → Prop) : Prop where
  together : ∀ {s t e}, R s t → ¬D s e →
    (step s e = none ∧ step t e = none) ∨
      ∃ o s' t', step s e = some (o, s') ∧ step t e = some (o, t') ∧ R s' t'
  apart : ∀ {s t e}, R s t → D s e →
    ∃ o p s' t', step s e = some (o, s') ∧ step t e = some (p, t') ∧ o ≠ p

variable {step} {R : σ → σ → Prop} {D : σ → ε → Prop}

/-- Two runs from related states output the same exactly when no event in `D` comes up. -/
theorem Lockstep.outputs_eq_iff (h : Lockstep step R D) {s t : σ} (hst : R s t) (es : List ε) :
    outputs step s es = outputs step t es ↔ ¬Encounters step D s es := by
  induction es generalizing s t with
  | nil => simp [outputs, Encounters]
  | cons e es ih =>
    by_cases hD : D s e
    · obtain ⟨o, p, s', t', hs, ht, hne⟩ := h.apart hst hD
      have hdiffer : ¬outputs step s (e :: es) = outputs step t (e :: es) := by
        simp only [outputs, hs, ht]
        intro hcons
        exact hne (List.cons.inj hcons).1
      exact iff_of_false hdiffer (not_not_intro (Or.inl hD))
    · rcases h.together hst hD with ⟨hs, ht⟩ | ⟨o, s', t', hs, ht, hst'⟩
      · have hstuck : ¬Encounters step D s (e :: es) := by
          rintro (hnow | ⟨o, s', hstep, -⟩)
          · exact hD hnow
          · rw [hs] at hstep
            cases hstep
        simp only [outputs, hs, ht, hstuck, not_false_eq_true]
      · have hlater : Encounters step D s (e :: es) ↔ Encounters step D s' es := by
          constructor
          · rintro (hnow | ⟨p, u, hstep, hlater⟩)
            · exact absurd hnow hD
            · rw [hs] at hstep
              obtain ⟨-, rfl⟩ := Prod.mk.inj (Option.some.inj hstep)
              exact hlater
          · intro hlater
            exact Or.inr ⟨o, s', hs, hlater⟩
        rw [hlater, ← ih hst']
        simp only [outputs, hs, ht, List.cons.injEq, true_and]

/-- States that never come apart output the same in every run. -/
theorem Lockstep.outputs_eq (h : Lockstep step R fun _ _ => False) {s t : σ} (hst : R s t)
    (es : List ε) : outputs step s es = outputs step t es := by
  have hnever (u : σ) : ¬Encounters step (fun _ _ => False) u es := by
    induction es generalizing u with
    | nil => exact not_false
    | cons e es ih =>
      rintro (hnow | ⟨o, u', -, hlater⟩)
      · exact hnow
      · exact ih u' hlater
  exact (h.outputs_eq_iff hst es).mpr (hnever s)

end Library
