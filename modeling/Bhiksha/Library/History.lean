import Mathlib.Data.List.Infix

/-! Histories in which every event has its grounds in the events before it. -/

namespace Library

variable {ε : Type}

/-- The latest event comes first, and each has its grounds in what lies behind it. -/
def Justified (grounds : ε → List ε → Prop) : List ε → Prop
  | [] => True
  | event :: earlier => grounds event earlier ∧ Justified grounds earlier

variable {grounds : ε → List ε → Prop} {event : ε} {earlier log : List ε}

theorem Justified.cons (h : Justified grounds earlier) (he : grounds event earlier) :
    Justified grounds (event :: earlier) := ⟨he, h⟩

/-- Wherever an event stands in the history, its grounds stand before it. -/
theorem justified_iff :
    Justified grounds log ↔ ∀ event earlier, event :: earlier <:+ log → grounds event earlier := by
  induction log with
  | nil => exact ⟨fun _ event earlier h => absurd (List.suffix_nil.mp h) (by simp), fun _ => trivial⟩
  | cons first rest ih =>
    constructor
    · rintro ⟨hfirst, hrest⟩ event earlier h
      rcases List.suffix_cons_iff.mp h with heq | hsuffix
      · obtain ⟨rfl, rfl⟩ := List.cons.inj heq
        exact hfirst
      · exact ih.mp hrest event earlier hsuffix
    · intro h
      refine ⟨h first rest List.suffix_rfl, ih.mpr fun event earlier hsuffix => ?_⟩
      exact h event earlier (hsuffix.trans (List.suffix_cons first rest))

end Library
