import Bhiksha.Library.Transaction

/-! Loops over a list whose turns can raise: what holds between the states before and after. -/

namespace Library

variable {σ α ε : Type} {f : σ → α → Except ε σ} {xs ys : List α} {s t : σ}

theorem foldlM_cons_eq_ok_iff {x : α} :
    (x :: xs).foldlM f s = .ok t ↔ ∃ next, f s x = .ok next ∧ xs.foldlM f next = .ok t := by
  rw [List.foldlM_cons]
  exact Except.bind_eq_ok_iff

theorem foldlM_append_eq_ok_iff :
    (xs ++ ys).foldlM f s = .ok t ↔ ∃ mid, xs.foldlM f s = .ok mid ∧ ys.foldlM f mid = .ok t := by
  rw [List.foldlM_append]
  exact Except.bind_eq_ok_iff

theorem foldlM_nil_eq_ok_iff : ([] : List α).foldlM f s = .ok t ↔ s = t := by
  rw [List.foldlM_nil]
  exact ⟨fun h => Except.ok.inj h, fun h => congrArg Except.ok h⟩

/-- A preorder that every turn follows holds from the first state to the last. -/
theorem related_of_foldlM {R : σ → σ → Prop} (hrefl : ∀ s, R s s)
    (htrans : ∀ {a b c}, R a b → R b c → R a c) (hturn : ∀ s x t, f s x = .ok t → R s t)
    (h : xs.foldlM f s = .ok t) : R s t := by
  induction xs generalizing s with
  | nil =>
    rw [foldlM_nil_eq_ok_iff] at h
    exact h ▸ hrefl s
  | cons x xs ih =>
    obtain ⟨next, hnext, hrest⟩ := foldlM_cons_eq_ok_iff.mp h
    exact htrans (hturn s x next hnext) (ih hrest)

/-- Two loops whose turns keep a relation between their states end in related states. -/
theorem agree_of_foldlM {τ : Type} {g : τ → α → Except ε τ} {R : σ → τ → Prop} {u v : τ}
    (hturn : ∀ s u x t v, R s u → f s x = .ok t → g u x = .ok v → R t v) (hstart : R s u)
    (h : xs.foldlM f s = .ok t) (hother : xs.foldlM g u = .ok v) : R t v := by
  induction xs generalizing s u with
  | nil =>
    rw [foldlM_nil_eq_ok_iff] at h hother
    exact h ▸ hother ▸ hstart
  | cons x xs ih =>
    obtain ⟨next, hnext, hrest⟩ := foldlM_cons_eq_ok_iff.mp h
    obtain ⟨other, hothernext, hotherrest⟩ := foldlM_cons_eq_ok_iff.mp hother
    exact ih (hturn s u x next other hstart hnext hothernext) hrest hotherrest

end Library
