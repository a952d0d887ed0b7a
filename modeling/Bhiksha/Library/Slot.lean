import Mathlib.Data.List.Basic
import Mathlib.Data.List.Induction

/-! A scan that keeps one armed value: a row arms the slot afresh, or else keeps or clears it. -/

namespace Library

variable {α β : Type} (arms : ℕ → α → Option β) (keeps : β → ℕ → α → Bool)

/-- The slot after the row with an index. -/
def slotStep (index : ℕ) (row : α) (slot : Option β) : Option β :=
  (arms index row).or (slot.filter fun b => keeps b index row)

def slotAfter (rows : List α) : Option β :=
  rows.zipIdx.foldl (fun slot entry => slotStep arms keeps entry.2 entry.1 slot) none

theorem slotAfter_append_singleton (rows : List α) (row : α) :
    slotAfter arms keeps (rows ++ [row]) =
      slotStep arms keeps rows.length row (slotAfter arms keeps rows) := by
  unfold slotAfter
  rw [List.zipIdx_append, List.foldl_append]
  simp

/-- What an armed slot has to have lived through. -/
structure HoldsSlot (rows : List α) (j : ℕ) (row : α) (b : β) : Prop where
  found : rows[j]? = some row
  armed : arms j row = some b
  kept : ∀ i later, j < i → rows[i]? = some later → arms i later = none ∧ keeps b i later

variable {arms keeps}

theorem HoldsSlot.lt_length {rows : List α} {j : ℕ} {row : α} {b : β}
    (h : HoldsSlot arms keeps rows j row b) : j < rows.length :=
  (List.getElem?_eq_some_iff.mp h.found).1

/-- The slot holds what the last arming row put there, if every row since then has kept it. -/
theorem slotAfter_eq_some_iff {rows : List α} {b : β} :
    slotAfter arms keeps rows = some b ↔ ∃ j row, HoldsSlot arms keeps rows j row b := by
  induction rows using List.reverseRecOn generalizing b with
  | nil =>
    refine iff_of_false (fun h => nomatch h) ?_
    rintro ⟨j, row, h⟩
    exact nomatch h.lt_length
  | append_singleton rows last ih =>
    rw [slotAfter_append_singleton, slotStep, Option.or_eq_some_iff]
    constructor
    · rintro (harmed | ⟨hidle, hslot⟩)
      · refine ⟨rows.length, last, by simp, harmed, fun i later hi hlater => ?_⟩
        have hlt := (List.getElem?_eq_some_iff.mp hlater).1
        rw [List.length_append, List.length_singleton] at hlt
        omega
      · obtain ⟨hslot, hkeep⟩ := Option.filter_eq_some_iff.mp hslot
        obtain ⟨j, row, h⟩ := ih.mp hslot
        have hj := h.lt_length
        refine ⟨j, row, ?_, h.armed, fun i later hi hlater => ?_⟩
        · rw [List.getElem?_append_left hj]
          exact h.found
        · rcases Nat.lt_or_ge i rows.length with hlt | hge
          · rw [List.getElem?_append_left hlt] at hlater
            exact h.kept i later hi hlater
          · have hlt := (List.getElem?_eq_some_iff.mp hlater).1
            rw [List.length_append, List.length_singleton] at hlt
            have hlast : i = rows.length := by omega
            subst hlast
            rw [List.getElem?_concat_length] at hlater
            obtain rfl := Option.some.inj hlater
            exact ⟨hidle, hkeep⟩
    · rintro ⟨j, row, h⟩
      have hj := h.lt_length
      rw [List.length_append, List.length_singleton] at hj
      rcases Nat.lt_or_ge j rows.length with hlt | hge
      · have hlast : (rows ++ [last])[rows.length]? = some last := by simp
        obtain ⟨hidle, hkeep⟩ := h.kept rows.length last hlt hlast
        refine Or.inr ⟨hidle, Option.filter_eq_some_iff.mpr ⟨ih.mpr ⟨j, row, ?_⟩, hkeep⟩⟩
        refine ⟨?_, h.armed, fun i later hi hlater => ?_⟩
        · rw [← h.found, List.getElem?_append_left hlt]
        · have hi' := (List.getElem?_eq_some_iff.mp hlater).1
          refine h.kept i later hi ?_
          rw [List.getElem?_append_left hi']
          exact hlater
      · have hlast : j = rows.length := by omega
        subst hlast
        have hrow : last = row := by simpa using h.found
        exact Or.inl (hrow ▸ h.armed)

/-- A value that no row keeps for longer than `width` is armed in the last `width + 1` rows, so the rows
before them only shift it. -/
theorem slotAfter_append {before rows : List α} {shift : β → β} {width : ℕ}
    (harms : ∀ i row, arms (before.length + i) row = (arms i row).map shift)
    (hkeeps : ∀ b i row, keeps (shift b) (before.length + i) row = keeps b i row)
    (hexpires : ∀ j row b i later, arms j row = some b → j + width < i → keeps b i later = false)
    (hwidth : width < rows.length) :
    slotAfter arms keeps (before ++ rows) = (slotAfter arms keeps rows).map shift := by
  have hget (i : ℕ) : (before ++ rows)[before.length + i]? = rows[i]? := by
    rw [List.getElem?_append_right (Nat.le_add_right _ _), Nat.add_sub_cancel_left]
  ext b
  rw [Option.map_eq_some_iff, slotAfter_eq_some_iff]
  constructor
  · rintro ⟨j, row, h⟩
    -- the last row has kept the value, so it is not older than the rows
    have hlast : before.length ≤ j := by
      by_contra hearly
      have hindex : rows.length - 1 < rows.length := by omega
      have hrow : (before ++ rows)[before.length + (rows.length - 1)]? =
          some rows[rows.length - 1] := by
        rw [hget, List.getElem?_eq_getElem hindex]
      have hkept := (h.kept _ _ (by omega) hrow).2
      rw [hexpires j row b _ _ h.armed (by omega)] at hkept
      cases hkept
    obtain ⟨i, rfl⟩ := Nat.exists_eq_add_of_le hlast
    have harmed := h.armed
    rw [harms] at harmed
    obtain ⟨b', hb', rfl⟩ := Option.map_eq_some_iff.mp harmed
    refine ⟨b', slotAfter_eq_some_iff.mpr ⟨i, row, ?_, hb', fun i' later hi hlater => ?_⟩, rfl⟩
    · rw [← hget]
      exact h.found
    · rw [← hget] at hlater
      obtain ⟨hidle, hkept⟩ := h.kept _ later (by omega) hlater
      rw [harms, Option.map_eq_none_iff] at hidle
      rw [hkeeps] at hkept
      exact ⟨hidle, hkept⟩
  · rintro ⟨b', hslot, rfl⟩
    obtain ⟨j, row, h⟩ := slotAfter_eq_some_iff.mp hslot
    refine ⟨before.length + j, row, ?_, ?_, fun i later hi hlater => ?_⟩
    · rw [hget]
      exact h.found
    · rw [harms, h.armed]
      rfl
    · have hindex : before.length ≤ i := by omega
      obtain ⟨i', rfl⟩ := Nat.exists_eq_add_of_le hindex
      rw [hget] at hlater
      obtain ⟨hidle, hkept⟩ := h.kept i' later (by omega) hlater
      rw [harms, hidle, hkeeps]
      exact ⟨rfl, hkept⟩

end Library
