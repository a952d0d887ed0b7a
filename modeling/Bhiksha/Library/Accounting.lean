import Mathlib.Data.Finset.Card
import Mathlib.Data.List.Nodup

/-! Accounts: keys that are expected, each of which is to be found or to be excused. -/

namespace Library

section Keys

variable {α κ : Type} [DecidableEq κ] {f : α → κ}

/-- Where keys are distinct, one element alone has a given key. -/
theorem filter_key_eq_singleton {l : List α} (h : (l.map f).Nodup) {x : α} (hx : x ∈ l) :
    l.filter (fun y => decide (f y = f x)) = [x] := by
  induction l with
  | nil => exact absurd hx List.not_mem_nil
  | cons a l ih =>
    obtain ⟨hfresh, hnodup⟩ := List.nodup_cons.mp h
    rcases List.mem_cons.mp hx with rfl | hmem
    · have hrest : l.filter (fun y => decide (f y = f x)) = [] := by
        apply List.filter_eq_nil_iff.mpr
        intro y hy hkey
        exact hfresh (of_decide_eq_true hkey ▸ List.mem_map_of_mem hy)
      rw [List.filter_cons_of_pos (by simp), hrest]
    · have hne : f a ≠ f x := by
        intro heq
        exact hfresh (heq ▸ List.mem_map_of_mem hmem)
      rw [List.filter_cons_of_neg (by simpa using hne)]
      exact ih hnodup hmem

end Keys

/-- The keys that are expected, those that are found, and those that may be missing. -/
structure Account (κ : Type) where
  expected : List κ
  found : Finset κ
  excusable : Finset κ

namespace Account

variable {κ : Type} [DecidableEq κ] (account : Account κ)

def missing : Finset κ := account.expected.toFinset \ account.found

def excused : Finset κ := account.missing ∩ account.excusable

def lost : Finset κ := account.missing \ account.excused

/-- How many of the expected keys the three sets leave over. -/
def gap : ℤ :=
  (account.expected.length : ℤ) - (account.found.card + account.excused.card + account.lost.card)

/-- No key is lost and none is left over. -/
def Balanced : Prop := account.lost = ∅ ∧ account.gap = 0

variable {account}

theorem excused_of_missing (h : account.lost = ∅) {key : κ} (hkey : key ∈ account.missing) :
    key ∈ account.excusable := by
  by_contra hnot
  have hlost : key ∈ account.lost := by
    apply Finset.mem_sdiff.mpr
    exact ⟨hkey, fun hexcused => hnot (Finset.mem_inter.mp hexcused).2⟩
  rw [h] at hlost
  exact absurd hlost (Finset.notMem_empty key)

/-- A balanced account: an expected key is found, or it may be missing. -/
theorem Balanced.found_or_excusable (h : account.Balanced) {key : κ} (hkey : key ∈ account.expected) :
    key ∈ account.found ∨ key ∈ account.excusable := by
  by_cases hfound : key ∈ account.found
  · exact .inl hfound
  · have hmissing : key ∈ account.missing :=
      Finset.mem_sdiff.mpr ⟨List.mem_toFinset.mpr hkey, hfound⟩
    exact .inr (excused_of_missing h.1 hmissing)

/-- The found keys and the missing ones are as many as the keys of either kind. -/
theorem card_found_add_card_missing (account : Account κ) :
    account.found.card + account.missing.card = (account.found ∪ account.expected.toFinset).card := by
  have h := Finset.card_sdiff_add_card account.expected.toFinset account.found
  unfold missing
  rw [Finset.union_comm]
  omega

/-- A balanced account expects no key twice, unless a key was found that it did not expect. -/
theorem Balanced.nodup (h : account.Balanced) (hfound : ∀ key ∈ account.found, key ∈ account.expected) :
    account.expected.Nodup := by
  have hlength : (account.expected.length : ℤ) =
      account.found.card + account.excused.card + account.lost.card := by
    have hgap := h.2
    unfold gap at hgap
    omega
  have hexcused : account.excused = account.missing := by
    apply Finset.inter_eq_left.mpr
    exact fun key hkey => excused_of_missing h.1 hkey
  have hcard : account.expected.toFinset.card = account.expected.length := by
    have hunion : account.found ∪ account.expected.toFinset = account.expected.toFinset :=
      Finset.union_eq_right.mpr fun key hkey => List.mem_toFinset.mpr (hfound key hkey)
    have hparts := card_found_add_card_missing account
    rw [hunion] at hparts
    rw [hexcused, h.1, Finset.card_empty] at hlength
    omega
  apply Multiset.coe_nodup.mp
  exact Multiset.toFinset_card_eq_card_iff_nodup.mp hcard

end Account

end Library
