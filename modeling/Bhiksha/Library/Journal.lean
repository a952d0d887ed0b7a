import Bhiksha.Library.History
import Mathlib.Data.List.Basic
import Mathlib.Data.List.Count
import Mathlib.Data.List.Infix

/-! A journal of effects whose process can die at any point and, on each start, plans anew from the last
entries it can see: what a mark that is written before a call guarantees about the calls. -/

namespace Library

/-- The entries that were made, latest first, and what the process has still planned. -/
structure Journal (ε : Type) where
  history : List ε
  todo : List ε

namespace Journal

variable {ε β κ : Type}

inductive Move (β ε : Type) where
  | boot (b : β)
  | next
  | outside (e : ε)
  | crash

variable (loaded : ε → Bool) (limit : ℕ) (plan : β → List ε → List ε)

/-- The last `limit` loaded entries, latest first. -/
def visible (history : List ε) : List ε := (history.filter loaded).take limit

def step (j : Journal ε) : Move β ε → Journal ε
  | .boot b => { j with todo := plan b (visible loaded limit j.history) }
  | .next =>
    match j.todo with
    | [] => j
    | e :: rest => ⟨e :: j.history, rest⟩
  | .outside e => { j with history := e :: j.history }
  | .crash => { j with todo := [] }

def run (moves : List (Move β ε)) : Journal ε := moves.foldl (step loaded limit plan) ⟨[], []⟩

variable (marks calls : κ → ε → Bool)

/-- Behind every mark of the key lie at least `limit` loaded entries. -/
def Expired (k : κ) (history : List ε) : Prop :=
  ∀ newer m older, history = newer ++ m :: older → marks k m = true → limit ≤ newer.countP loaded

/-- A mark needs the earlier ones to be out of sight, a call a mark that no call has used. -/
def Grounds (e : ε) (earlier : List ε) : Prop :=
  ∀ k, (marks k e = true → Expired loaded limit marks k earlier) ∧
    (calls k e = true → earlier.countP (calls k) < earlier.countP (marks k))

/-- Plans that mark a key once, only while no mark of it is in sight, and call after the mark. -/
structure Sound : Prop where
  loaded_of_marks : ∀ k e, marks k e = true → loaded e = true
  not_calls_of_marks : ∀ k e, marks k e = true → calls k e = false
  fresh : ∀ b shown k e, e ∈ plan b shown → marks k e = true → ∀ m ∈ shown, marks k m = false
  once : ∀ b shown k, (plan b shown).countP (marks k) ≤ 1
  marked : ∀ b shown k (p : List ε), p <+: plan b shown → p.countP (calls k) ≤ p.countP (marks k)

/-- What the surroundings write is neither a mark nor a call. -/
def Foreign : Move β ε → Prop
  | .outside e => ∀ k, marks k e = false ∧ calls k e = false
  | _ => True

structure Invariant (j : Journal ε) : Prop where
  grounds : Justified (Grounds loaded limit marks calls) j.history
  expired : ∀ k e, e ∈ j.todo → marks k e = true → Expired loaded limit marks k j.history
  once : ∀ k, j.todo.countP (marks k) ≤ 1
  marked : ∀ k (p : List ε), p <+: j.todo →
    j.history.countP (calls k) + p.countP (calls k) ≤ j.history.countP (marks k) + p.countP (marks k)

variable {loaded limit plan marks calls} {k : κ} {e : ε} {history : List ε} {j : Journal ε}

theorem Expired.cons (h : Expired loaded limit marks k history) (he : marks k e = false) :
    Expired loaded limit marks k (e :: history) := by
  intro newer m older hsplit hm
  cases newer with
  | nil =>
    obtain ⟨rfl, -⟩ := List.cons.inj hsplit
    rw [he] at hm
    cases hm
  | cons first newer =>
    obtain ⟨-, hrest⟩ := List.cons.inj hsplit
    have hle := h newer m older hrest hm
    exact hle.trans (List.Sublist.countP_le (List.sublist_cons_self first newer))

/-- A mark with fewer than `limit` loaded entries after it is in sight. -/
theorem expired_of_visible (hloaded : ∀ e, marks k e = true → loaded e = true)
    (h : ∀ m ∈ visible loaded limit history, marks k m = false) :
    Expired loaded limit marks k history := by
  intro newer m older hsplit hm
  by_contra hlt
  have hshort : (newer.filter loaded).length < limit := by
    rw [← List.countP_eq_length_filter]
    exact not_le.mp hlt
  have hshown : m ∈ visible loaded limit history := by
    unfold visible
    rw [hsplit, List.filter_append, List.filter_cons_of_pos (hloaded m hm), List.take_append]
    apply List.mem_append_right
    obtain ⟨n, hn⟩ := Nat.exists_eq_add_of_lt hshort
    have hleft : limit - (newer.filter loaded).length = n + 1 := by omega
    rw [hleft, List.take_succ_cons]
    exact List.mem_cons_self
  rw [h m hshown] at hm
  cases hm

/-- The next planned entry has its grounds in the history, and the rest of the plan stays sound. -/
theorem Invariant.next {rest : List ε} (hdisjoint : ∀ k e, marks k e = true → calls k e = false)
    (h : Invariant loaded limit marks calls ⟨history, e :: rest⟩) :
    Invariant loaded limit marks calls ⟨e :: history, rest⟩ := by
  have hone (k : κ) : rest.countP (marks k) + (if marks k e then 1 else 0) ≤ 1 := by
    rw [← List.countP_cons]
    exact h.once k
  refine ⟨h.grounds.cons fun k => ⟨?_, ?_⟩, ?_, ?_, ?_⟩
  · exact h.expired k e List.mem_cons_self
  · -- The plan up to this call has no fewer marks than calls, and the call itself is no mark.
    intro hcall
    have hpre := h.marked k [e] (List.cons_prefix_cons.mpr ⟨rfl, List.nil_prefix⟩)
    have hmark : marks k e = false := by
      by_contra hcontra
      rw [Bool.not_eq_false] at hcontra
      rw [hdisjoint k e hcontra] at hcall
      cases hcall
    rw [List.countP_singleton, List.countP_singleton, if_pos hcall, hmark] at hpre
    simp only [Bool.false_eq_true, if_false, Nat.add_zero] at hpre
    exact hpre
  · -- A key that this entry marks has no second mark ahead.
    intro k m hm hmark
    have hrest : 0 < rest.countP (marks k) := List.countP_pos_iff.mpr ⟨m, hm, hmark⟩
    have hnot : marks k e = false := by
      by_contra hcontra
      rw [Bool.not_eq_false] at hcontra
      have hle := hone k
      rw [if_pos hcontra] at hle
      omega
    exact (h.expired k m (List.mem_cons_of_mem e hm) hmark).cons hnot
  · intro k
    exact (Nat.le_add_right _ _).trans (hone k)
  · intro k p hp
    have hpre := h.marked k (e :: p) (List.cons_prefix_cons.mpr ⟨rfl, hp⟩)
    simp only [List.countP_cons] at hpre ⊢
    omega

theorem Invariant.outside (h : Invariant loaded limit marks calls j)
    (he : ∀ k, marks k e = false ∧ calls k e = false) :
    Invariant loaded limit marks calls { j with history := e :: j.history } := by
  refine ⟨h.grounds.cons fun k => ?_, ?_, h.once, ?_⟩
  · obtain ⟨hmark, hcall⟩ := he k
    rw [hmark, hcall]
    exact ⟨fun hcontra => absurd hcontra Bool.false_ne_true, fun hcontra => absurd hcontra Bool.false_ne_true⟩
  · intro k m hm hmark
    exact (h.expired k m hm hmark).cons (he k).1
  · intro k p hp
    have hpre := h.marked k p hp
    simp only [List.countP_cons, he k, Bool.false_eq_true, if_false, Nat.add_zero]
    exact hpre

theorem Invariant.halt (h : Invariant loaded limit marks calls j) :
    Invariant loaded limit marks calls { j with todo := [] } := by
  refine ⟨h.grounds, ?_, ?_, ?_⟩
  · intro k m hm
    cases hm
  · intro k
    exact Nat.zero_le 1
  · intro k p hp
    obtain rfl := List.prefix_nil.mp hp
    exact h.marked k [] List.nil_prefix

theorem Invariant.boot (hsound : Sound (β := β) loaded plan marks calls)
    (h : Invariant loaded limit marks calls j) (b : β) :
    Invariant loaded limit marks calls
      { j with todo := plan b (visible loaded limit j.history) } := by
  refine ⟨h.grounds, ?_, ?_, ?_⟩
  · intro k m hm hmark
    exact expired_of_visible (hsound.loaded_of_marks k) (hsound.fresh b _ k m hm hmark)
  · intro k
    exact hsound.once b _ k
  · intro k p hp
    have hnow := h.marked k [] List.nil_prefix
    have hplan := hsound.marked b _ k p hp
    simp only [List.countP_nil, Nat.add_zero] at hnow
    exact Nat.add_le_add hnow hplan

theorem invariant_step (hsound : Sound (β := β) loaded plan marks calls)
    (h : Invariant loaded limit marks calls j) (move : Move β ε) (hmove : Foreign marks calls move) :
    Invariant loaded limit marks calls (step loaded limit plan j move) := by
  cases move with
  | boot b => exact h.boot hsound b
  | next =>
    obtain ⟨history, todo⟩ := j
    cases todo with
    | nil => exact h
    | cons e rest => exact h.next hsound.not_calls_of_marks
  | outside e => exact h.outside hmove
  | crash => exact h.halt

/-- The invariant of every run in which the surroundings neither mark nor call. -/
theorem invariant_run (hsound : Sound (β := β) loaded plan marks calls) (moves : List (Move β ε))
    (hmoves : ∀ move ∈ moves, Foreign marks calls move) :
    Invariant loaded limit marks calls (run loaded limit plan moves) := by
  induction moves using List.reverseRecOn with
  | nil =>
    refine ⟨trivial, ?_, ?_, ?_⟩
    · intro k e he
      cases he
    · intro k
      exact Nat.zero_le 1
    · intro k p hp
      obtain rfl := List.prefix_nil.mp hp
      exact le_refl _
  | append_singleton moves move ih =>
    have hlast := hmoves move (List.mem_append_right moves List.mem_cons_self)
    have hinit := ih fun m hm => hmoves m (List.mem_append_left [move] hm)
    unfold run
    rw [List.foldl_append]
    exact invariant_step hsound hinit move hlast

theorem exists_split_of_two_le_countP {p : ε → Bool} {l : List ε} (h : 2 ≤ l.countP p) :
    ∃ newer e₂ middle e₁ older, l = newer ++ e₂ :: (middle ++ e₁ :: older) ∧ p e₂ = true ∧ p e₁ = true := by
  induction l with
  | nil => cases h
  | cons first rest ih =>
    by_cases hfirst : p first = true
    · rw [List.countP_cons_of_pos hfirst] at h
      obtain ⟨e₁, hmem, he₁⟩ := List.countP_pos_iff.mp (Nat.lt_of_succ_lt_succ h)
      obtain ⟨middle, older, hsplit⟩ := List.append_of_mem hmem
      exact ⟨[], first, middle, e₁, older, by rw [hsplit]; rfl, hfirst, he₁⟩
    · rw [List.countP_cons_of_neg hfirst] at h
      obtain ⟨newer, e₂, middle, e₁, older, hsplit, he₂, he₁⟩ := ih h
      exact ⟨first :: newer, e₂, middle, e₁, older, by rw [hsplit]; rfl, he₂, he₁⟩

/-- Two marks of one key lie at least `limit` loaded entries apart. -/
theorem Invariant.marks_apart (h : Invariant loaded limit marks calls j) {newer middle older : List ε}
    {m₁ m₂ : ε} (hsplit : j.history = newer ++ m₂ :: (middle ++ m₁ :: older))
    (h₁ : marks k m₁ = true) (h₂ : marks k m₂ = true) : limit ≤ middle.countP loaded := by
  have hsuffix : m₂ :: (middle ++ m₁ :: older) <:+ j.history := ⟨newer, hsplit.symm⟩
  have hgrounds := justified_iff.mp h.grounds m₂ (middle ++ m₁ :: older) hsuffix
  exact (hgrounds k).1 h₂ middle m₁ older rfl h₁

/-- Every call has a mark of its own before it. -/
theorem Invariant.calls_le_marks (h : Invariant loaded limit marks calls j) (k : κ) :
    j.history.countP (calls k) ≤ j.history.countP (marks k) := by
  have hnow := h.marked k [] List.nil_prefix
  simpa only [List.countP_nil, Nat.add_zero] using hnow

/-- While the journal has no more loaded entries than are in sight, no key is called twice. -/
theorem Invariant.calls_le_one (h : Invariant loaded limit marks calls j)
    (hloaded : ∀ e, marks k e = true → loaded e = true) (hroom : j.history.countP loaded ≤ limit) :
    j.history.countP (calls k) ≤ 1 := by
  apply (h.calls_le_marks k).trans
  by_contra htwo
  obtain ⟨newer, m₂, middle, m₁, older, hsplit, h₂, h₁⟩ :=
    exists_split_of_two_le_countP (not_le.mp htwo)
  have hmiddle := h.marks_apart hsplit h₁ h₂
  have htotal : j.history.countP loaded =
      newer.countP loaded + (middle.countP loaded + (older.countP loaded + 1) + 1) := by
    rw [hsplit, List.countP_append, List.countP_cons_of_pos (hloaded m₂ h₂), List.countP_append,
      List.countP_cons_of_pos (hloaded m₁ h₁)]
  omega

end Journal

end Library
