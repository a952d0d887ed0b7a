import Mathlib.Data.List.Basic
import Bhiksha.Library.Program

/-! Concurrent calls over a shared state: any call that may start starts, any running one makes its
next operation, and each is proved on its own against what the others guarantee. -/

namespace Library

variable {σ κ α : Type} {S : Interface}

/-- A started call and what is left of its program. -/
structure Thread (κ : Type) (S : Interface) (α : Type) where
  call : κ
  rest : Program S α

structure Config (σ κ : Type) (S : Interface) (α : Type) where
  state : σ
  threads : List (Thread κ S α)

inductive Action (κ : Type) (S : Interface) where
  | start (c : κ)
  | run (c : κ) (op : S.Op)

section System

variable (exec : ℕ → σ → (op : S.Op) → S.Answer op → σ → Prop) (body : κ → Program S α)
  (may : κ → Config σ κ S α → Prop)

/-- One step: a call starts, or the thread of some index makes its next operation. -/
inductive Step : Config σ κ S α → Action κ S → Config σ κ S α → Prop where
  | start {cfg : Config σ κ S α} (c : κ) (h : may c cfg) :
    Step cfg (.start c) ⟨cfg.state, cfg.threads ++ [⟨c, body c⟩]⟩
  | run {cfg : Config σ κ S α} (i : ℕ) (c : κ) (op : S.Op) (next : S.Answer op → Program S α)
    (ans : S.Answer op) (s : σ) (hthread : cfg.threads[i]? = some ⟨c, .call op next⟩)
    (hexec : exec i cfg.state op ans s) :
    Step cfg (.run c op) ⟨s, cfg.threads.set i ⟨c, next ans⟩⟩

def Reachable (cfg cfg' : Config σ κ S α) : Prop :=
  Relation.ReflTransGen (fun a b => ∃ act, Step exec body may a act b) cfg cfg'

/-- What makes the proofs of single calls compose: each call guarantees what every call that may run
next to it relies on. -/
structure Composes (I : σ → Prop) (rely : κ → ℕ → σ → σ → Prop)
    (guar : κ → ℕ → S.Op → σ → σ → Prop) (compat : κ → κ → Prop) : Prop where
  refl : ∀ c i s, rely c i s s
  trans : ∀ {c i s₁ s₂ s₃}, rely c i s₁ s₂ → rely c i s₂ s₃ → rely c i s₁ s₃
  inv_of_guar : ∀ {c i op s s'}, guar c i op s s' → I s → I s'
  rely_of_guar : ∀ {c c' i j op s s'}, i ≠ j → compat c c' → I s → guar c i op s s' → rely c' j s s'
  compat_of_may : ∀ {c cfg}, may c cfg → ∀ t ∈ cfg.threads, t.rest.running →
    compat c t.call ∧ compat t.call c
  meets_of_may : ∀ {c cfg} (i : ℕ), may c cfg → I cfg.state →
    (body c).Meets (exec i) (rely c i) (guar c i) (fun _ _ => True) cfg.state

/-- Every thread still meets its assertion, and running ones are compatible. -/
structure Sound (I : σ → Prop) (rely : κ → ℕ → σ → σ → Prop)
    (guar : κ → ℕ → S.Op → σ → σ → Prop) (compat : κ → κ → Prop) (cfg : Config σ κ S α) :
    Prop where
  inv : I cfg.state
  meets : ∀ (i : ℕ) (t : Thread κ S α), cfg.threads[i]? = some t →
    t.rest.Meets (exec i) (rely t.call i) (guar t.call i) (fun _ _ => True) cfg.state
  apart : ∀ (i j : ℕ) (t u : Thread κ S α), i ≠ j → cfg.threads[i]? = some t → cfg.threads[j]? = some u →
    t.rest.running → u.rest.running → compat t.call u.call

end System

section Soundness

variable {exec : ℕ → σ → (op : S.Op) → S.Answer op → σ → Prop} {body : κ → Program S α}
  {may : κ → Config σ κ S α → Prop} {I : σ → Prop} {rely : κ → ℕ → σ → σ → Prop}
  {guar : κ → ℕ → S.Op → σ → σ → Prop} {compat : κ → κ → Prop} {cfg cfg' : Config σ κ S α}

theorem Reachable.step {start : Config σ κ S α} {act : Action κ S}
    (h : Reachable exec body may start cfg) (hstep : Step exec body may cfg act cfg') :
    Reachable exec body may start cfg' :=
  Relation.ReflTransGen.tail h ⟨act, hstep⟩

theorem sound_nil {s : σ} (h : I s) : Sound exec I rely guar compat (⟨s, []⟩ : Config σ κ S α) where
  inv := h
  meets := fun i t ht => by simp at ht
  apart := fun i j t u _ ht => by simp at ht

theorem meets_of_not_running {p : Program S α} {exec : σ → (op : S.Op) → S.Answer op → σ → Prop}
    {rely : σ → σ → Prop} {guar : S.Op → σ → σ → Prop} {s : σ} (h : p.running = false) :
    p.Meets exec rely guar (fun _ _ => True) s := by
  cases p with
  | pure a => exact fun _ _ => trivial
  | call op next => cases h

theorem sound_start (hc : Composes exec body may I rely guar compat)
    (h : Sound exec I rely guar compat cfg) {c : κ} (hmay : may c cfg) :
    Sound exec I rely guar compat ⟨cfg.state, cfg.threads ++ [⟨c, body c⟩]⟩ where
  inv := h.inv
  meets := by
    intro i t ht
    rw [List.getElem?_append] at ht
    split at ht
    · exact h.meets i t ht
    · rw [List.getElem?_singleton] at ht
      split at ht
      · obtain rfl := Option.some.inj ht
        have hbody := hc.meets_of_may i hmay h.inv
        exact hbody
      · cases ht
  apart := by
    intro i j t u hij ht hu htr hur
    have hold := hc.compat_of_may hmay
    rw [List.getElem?_append] at ht hu
    split at ht <;> split at hu
    · exact h.apart i j t u hij ht hu htr hur
    · rw [List.getElem?_singleton] at hu
      split at hu
      · obtain rfl := Option.some.inj hu
        exact (hold t (List.mem_of_getElem? ht) htr).2
      · cases hu
    · rw [List.getElem?_singleton] at ht
      split at ht
      · obtain rfl := Option.some.inj ht
        exact (hold u (List.mem_of_getElem? hu) hur).1
      · cases ht
    · rw [List.getElem?_singleton] at ht hu
      split at ht
      · split at hu
        · omega
        · cases hu
      · cases ht

/-- What one operation of a thread guarantees. -/
theorem guar_of_run (hc : Composes exec body may I rely guar compat)
    (h : Sound exec I rely guar compat cfg) {i : ℕ} {c : κ} {op : S.Op}
    {next : S.Answer op → Program S α} {ans : S.Answer op} {s : σ}
    (hthread : cfg.threads[i]? = some ⟨c, .call op next⟩) (hexec : exec i cfg.state op ans s) :
    guar c i op cfg.state s ∧
      (next ans).Meets (exec i) (rely c i) (guar c i) (fun _ _ => True) s :=
  h.meets i _ hthread cfg.state (hc.refl c i cfg.state) ans s hexec

theorem sound_run (hc : Composes exec body may I rely guar compat)
    (h : Sound exec I rely guar compat cfg) {i : ℕ} {c : κ} {op : S.Op}
    {next : S.Answer op → Program S α} {ans : S.Answer op} {s : σ}
    (hthread : cfg.threads[i]? = some ⟨c, .call op next⟩) (hexec : exec i cfg.state op ans s) :
    Sound exec I rely guar compat ⟨s, cfg.threads.set i ⟨c, next ans⟩⟩ := by
  obtain ⟨hguar, hnext⟩ := guar_of_run hc h hthread hexec
  -- the other threads are where they were; thread `i` was running
  have hother {j : ℕ} {t : Thread κ S α} (hij : i ≠ j)
      (ht : (cfg.threads.set i ⟨c, next ans⟩)[j]? = some t) : cfg.threads[j]? = some t := by
    rwa [List.getElem?_set_ne hij] at ht
  have hself {t : Thread κ S α} (ht : (cfg.threads.set i ⟨c, next ans⟩)[i]? = some t) :
      t = ⟨c, next ans⟩ := by
    rw [List.getElem?_set_self (List.getElem?_eq_some_iff.mp hthread).1] at ht
    exact (Option.some.inj ht).symm
  constructor
  · exact hc.inv_of_guar hguar h.inv
  · intro j t ht
    by_cases hij : i = j
    · subst hij
      rw [hself ht]
      exact hnext
    · have hold := hother hij ht
      cases hrun : t.rest.running with
      | false => exact meets_of_not_running hrun
      | true =>
        have hcompat := h.apart i j _ t hij hthread hold rfl hrun
        have hrely : rely t.call j cfg.state s := hc.rely_of_guar hij hcompat h.inv hguar
        refine Program.Meets.of_rely ?_ (h.meets j t hold) hrely
        exact fun a b d hab hbd => hc.trans hab hbd
  · intro j k t u hjk ht hu htr hur
    by_cases hij : i = j
    · subst hij
      rw [hself ht]
      have hcompat := h.apart i k _ u hjk hthread (hother hjk hu) rfl hur
      exact hcompat
    · by_cases hik : i = k
      · subst hik
        rw [hself hu]
        have hcompat := h.apart j i t _ hjk (hother hij ht) hthread htr rfl
        exact hcompat
      · exact h.apart j k t u hjk (hother hij ht) (hother hik hu) htr hur

theorem sound_step (hc : Composes exec body may I rely guar compat)
    (h : Sound exec I rely guar compat cfg) {act : Action κ S}
    (hstep : Step exec body may cfg act cfg') : Sound exec I rely guar compat cfg' := by
  cases hstep with
  | start c hmay => exact sound_start hc h hmay
  | run i c op next ans s hthread hexec => exact sound_run hc h hthread hexec

/-- Every configuration that calls reach from an idle state is sound. -/
theorem sound_of_reachable (hc : Composes exec body may I rely guar compat) {s : σ} (hs : I s)
    (h : Reachable exec body may ⟨s, []⟩ cfg) : Sound exec I rely guar compat cfg := by
  induction h with
  | refl => exact sound_nil hs
  | tail _ hstep ih =>
    obtain ⟨act, hstep⟩ := hstep
    exact sound_step hc ih hstep

end Soundness

section Schedule

variable (answers : ℕ → σ → (op : S.Op) → Option (S.Answer op × σ))

/-- The thread of an index makes its next operation, in surroundings that answer in one way. -/
def Config.turn (cfg : Config σ κ S α) (i : ℕ) : Option (Config σ κ S α) :=
  match cfg.threads[i]? with
  | some ⟨c, .call op next⟩ =>
    (answers i cfg.state op).map fun ans => ⟨ans.2, cfg.threads.set i ⟨c, next ans.1⟩⟩
  | _ => none

variable {answers} {exec : ℕ → σ → (op : S.Op) → S.Answer op → σ → Prop} {body : κ → Program S α}
  {may : κ → Config σ κ S α → Prop} {start cfg cfg' : Config σ κ S α}

theorem Reachable.turn (hexec : ∀ i s op ans, answers i s op = some ans → exec i s op ans.1 ans.2)
    (h : Reachable exec body may start cfg) {i : ℕ} (hturn : cfg.turn answers i = some cfg') :
    Reachable exec body may start cfg' := by
  unfold Config.turn at hturn
  split at hturn
  · next c op next hthread =>
    obtain ⟨ans, hans, rfl⟩ := Option.map_eq_some_iff.mp hturn
    exact h.step (.run i c op next ans.1 ans.2 hthread (hexec i cfg.state op ans hans))
  · cases hturn

/-- A schedule of turns is a run. -/
theorem Reachable.turns (hexec : ∀ i s op ans, answers i s op = some ans → exec i s op ans.1 ans.2)
    {order : List ℕ} (h : Reachable exec body may start cfg)
    (hturns : order.foldlM (Config.turn answers) cfg = some cfg') :
    Reachable exec body may start cfg' := by
  induction order generalizing cfg with
  | nil =>
    obtain rfl := Option.some.inj hturns
    exact h
  | cons i rest ih =>
    rw [List.foldlM_cons] at hturns
    obtain ⟨after, hturn, hrest⟩ := Option.bind_eq_some_iff.mp hturns
    exact ih (h.turn hexec hturn) hrest

end Schedule

end Library
