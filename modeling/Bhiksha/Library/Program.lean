import Mathlib.Logic.Relation

/-! Programs that call out for answers, and assertions about them that hold whatever the surroundings
do between two calls. -/

namespace Library

/-- The operations a program may call, each with the type of its answers. -/
structure Interface where
  Op : Type
  Answer : Op → Type

inductive Program (S : Interface) (α : Type) : Type where
  | pure (a : α)
  | call (op : S.Op) (next : S.Answer op → Program S α)

namespace Program

variable {S : Interface} {α β γ : Type}

def bind : Program S α → (α → Program S β) → Program S β
  | .pure a, f => f a
  | .call op next, f => .call op fun ans => (next ans).bind f

instance : Monad (Program S) where
  pure := .pure
  bind := .bind

def perform (op : S.Op) : Program S (S.Answer op) := .call op fun ans => Pure.pure ans

@[simp] theorem pure_bind (a : α) (f : α → Program S β) :
    ((Pure.pure a : Program S α) >>= f) = f a := rfl

@[simp] theorem call_bind (op : S.Op) (next : S.Answer op → Program S α) (f : α → Program S β) :
    (Program.call op next >>= f) = .call op fun ans => next ans >>= f := rfl

theorem bind_assoc (p : Program S α) (f : α → Program S β) (g : β → Program S γ) :
    (p >>= f) >>= g = p >>= fun a => f a >>= g := by
  induction p with
  | pure a => rfl
  | call op next ih =>
    simp only [call_bind]
    congr 1
    funext ans
    exact ih ans

/-- A run of the program alone, against an interpreter of its operations. -/
def runWith {σ : Type} (handle : σ → (op : S.Op) → S.Answer op × σ) : Program S α → σ → α × σ
  | .pure a, s => (a, s)
  | .call op next, s => runWith handle (next (handle s op).1) (handle s op).2

theorem runWith_bind {σ : Type} (handle : σ → (op : S.Op) → S.Answer op × σ) (p : Program S α)
    (f : α → Program S β) (s : σ) :
    (p >>= f).runWith handle s = (f (p.runWith handle s).1).runWith handle (p.runWith handle s).2 := by
  induction p generalizing s with
  | pure a => rfl
  | call op next ih => exact ih _ _

/-- Whether the program has calls left to make. -/
def running : Program S α → Bool
  | .pure _ => false
  | .call _ _ => true

section Assertions

variable {σ : Type} (exec : σ → (op : S.Op) → S.Answer op → σ → Prop)
  (rely : σ → σ → Prop) (guar : S.Op → σ → σ → Prop)

/-- From here on, whatever the surroundings do within `rely` between two calls, every call moves the
state within `guar` and the result meets the postcondition. -/
def Meets (post : α → σ → Prop) : Program S α → σ → Prop
  | .pure a, s => ∀ s₁, rely s s₁ → post a s₁
  | .call op next, s => ∀ s₁, rely s s₁ → ∀ ans s₂, exec s₁ op ans s₂ →
      guar op s₁ s₂ ∧ Meets post (next ans) s₂

variable {exec rely guar} {post : α → σ → Prop}

/-- An assertion about the rest of a program survives every move of the surroundings. -/
theorem Meets.of_rely (htrans : ∀ a b c, rely a b → rely b c → rely a c) {p : Program S α}
    {s s₁ : σ} (h : Meets exec rely guar post p s) (hs : rely s s₁) :
    Meets exec rely guar post p s₁ := by
  cases p with
  | pure a => exact fun s₂ hs₂ => h s₂ (htrans s s₁ s₂ hs hs₂)
  | call op next => exact fun s₂ hs₂ => h s₂ (htrans s s₁ s₂ hs hs₂)

/-- A call under an assertion that the surroundings keep. -/
theorem meets_call {P : σ → Prop} (hkeep : ∀ a b, rely a b → P a → P b) {op : S.Op}
    {next : S.Answer op → Program S α} {s : σ} (hs : P s)
    (h : ∀ s₁, P s₁ → ∀ ans s₂, exec s₁ op ans s₂ →
      guar op s₁ s₂ ∧ Meets exec rely guar post (next ans) s₂) :
    Meets exec rely guar post (.call op next) s :=
  fun s₁ hr => h s₁ (hkeep s s₁ hr hs)

theorem Meets.bind (hrefl : ∀ s, rely s s) {p : Program S β} {f : β → Program S α} {s : σ}
    (h : Meets exec rely guar (fun b s₁ => Meets exec rely guar post (f b) s₁) p s) :
    Meets exec rely guar post (p >>= f) s := by
  induction p generalizing s with
  | pure b => exact h s (hrefl s)
  | call op next ih =>
    intro s₁ hr ans s₂ hexec
    obtain ⟨hguar, hnext⟩ := h s₁ hr ans s₂ hexec
    exact ⟨hguar, ih ans hnext⟩

theorem Meets.imp {post' : α → σ → Prop} (himp : ∀ a s, post a s → post' a s) {p : Program S α}
    {s : σ} (h : Meets exec rely guar post p s) : Meets exec rely guar post' p s := by
  induction p generalizing s with
  | pure a => exact fun s₁ hr => himp a s₁ (h s₁ hr)
  | call op next ih =>
    intro s₁ hr ans s₂ hexec
    obtain ⟨hguar, hnext⟩ := h s₁ hr ans s₂ hexec
    exact ⟨hguar, ih ans hnext⟩

end Assertions

end Program

end Library
