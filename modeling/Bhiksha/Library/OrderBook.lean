import Mathlib.Logic.Function.Basic
import Mathlib.Data.List.Basic
import Mathlib.Order.Lattice

/-! Orders at a venue that executes, drops and registers them at moments of its own choosing. -/

namespace Library

/-- One order: what it asks for, what is executed, and whether it can still execute. -/
structure VenueOrder where
  quantity : ℕ
  filled : ℕ
  alive : Bool
  filled_le : filled ≤ quantity
deriving DecidableEq, Repr

namespace VenueOrder

/-- What is executed or can still execute. -/
def exposure (o : VenueOrder) : ℕ := if o.alive then o.quantity else o.filled

def opened (quantity : ℕ) (alive : Bool) : VenueOrder := ⟨quantity, 0, alive, Nat.zero_le _⟩

/-- An execution of `n` more; an order that is executed in whole cannot execute any more. -/
def fill (o : VenueOrder) (n : ℕ) : VenueOrder where
  quantity := o.quantity
  filled := if o.alive then min o.quantity (o.filled + n) else o.filled
  alive := o.alive && decide (o.filled + n < o.quantity)
  filled_le := by
    have h := o.filled_le
    split <;> omega

def die (o : VenueOrder) : VenueOrder := { o with alive := false }

theorem filled_le_exposure (o : VenueOrder) : o.filled ≤ o.exposure := by
  have h := o.filled_le
  unfold exposure
  split <;> omega

theorem exposure_le_quantity (o : VenueOrder) : o.exposure ≤ o.quantity := by
  have h := o.filled_le
  unfold exposure
  split <;> omega

theorem exposure_fill_le (o : VenueOrder) (n : ℕ) : (o.fill n).exposure ≤ o.exposure := by
  have h := o.filled_le
  cases ha : o.alive with
  | false => simp [exposure, fill, ha]
  | true =>
    -- alive or not afterwards, no more than the quantity is at stake
    have hq := (o.fill n).exposure_le_quantity
    have hwhole : o.exposure = o.quantity := by simp [exposure, ha]
    rw [hwhole]
    exact hq

theorem exposure_die_le (o : VenueOrder) : o.die.exposure ≤ o.exposure :=
  o.filled_le_exposure

theorem filled_le_fill (o : VenueOrder) (n : ℕ) : o.filled ≤ (o.fill n).filled := by
  have h := o.filled_le
  simp only [fill]
  split <;> omega

theorem fill_of_dead {o : VenueOrder} (h : o.alive = false) (n : ℕ) : o.fill n = o := by
  cases o
  subst h
  rfl

theorem die_of_dead {o : VenueOrder} (h : o.alive = false) : o.die = o := by
  cases o
  subst h
  rfl

end VenueOrder

/-- The orders a venue knows, and the requests it has been sent and may still register. -/
structure OrderBook (ι : Type) where
  orders : ι → Option VenueOrder
  inFlight : ι → Option ℕ

/-- What the venue does on its own. -/
inductive VenueMove (ι : Type) where
  | fill (i : ι) (n : ℕ)
  | die (i : ι)
  | register (i : ι) (alive : Bool)
deriving DecidableEq, Repr

/-- What becomes of a request: registered, turned down, or on its way with nobody told. -/
inductive Verdict where
  | accepted
  | refused
  | lost
deriving DecidableEq, Repr

namespace OrderBook

section Reading

variable {ι : Type}

/-- What is executed or can still execute under an identity. -/
def exposure (b : OrderBook ι) (i : ι) : ℕ :=
  match b.orders i with
  | some o => o.exposure
  | none => (b.inFlight i).getD 0

/-- Nothing was ever sent under the identity. -/
def Unasked (b : OrderBook ι) (i : ι) : Prop := b.orders i = none ∧ b.inFlight i = none

variable {b : OrderBook ι} {i : ι} {o : VenueOrder}

theorem exposure_of_order (h : b.orders i = some o) : b.exposure i = o.exposure := by
  simp [exposure, h]

theorem exposure_of_unasked (h : b.Unasked i) : b.exposure i = 0 := by
  simp [exposure, h.1, h.2]

end Reading

variable {ι : Type} [DecidableEq ι]

def put (b : OrderBook ι) (i : ι) (o : VenueOrder) : OrderBook ι :=
  { b with orders := Function.update b.orders i (some o) }

def move (b : OrderBook ι) : VenueMove ι → OrderBook ι
  | .fill i n => (b.orders i).elim b fun o => b.put i (o.fill n)
  | .die i => (b.orders i).elim b fun o => b.put i o.die
  | .register i alive =>
    match b.orders i, b.inFlight i with
    | none, some quantity => b.put i (.opened quantity alive)
    | _, _ => b

def moves (b : OrderBook ι) (ms : List (VenueMove ι)) : OrderBook ι := ms.foldl move b

/-- A request under the identity `i`, which the venue registers at most once. -/
def request (b : OrderBook ι) (i : ι) (quantity : ℕ) (verdict : Verdict) : OrderBook ι :=
  match b.orders i, verdict with
  | none, .accepted => b.put i (.opened quantity true)
  | none, .lost =>
    let pending := max quantity ((b.inFlight i).getD 0)
    { b with inFlight := Function.update b.inFlight i (some pending) }
  | _, _ => b

variable {b : OrderBook ι} {i j : ι} {o : VenueOrder}

@[simp] theorem put_orders_self (b : OrderBook ι) (i : ι) (o : VenueOrder) :
    (b.put i o).orders i = some o := by simp [put]

theorem put_orders_of_ne (h : j ≠ i) (o : VenueOrder) : (b.put i o).orders j = b.orders j := by
  simp [put, h]

@[simp] theorem put_inFlight (b : OrderBook ι) (i : ι) (o : VenueOrder) :
    (b.put i o).inFlight = b.inFlight := rfl

theorem exposure_put_of_ne (h : j ≠ i) (o : VenueOrder) : (b.put i o).exposure j = b.exposure j := by
  simp [exposure, put_orders_of_ne h]

/-- A move rewrites at most the order it names. -/
theorem move_cases (b : OrderBook ι) (m : VenueMove ι) :
    b.move m = b ∨ (∃ i o n, b.orders i = some o ∧ b.move m = b.put i (o.fill n)) ∨
      (∃ i o, b.orders i = some o ∧ b.move m = b.put i o.die) ∨
      ∃ i q alive, b.orders i = none ∧ b.inFlight i = some q ∧
        b.move m = b.put i (.opened q alive) := by
  cases m with
  | fill i n =>
    cases h : b.orders i with
    | none => exact .inl (by simp [move, h])
    | some o => exact .inr (.inl ⟨i, o, n, h, by simp [move, h]⟩)
  | die i =>
    cases h : b.orders i with
    | none => exact .inl (by simp [move, h])
    | some o => exact .inr (.inr (.inl ⟨i, o, h, by simp [move, h]⟩))
  | register i alive =>
    cases h : b.orders i with
    | some o => exact .inl (by simp [move, h])
    | none =>
      cases hq : b.inFlight i with
      | none => exact .inl (by simp [move, h, hq])
      | some q => exact .inr (.inr (.inr ⟨i, q, alive, h, hq, by simp [move, h, hq]⟩))

/-- The venue never puts more at stake on its own. -/
theorem exposure_move_le (b : OrderBook ι) (m : VenueMove ι) (j : ι) :
    (b.move m).exposure j ≤ b.exposure j := by
  rcases b.move_cases m with h | ⟨i, o, n, ho, h⟩ | ⟨i, o, ho, h⟩ | ⟨i, q, alive, ho, hq, h⟩
  · exact le_of_eq (by rw [h])
  · rw [h]
    by_cases hj : j = i
    · subst hj
      rw [exposure_of_order (put_orders_self b j _), exposure_of_order ho]
      exact o.exposure_fill_le n
    · exact (exposure_put_of_ne hj _).le
  · rw [h]
    by_cases hj : j = i
    · subst hj
      rw [exposure_of_order (put_orders_self b j _), exposure_of_order ho]
      exact o.exposure_die_le
    · exact (exposure_put_of_ne hj _).le
  · rw [h]
    by_cases hj : j = i
    · subst hj
      have hold : b.exposure j = q := by simp [exposure, ho, hq]
      rw [exposure_of_order (put_orders_self b j _), hold]
      exact (VenueOrder.opened q alive).exposure_le_quantity
    · exact (exposure_put_of_ne hj _).le

theorem order_move (h : b.orders i = some o) (m : VenueMove ι) :
    ∃ o', (b.move m).orders i = some o' ∧ o'.quantity = o.quantity ∧ o.filled ≤ o'.filled ∧
      (o.alive = false → o' = o) := by
  rcases b.move_cases m with hm | ⟨j, p, n, hp, hm⟩ | ⟨j, p, hp, hm⟩ | ⟨j, q, alive, hn, -, hm⟩
  · exact ⟨o, by rw [hm, h], rfl, le_rfl, fun _ => rfl⟩
  · by_cases hj : i = j
    · subst hj
      obtain rfl : p = o := Option.some.inj (hp.symm.trans h)
      exact ⟨p.fill n, by rw [hm, put_orders_self], rfl, p.filled_le_fill n,
        fun hd => VenueOrder.fill_of_dead hd n⟩
    · exact ⟨o, by rw [hm, put_orders_of_ne hj, h], rfl, le_rfl, fun _ => rfl⟩
  · by_cases hj : i = j
    · subst hj
      obtain rfl : p = o := Option.some.inj (hp.symm.trans h)
      exact ⟨p.die, by rw [hm, put_orders_self], rfl, le_rfl, VenueOrder.die_of_dead⟩
    · exact ⟨o, by rw [hm, put_orders_of_ne hj, h], rfl, le_rfl, fun _ => rfl⟩
  · have hj : i ≠ j := by
      rintro rfl
      rw [h] at hn
      cases hn
    exact ⟨o, by rw [hm, put_orders_of_ne hj, h], rfl, le_rfl, fun _ => rfl⟩

theorem unasked_move (h : b.Unasked i) (m : VenueMove ι) : (b.move m).Unasked i := by
  -- every order that a move writes was known or asked for before
  have hput : ∀ j p, (b.orders j ≠ none ∨ b.inFlight j ≠ none) → (b.put j p).Unasked i := by
    intro j p hj
    have hne : i ≠ j := by
      rintro rfl
      exact hj.elim (fun hj => hj h.1) fun hj => hj h.2
    exact ⟨by rw [put_orders_of_ne hne, h.1], h.2⟩
  rcases b.move_cases m with hm | ⟨j, p, n, hp, hm⟩ | ⟨j, p, hp, hm⟩ | ⟨j, q, alive, -, hq, hm⟩
  · rwa [hm]
  · rw [hm]
    exact hput j _ (.inl (by simp [hp]))
  · rw [hm]
    exact hput j _ (.inl (by simp [hp]))
  · rw [hm]
    exact hput j _ (.inr (by simp [hq]))

section Moves

variable (ms : List (VenueMove ι))

/-- What every single move keeps, any number of moves keep. -/
theorem moves_induction {P : OrderBook ι → Prop} (hstep : ∀ b m, P b → P (b.move m)) (h : P b) :
    P (b.moves ms) := by
  induction ms generalizing b with
  | nil => exact h
  | cons m ms ih => exact ih (hstep b m h)

theorem exposure_moves_le (b : OrderBook ι) (j : ι) : (b.moves ms).exposure j ≤ b.exposure j :=
  moves_induction (P := fun b' => b'.exposure j ≤ b.exposure j) ms
    (fun b' m h => (exposure_move_le b' m j).trans h) le_rfl

theorem unasked_moves (h : b.Unasked i) : (b.moves ms).Unasked i :=
  moves_induction (P := fun b => b.Unasked i) ms (fun _ m h => unasked_move h m) h

theorem order_moves (h : b.orders i = some o) :
    ∃ o', (b.moves ms).orders i = some o' ∧ o'.quantity = o.quantity ∧ o.filled ≤ o'.filled ∧
      (o.alive = false → o' = o) := by
  refine moves_induction (P := fun b' => ∃ o', b'.orders i = some o' ∧ o'.quantity = o.quantity ∧
    o.filled ≤ o'.filled ∧ (o.alive = false → o' = o)) ms ?_ ⟨o, h, rfl, le_rfl, fun _ => rfl⟩
  rintro b' m ⟨o₁, h₁, hq, hf, hd⟩
  obtain ⟨o₂, h₂, hq', hf', hd'⟩ := order_move h₁ m
  refine ⟨o₂, h₂, hq'.trans hq, hf.trans hf', fun hdead => ?_⟩
  -- a dead order is still the same one after the first moves
  obtain rfl := hd hdead
  exact hd' hdead

end Moves

section Request

variable (quantity : ℕ) (verdict : Verdict)

theorem request_of_known (h : b.orders i = some o) : b.request i quantity verdict = b := by
  cases verdict <;> simp [request, h]

theorem request_orders_of_ne (h : j ≠ i) :
    (b.request i quantity verdict).orders j = b.orders j := by
  cases ho : b.orders i with
  | some o => rw [request_of_known quantity verdict ho]
  | none => cases verdict <;> simp [request, ho, put, h]

theorem request_inFlight_of_ne (h : j ≠ i) :
    (b.request i quantity verdict).inFlight j = b.inFlight j := by
  cases ho : b.orders i with
  | some o => rw [request_of_known quantity verdict ho]
  | none => cases verdict <;> simp [request, ho, put, h]

theorem exposure_request_of_ne (h : j ≠ i) :
    (b.request i quantity verdict).exposure j = b.exposure j := by
  simp only [exposure, request_orders_of_ne quantity verdict h,
    request_inFlight_of_ne quantity verdict h]

theorem exposure_request_le (b : OrderBook ι) (i : ι) :
    (b.request i quantity verdict).exposure i ≤ max quantity (b.exposure i) := by
  cases ho : b.orders i with
  | some o =>
    rw [request_of_known quantity verdict ho]
    exact le_max_right _ _
  | none =>
    cases verdict with
    | accepted =>
      have h : (b.request i quantity .accepted).exposure i = quantity := by
        simp [request, ho, exposure, VenueOrder.exposure, VenueOrder.opened]
      exact h.le.trans (le_max_left _ _)
    | refused => simp [request, ho]
    | lost => simp [request, ho, exposure]

theorem unasked_request_of_ne (h : b.Unasked j) (hne : j ≠ i) :
    (b.request i quantity verdict).Unasked j :=
  ⟨(request_orders_of_ne quantity verdict hne).trans h.1,
    (request_inFlight_of_ne quantity verdict hne).trans h.2⟩

theorem order_request (h : b.orders j = some o) :
    (b.request i quantity verdict).orders j = some o := by
  by_cases hj : j = i
  · subst hj
    rw [request_of_known quantity verdict h, h]
  · rw [request_orders_of_ne quantity verdict hj, h]

end Request

end OrderBook

end Library
