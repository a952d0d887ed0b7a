import Mathlib.Data.List.Basic

/-! A queue with one reader that a marker closes: the reader takes what was put before the marker, in
order, and leaves at the marker; what is put behind it is never taken. -/

namespace Library

variable {α : Type}

inductive MailboxPhase where
  | opened
  /-- The marker is in the queue. -/
  | closing
  /-- The reader has met the marker. -/
  | drained
deriving DecidableEq, Repr

namespace MailboxPhase

def close : MailboxPhase → MailboxPhase
  | opened => closing
  | closing => closing
  | drained => drained

end MailboxPhase

/-- The queue holds `waiting` for its reader, and `late` behind the marker. -/
inductive Mailbox : List α → List α → MailboxPhase → List (Option α) → Prop where
  | opened (waiting : List α) : Mailbox waiting [] .opened (waiting.map some)
  | closing (waiting : List α) (rest : List (Option α)) :
    Mailbox waiting (rest.filterMap id) .closing (waiting.map some ++ none :: rest)
  | drained (rest : List (Option α)) : Mailbox [] (rest.filterMap id) .drained rest

namespace Mailbox

variable {waiting late : List α} {phase : MailboxPhase} {queue : List (Option α)}

theorem filterMap_eq (h : Mailbox waiting late phase queue) :
    queue.filterMap id = waiting ++ late := by
  have hsome (xs : List α) : (xs.map some).filterMap id = xs := by
    rw [List.filterMap_map]
    exact List.filterMap_some
  cases h with
  | opened => rw [hsome, List.append_nil]
  | closing _ rest => rw [List.filterMap_append, hsome, List.filterMap_cons_none rfl]
  | drained rest => exact (List.nil_append _).symm

theorem late_eq_nil (h : Mailbox waiting late .opened queue) : late = [] := by
  cases h
  rfl

theorem waiting_eq_nil (h : Mailbox waiting late .drained queue) : waiting = [] := by
  generalize hlate : late = l at h
  cases h
  rfl

/-- Before the marker a put is for the reader. -/
theorem put (h : Mailbox waiting late .opened queue) (a : α) :
    Mailbox (waiting ++ [a]) late .opened (queue ++ [some a]) := by
  cases h
  have hqueue : waiting.map some ++ [some a] = (waiting ++ [a]).map some := by
    rw [List.map_append, List.map_singleton]
  rw [hqueue]
  exact .opened _

/-- Behind the marker it is late. -/
theorem put_late (h : Mailbox waiting late phase queue) (hphase : phase ≠ .opened) (a : α) :
    Mailbox waiting (late ++ [a]) phase (queue ++ [some a]) := by
  have hrest (rest : List (Option α)) :
      rest.filterMap id ++ [a] = (rest ++ [some a]).filterMap id := by
    rw [List.filterMap_append]
    rfl
  cases h with
  | opened => exact absurd rfl hphase
  | closing _ rest =>
    rw [hrest, List.append_assoc, List.cons_append]
    exact .closing _ _
  | drained rest =>
    rw [hrest]
    exact .drained _

theorem mark (h : Mailbox waiting late phase queue) :
    Mailbox waiting late phase.close (queue ++ [none]) := by
  have hrest (rest : List (Option α)) :
      rest.filterMap id = (rest ++ [none]).filterMap id := by
    rw [List.filterMap_append]
    exact (List.append_nil _).symm
  cases h with
  | opened => exact .closing waiting []
  | closing _ rest =>
    rw [hrest, List.append_assoc, List.cons_append]
    exact .closing _ _
  | drained rest =>
    rw [hrest]
    exact .drained _

/-- The reader takes the first of those that wait. -/
theorem take {a : α} (h : Mailbox waiting late phase (some a :: queue)) (hphase : phase ≠ .drained) :
    ∃ rest, waiting = a :: rest ∧ Mailbox rest late phase queue := by
  generalize hq : some a :: queue = q at h
  cases h with
  | opened =>
    cases waiting with
    | nil => cases hq
    | cons b rest =>
      obtain ⟨ha, rfl⟩ := List.cons.inj hq
      obtain rfl := Option.some.inj ha
      exact ⟨rest, rfl, .opened rest⟩
  | closing _ behind =>
    cases waiting with
    | nil => cases hq
    | cons b rest =>
      obtain ⟨ha, rfl⟩ := List.cons.inj hq
      obtain rfl := Option.some.inj ha
      exact ⟨rest, rfl, .closing rest behind⟩
  | drained => exact absurd rfl hphase

/-- The reader meets the marker with nothing left to take. -/
theorem leave (h : Mailbox waiting late phase (none :: queue)) (hphase : phase ≠ .drained) :
    waiting = [] ∧ phase = .closing ∧ Mailbox [] late .drained queue := by
  generalize hq : none :: queue = q at h
  cases h with
  | opened => cases waiting <;> cases hq
  | closing _ behind =>
    cases waiting with
    | nil =>
      obtain ⟨-, rfl⟩ := List.cons.inj hq
      exact ⟨rfl, rfl, .drained queue⟩
    | cons b rest => cases hq
  | drained => exact absurd rfl hphase

end Mailbox

end Library
