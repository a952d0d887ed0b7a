import Mathlib.Logic.Function.Basic
import Mathlib.Data.List.Basic

/-! A table that reports its changes. A report names a key, the value that the key now has and, in some
form, the value it had. A log of reports is honest from a state when each of them says what the reports
before it left there, and changes it. -/

namespace Library

/-- What the reports of a table say: the key, the value it has now, and whether a report's account of the
value it replaced is right. -/
structure Reporter (κ ν ρ : Type) where
  key : ρ → κ
  value : ρ → ν
  saw : Option ν → ρ → Prop

namespace Reporter

variable {κ ν ρ α : Type} [DecidableEq κ] {r : Reporter κ ν ρ} {state : κ → Option ν} {log more : List ρ}

variable (r) in
def apply (state : κ → Option ν) (report : ρ) : κ → Option ν :=
  Function.update state (r.key report) (some (r.value report))

variable (r) in
/-- The table that the reports describe. -/
def replay (state : κ → Option ν) (log : List ρ) : κ → Option ν := log.foldl r.apply state

variable (r) in
def Told (state : κ → Option ν) (report : ρ) : Prop :=
  r.saw (state (r.key report)) report ∧ state (r.key report) ≠ some (r.value report)

variable (r) in
def Honest : (κ → Option ν) → List ρ → Prop
  | _, [] => True
  | state, report :: rest => r.Told state report ∧ Honest (r.apply state report) rest

theorem replay_append (state : κ → Option ν) (log more : List ρ) :
    r.replay state (log ++ more) = r.replay (r.replay state log) more :=
  List.foldl_append

theorem honest_append :
    r.Honest state (log ++ more) ↔ r.Honest state log ∧ r.Honest (r.replay state log) more := by
  induction log generalizing state with
  | nil => simp [Honest, replay]
  | cons report rest ih =>
    rw [List.cons_append, Honest, Honest, ih, and_assoc]
    rfl

theorem Honest.told {before after : List ρ} {report : ρ} (h : r.Honest state (before ++ report :: after)) :
    r.Told (r.replay state before) report :=
  (honest_append.mp h).2.1

variable (r) in
/-- What an operation of the table did, by its reports: they are honest, and they say all of it. -/
structure Account (before : κ → Option ν) (log : List ρ) (after : κ → Option ν) : Prop where
  honest : r.Honest before log
  complete : after = r.replay before log

theorem Account.refl (state : κ → Option ν) : r.Account state [] state := ⟨trivial, rfl⟩

theorem Account.single {report : ρ} (h : r.Told state report) :
    r.Account state [report] (r.apply state report) :=
  ⟨⟨h, trivial⟩, rfl⟩

theorem Account.trans {middle after : κ → Option ν} (first : r.Account state log middle)
    (second : r.Account middle more after) : r.Account state (log ++ more) after := by
  obtain ⟨hhonest, rfl⟩ := first
  refine ⟨honest_append.mpr ⟨hhonest, second.honest⟩, ?_⟩
  rw [replay_append]
  exact second.complete

end Reporter

end Library
