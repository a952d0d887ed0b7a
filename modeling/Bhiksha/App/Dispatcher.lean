import Mathlib.Data.List.Basic

/-! Per-symbol execution dispatch: a queue of keyed tasks, each key pending until its task is done. -/

namespace Bhiksha

/-- `entry:{deployment_id}`, or a key of the other actions. -/
inductive TaskKey where
  | entry (deploymentId : String)
  | other (text : String)
deriving DecidableEq, Repr

structure ExecutionTask (R : Type) where
  key : TaskKey
  runner : R
deriving DecidableEq, Repr

/-- The queue and the pending keys of one symbol, and the task that its worker runs. -/
structure SymbolQueue (R : Type) where
  queue : List (ExecutionTask R) := []
  pendingKeys : List TaskKey := []
  running : Option (ExecutionTask R) := none

namespace SymbolQueue

variable {R : Type}

/-- A task whose key is pending is not queued again. -/
def submit (task : ExecutionTask R) (q : SymbolQueue R) : Bool × SymbolQueue R :=
  if task.key ∈ q.pendingKeys then (false, q)
  else (true, { q with queue := q.queue ++ [task], pendingKeys := task.key :: q.pendingKeys })

/-- The worker takes the first task, once it has finished the one before. -/
def start (q : SymbolQueue R) : SymbolQueue R :=
  match q.running, q.queue with
  | none, task :: queue => { q with queue := queue, running := some task }
  | _, _ => q

/-- The runner returned or raised. -/
def finish (q : SymbolQueue R) : SymbolQueue R :=
  match q.running with
  | none => q
  | some task => { q with pendingKeys := q.pendingKeys.erase task.key, running := none }

/-- The tasks that are queued or running. -/
def tasks (q : SymbolQueue R) : List (ExecutionTask R) := q.running.toList ++ q.queue

theorem mem_tasks_submit {task t : ExecutionTask R} {q : SymbolQueue R}
    (h : t ∈ (q.submit task).2.tasks) : t ∈ q.tasks ∨ (q.submit task).1 ∧ t = task := by
  unfold submit at h ⊢
  split at h
  · exact Or.inl h
  · rename_i hfree
    rw [if_neg hfree]
    simp only [tasks, List.mem_append, List.mem_singleton] at h ⊢
    rcases h with hrunning | hqueued | rfl
    · exact Or.inl (Or.inl hrunning)
    · exact Or.inl (Or.inr hqueued)
    · exact Or.inr ⟨trivial, rfl⟩

theorem mem_tasks_start {t : ExecutionTask R} {q : SymbolQueue R} (h : t ∈ q.start.tasks) :
    t ∈ q.tasks := by
  unfold start at h
  split at h
  · rename_i task queue hrunning hqueue
    simp only [tasks, hrunning, hqueue] at h ⊢
    simpa using h
  · exact h

theorem mem_tasks_finish {t : ExecutionTask R} {q : SymbolQueue R} (h : t ∈ q.finish.tasks) :
    t ∈ q.tasks := by
  unfold finish at h
  split at h
  · exact h
  · simp only [tasks, Option.toList_none, List.nil_append] at h
    exact List.mem_append_right _ h

end SymbolQueue

end Bhiksha
