import Mathlib.Data.List.Nodup
import Bhiksha.Library.Mailbox
import Bhiksha.App.Dispatcher
import Bhiksha.App.SymbolDispatch

/-! Dispatch is serial and in order for each symbol and loses nothing, whatever the interleaving. -/

namespace Bhiksha.Dispatch

open Library

variable {K R : Type}

/-- The keys and identities that are kept are those of the tasks that are pending. -/
structure PendingTracks (pending : List (Accepted K R)) (keys : Finset K)
    (identity : K → Option String) : Prop where
  keys : ∀ key, key ∈ keys ↔ ∃ p ∈ pending, p.task.key = key
  nodup : (pending.map fun p => p.task.key).Nodup
  identity : ∀ key i, identity key = some i ↔
    ∃ p ∈ pending, p.task.key = key ∧ p.identity = some i

namespace PendingTracks

variable [DecidableEq K] {pending : List (Accepted K R)} {keys : Finset K}
  {identity : K → Option String}

omit [DecidableEq K] in
theorem nil : PendingTracks ([] : List (Accepted K R)) ∅ fun _ => none where
  keys := by simp
  nodup := List.nodup_nil
  identity := by simp

/-- A task with a fresh key joins. -/
theorem add (h : PendingTracks pending keys identity) (p : Accepted K R)
    (hfresh : p.task.key ∉ keys) :
    PendingTracks (pending ++ [p]) (insert p.task.key keys)
      (match p.identity with
        | some i => Function.update identity p.task.key (some i)
        | none => identity) where
  keys key := by
    simp only [Finset.mem_insert, h.keys, List.mem_append, List.mem_singleton, or_and_right,
      exists_or, exists_eq_left]
    rw [or_comm, eq_comm]
  nodup := by
    rw [List.map_append, List.map_singleton]
    refine h.nodup.append (List.nodup_singleton _) ?_
    rw [List.disjoint_singleton]
    intro hmem
    obtain ⟨q, hq, hkey⟩ := List.mem_map.mp hmem
    exact hfresh ((h.keys _).mpr ⟨q, hq, hkey⟩)
  identity key i := by
    simp only [List.mem_append, List.mem_singleton, or_and_right, exists_or, exists_eq_left]
    -- no pending task answers for the fresh key
    have hnone : ¬∃ q ∈ pending, q.task.key = p.task.key ∧ q.identity = some i := by
      rintro ⟨q, hq, hkey, -⟩
      exact hfresh ((h.keys _).mpr ⟨q, hq, hkey⟩)
    by_cases hkey : key = p.task.key
    · subst hkey
      cases hp : p.identity with
      | some j => simp [hnone]
      | none =>
        rw [h.identity]
        simp [hnone]
    · have hother : p.task.key ≠ key := Ne.symm hkey
      cases hp : p.identity with
      | some j =>
        simp only
        rw [Function.update_of_ne hkey, h.identity]
        simp [hother]
      | none =>
        simp only
        rw [h.identity]
        simp [hother]

/-- The first of the pending tasks finishes. -/
theorem drop_head {p : Accepted K R} (h : PendingTracks (p :: pending) keys identity) :
    PendingTracks pending (keys.erase p.task.key)
      (Function.update identity p.task.key none) := by
  have hnodup := List.nodup_cons.mp (List.map_cons ▸ h.nodup)
  -- its key is nobody else's
  have hother {q : Accepted K R} (hq : q ∈ pending) : q.task.key ≠ p.task.key :=
    fun hkey => hnodup.1 (List.mem_map.mpr ⟨q, hq, hkey⟩)
  refine ⟨fun key => ?_, hnodup.2, fun key i => ?_⟩
  · rw [Finset.mem_erase, h.keys, List.exists_mem_cons_iff]
    constructor
    · rintro ⟨hne, heq | hmem⟩
      · exact absurd heq.symm hne
      · exact hmem
    · rintro ⟨q, hq, rfl⟩
      exact ⟨hother hq, Or.inr ⟨q, hq, rfl⟩⟩
  · by_cases hkey : key = p.task.key
    · subst hkey
      rw [Function.update_self]
      constructor
      · intro hnone
        cases hnone
      · rintro ⟨q, hq, heq, -⟩
        exact absurd heq (hother hq)
    · rw [Function.update_of_ne hkey, h.identity, List.exists_mem_cons_iff]
      constructor
      · rintro (⟨heq, -⟩ | hmem)
        · exact absurd heq.symm hkey
        · exact hmem
      · exact Or.inr

end PendingTracks

def Worker.phase (worker : Worker K R) (stopped : Bool) : MailboxPhase :=
  match worker with
  | .exited => .drained
  | _ => if stopped then .closing else .opened

/-- What a lane has left to do is what its log has not seen done. -/
structure LaneTracks (lane : Lane K R) (log : DispatchLog K R) (identity : K → Option String) :
    Prop where
  waiting : ∃ waiting, log.accepted.map Accepted.task = log.started ++ waiting ∧
    Mailbox waiting (log.late.map Accepted.task) (lane.worker.phase log.stopped) lane.queue
  stopped : lane.worker = .exited → log.stopped
  started : log.started = log.finished ++ lane.worker.current
  pending : PendingTracks log.pending lane.pendingKeys identity

namespace LaneTracks

variable {lane : Lane K R} {log : DispatchLog K R} {identity : K → Option String}

/-- The pending tasks of the log are those that the lane has queued or running. -/
theorem pending_tasks (h : LaneTracks lane log identity) :
    log.pending.map Accepted.task = lane.tasks := by
  obtain ⟨waiting, haccepted, hmail⟩ := h.waiting
  have hall : (log.accepted ++ log.late).map Accepted.task =
      log.finished ++ (lane.worker.current ++ (waiting ++ log.late.map Accepted.task)) := by
    rw [List.map_append, haccepted, h.started]
    simp only [List.append_assoc]
  rw [DispatchLog.pending, List.map_drop, hall, List.drop_left, Lane.tasks, hmail.filterMap_eq]

theorem finished_length_le (h : LaneTracks lane log identity) :
    log.finished.length ≤ log.accepted.length := by
  obtain ⟨waiting, haccepted, -⟩ := h.waiting
  have hlength := congrArg List.length haccepted
  rw [h.started, List.length_map, List.length_append, List.length_append] at hlength
  omega

theorem fresh : LaneTracks ({} : Lane K R) {} fun _ => none where
  waiting := ⟨[], rfl, .opened []⟩
  stopped := fun h => nomatch h
  started := rfl
  pending := PendingTracks.nil

/-- `submit` puts a task with a fresh key at the end of the queue. -/
theorem submit [DecidableEq K] (h : LaneTracks lane log identity) (p : Accepted K R)
    (hfresh : p.task.key ∉ lane.pendingKeys) :
    LaneTracks
      { lane with
        queue := lane.queue ++ [some p.task]
        pendingKeys := insert p.task.key lane.pendingKeys }
      (log.accept p)
      (match p.identity with
        | some i => Function.update identity p.task.key (some i)
        | none => identity) := by
  obtain ⟨waiting, haccepted, hmail⟩ := h.waiting
  have hle := h.finished_length_le
  have hpending := h.pending.add p hfresh
  by_cases hstopped : log.stopped = true
  · have hlog : log.accept p = { log with late := log.late ++ [p] } := if_pos hstopped
    have hphase : lane.worker.phase log.stopped ≠ .opened := by
      unfold Worker.phase
      rw [if_pos hstopped]
      split
      · exact fun h => nomatch h
      · exact fun h => nomatch h
    have hdrop : (log.accept p).pending = log.pending ++ [p] := by
      rw [hlog]
      unfold DispatchLog.pending
      rw [← List.append_assoc, List.drop_append_of_le_length]
      show log.finished.length ≤ (log.accepted ++ log.late).length
      rw [List.length_append]
      omega
    refine ⟨⟨waiting, ?_, ?_⟩, fun _ => ?_, ?_, hdrop.symm ▸ hpending⟩
    · rw [hlog]
      exact haccepted
    · rw [hlog, List.map_append, List.map_singleton]
      exact hmail.put_late hphase p.task
    · rw [hlog]
      exact hstopped
    · rw [hlog]
      exact h.started
  · have hlog : log.accept p = { log with accepted := log.accepted ++ [p] } := if_neg hstopped
    have hphase : lane.worker.phase log.stopped = .opened := by
      unfold Worker.phase
      rw [if_neg hstopped]
      split
      · next hexited => exact absurd (h.stopped hexited) hstopped
      · rfl
    rw [hphase] at hmail
    have hlate : log.late = [] := List.map_eq_nil_iff.mp hmail.late_eq_nil
    have hdrop : (log.accept p).pending = log.pending ++ [p] := by
      rw [hlog]
      unfold DispatchLog.pending
      rw [hlate, List.append_nil, List.append_nil, List.drop_append_of_le_length hle]
    refine ⟨⟨waiting ++ [p.task], ?_, ?_⟩, fun hexited => absurd (h.stopped hexited) hstopped, ?_,
      hdrop.symm ▸ hpending⟩
    · rw [hlog, List.map_append, List.map_singleton, haccepted, List.append_assoc]
    · rw [hlog]
      show Mailbox _ _ (lane.worker.phase log.stopped) _
      rw [hphase]
      exact hmail.put p.task
    · rw [hlog]
      exact h.started

theorem stop (h : LaneTracks lane log identity) :
    LaneTracks { lane with queue := lane.queue ++ [none] } { log with stopped := true } identity := by
  obtain ⟨waiting, haccepted, hmail⟩ := h.waiting
  refine ⟨⟨waiting, haccepted, ?_⟩, fun _ => rfl, h.started, h.pending⟩
  have hphase : lane.worker.phase true = (lane.worker.phase log.stopped).close := by
    unfold Worker.phase
    cases lane.worker <;> cases log.stopped <;> rfl
  show Mailbox _ _ (lane.worker.phase true) _
  rw [hphase]
  exact hmail.mark

theorem waiting_phase (hworker : lane.worker = .waiting) :
    lane.worker.phase log.stopped ≠ .drained := by
  rw [hworker]
  cases log.stopped
  · exact fun h => nomatch h
  · exact fun h => nomatch h

/-- The worker takes the first of the tasks that wait. -/
theorem runs (h : LaneTracks lane log identity) {task : ExecutionTask K R}
    {queue : List (Option (ExecutionTask K R))} (hworker : lane.worker = .waiting)
    (hqueue : lane.queue = some task :: queue) :
    LaneTracks { lane with queue := queue, worker := .running task }
      { log with started := log.started ++ [task] } identity := by
  obtain ⟨waiting, haccepted, hmail⟩ := h.waiting
  rw [hqueue] at hmail
  obtain ⟨rest, rfl, hrest⟩ := hmail.take (waiting_phase hworker)
  have hphase : (Worker.running task).phase log.stopped = lane.worker.phase log.stopped := by
    rw [hworker]
    rfl
  refine ⟨⟨rest, ?_, ?_⟩, (fun hexited => nomatch hexited), ?_, h.pending⟩
  · rw [haccepted, List.append_assoc, List.singleton_append]
  · show Mailbox _ _ ((Worker.running task).phase log.stopped) _
    rw [hphase]
    exact hrest
  · show log.started ++ [task] = log.finished ++ [task]
    rw [h.started, hworker]
    simp [Worker.current]

/-- The worker leaves with nothing accepted before the stop left to run. -/
theorem exits (h : LaneTracks lane log identity) {queue : List (Option (ExecutionTask K R))}
    (hworker : lane.worker = .waiting) (hqueue : lane.queue = none :: queue) :
    LaneTracks { lane with queue := queue, worker := .exited } log identity := by
  obtain ⟨waiting, haccepted, hmail⟩ := h.waiting
  rw [hqueue] at hmail
  obtain ⟨rfl, hphase, hrest⟩ := hmail.leave (waiting_phase hworker)
  have hstopped : log.stopped = true := by
    rw [hworker] at hphase
    unfold Worker.phase at hphase
    by_contra hopen
    simp only [if_neg hopen] at hphase
    cases hphase
  refine ⟨⟨[], haccepted, hrest⟩, fun _ => hstopped, ?_, h.pending⟩
  rw [h.started, hworker]
  rfl

/-- The runner of the first pending task returned or raised. -/
theorem settle [DecidableEq K] (h : LaneTracks lane log identity) {task : ExecutionTask K R}
    (hworker : lane.worker = .running task) :
    LaneTracks { lane with pendingKeys := lane.pendingKeys.erase task.key, worker := .waiting }
      { log with finished := log.finished ++ [task] } (Function.update identity task.key none) := by
  have htasks := h.pending_tasks
  obtain ⟨waiting, haccepted, hmail⟩ := h.waiting
  have hphase : (Worker.waiting : Worker K R).phase log.stopped = lane.worker.phase log.stopped := by
    rw [hworker]
    rfl
  refine ⟨⟨waiting, haccepted, ?_⟩, (fun hexited => nomatch hexited), ?_, ?_⟩
  · show Mailbox _ _ ((Worker.waiting : Worker K R).phase log.stopped) _
    rw [hphase]
    exact hmail
  · rw [h.started, hworker]
    simp [Worker.current]
  · -- the running task is the first pending one
    rw [Lane.tasks, hworker] at htasks
    cases hpending : log.pending with
    | nil =>
      rw [hpending] at htasks
      cases htasks
    | cons p rest =>
      rw [hpending] at htasks
      obtain ⟨rfl, -⟩ := List.cons.inj htasks
      have hdrop : ({ log with finished := log.finished ++ [p.task] } : DispatchLog K R).pending =
          rest := by
        have hsucc : log.pending.drop 1 = rest := by rw [hpending]; rfl
        rw [← hsucc]
        unfold DispatchLog.pending
        rw [List.drop_drop, List.length_append, List.length_singleton]
      rw [hdrop]
      have hhead := h.pending
      rw [hpending] at hhead
      exact hhead.drop_head

end LaneTracks

/-- A dispatcher is, for one symbol, where the log of the symbol says it is. -/
inductive Tracks (symbol : String) (d : SymbolExecutionDispatcher K R) (log : DispatchLog K R) :
    Prop where
  | absent (lane : d.lanes symbol = none) (log_eq : log = {})
    (identity : ∀ key, d.pendingIdentities (symbol, key) = none) : Tracks symbol d log
  | present (lane : Lane K R) (found : d.lanes symbol = some lane)
    (tracks : LaneTracks lane log fun key => d.pendingIdentities (symbol, key)) :
    Tracks symbol d log

section Steps

variable {symbol : String} {d : SymbolExecutionDispatcher K R} {log : DispatchLog K R}

/-- What a step does to the other symbols does not matter. -/
theorem Tracks.congr {d' : SymbolExecutionDispatcher K R} (h : Tracks symbol d log)
    (hlane : d'.lanes symbol = d.lanes symbol)
    (hidentity : ∀ key, d'.pendingIdentities (symbol, key) = d.pendingIdentities (symbol, key)) :
    Tracks symbol d' log := by
  cases h with
  | absent lane log_eq identity =>
    exact .absent (hlane.trans lane) log_eq fun key => (hidentity key).trans (identity key)
  | present lane found tracks =>
    refine .present lane (hlane.trans found) ?_
    simp only [hidentity]
    exact tracks

theorem Tracks.startSymbol (h : Tracks symbol d log) (other : String) :
    Tracks symbol (d.startSymbol other) log := by
  unfold SymbolExecutionDispatcher.startSymbol
  split
  · exact h
  next hnone =>
  by_cases hsymbol : symbol = other
  · subst hsymbol
    cases h with
    | absent lane log_eq identity =>
      refine .present {} (Function.update_self ..) ?_
      rw [log_eq]
      have hfresh : LaneTracks ({} : Lane K R) {} fun _ => none := .fresh
      have hidentity : (fun key => (d.setLane symbol {}).pendingIdentities (symbol, key)) =
          fun _ => none := funext identity
      rw [hidentity]
      exact hfresh
    | present lane found tracks => exact nomatch hnone.symm.trans found
  · exact h.congr (Function.update_of_ne hsymbol ..) fun _ => rfl

theorem Tracks.start (h : Tracks symbol d log) (symbols : List String) :
    Tracks symbol (d.start symbols) log := by
  unfold SymbolExecutionDispatcher.start
  induction symbols generalizing d with
  | nil => exact h
  | cons other symbols ih => exact ih (h.startSymbol other)

theorem Tracks.stop (h : Tracks symbol d log) :
    Tracks symbol d.stop { log with stopped := log.stopped || (d.lanes symbol).isSome } := by
  cases h with
  | absent lane log_eq identity =>
    subst log_eq
    rw [lane]
    refine .absent ?_ rfl identity
    show (d.lanes symbol).map _ = none
    rw [lane]
    rfl
  | present lane found tracks =>
    rw [found, Option.isSome_some, Bool.or_true]
    refine .present { lane with queue := lane.queue ++ [none] } ?_ tracks.stop
    show (d.lanes symbol).map _ = _
    rw [found]
    rfl

variable [DecidableEq K]

theorem update_pair (f : String × K → Option String) (symbol : String) (key : K)
    (v : Option String) :
    (fun k => Function.update f (symbol, key) v (symbol, k)) =
      Function.update (fun k => f (symbol, k)) key v := by
  funext k
  by_cases hk : k = key
  · rw [hk, Function.update_self, Function.update_self]
  · rw [Function.update_of_ne hk, Function.update_of_ne]
    exact fun h => hk (Prod.mk.inj h).2

theorem update_pair_of_ne (f : String × K → Option String) {symbol other : String}
    (hsymbol : symbol ≠ other) (key : K) (v : Option String) (k : K) :
    Function.update f (other, key) v (symbol, k) = f (symbol, k) := by
  rw [Function.update_of_ne]
  exact fun h => hsymbol (Prod.mk.inj h).1

theorem Tracks.submit (h : Tracks symbol d log) (other : String) (key : K) (runner : R)
    (identity : Option String) :
    Tracks symbol (d.submit other key runner identity).2
      (log.record symbol
        (event dispatchStep (.submit other key runner identity) d)) := by
  unfold DispatchLog.record event dispatchStep SymbolExecutionDispatcher.submit
  dsimp only
  cases hlane : d.lanes other with
  | none => exact h
  | some lane =>
    dsimp only
    by_cases hfresh : key ∈ lane.pendingKeys
    · rw [if_pos hfresh]
      exact h
    rw [if_neg hfresh]
    dsimp only
    by_cases hsymbol : other = symbol
    · subst hsymbol
      rw [if_pos rfl]
      cases h with
      | absent absent => exact nomatch absent.symm.trans hlane
      | present lane' found tracks =>
        obtain rfl := Option.some.inj (hlane.symm.trans found)
        have hsubmit := tracks.submit ⟨⟨other, key, runner⟩, identity⟩ hfresh
        refine .present _ (Function.update_self ..) ?_
        cases identity with
        | none => exact hsubmit
        | some i =>
          have hpair := update_pair d.pendingIdentities other key (some i)
          dsimp only at hsubmit
          rw [← hpair] at hsubmit
          exact hsubmit
    · rw [if_neg hsymbol]
      have hne : symbol ≠ other := Ne.symm hsymbol
      refine h.congr (Function.update_of_ne hne ..) fun k => ?_
      cases identity with
      | none => rfl
      | some i => exact update_pair_of_ne d.pendingIdentities hne key (some i) k

theorem Tracks.get (h : Tracks symbol d log) (other : String) :
    Tracks symbol (d.get other).2 (log.record symbol (event dispatchStep (.get other) d)) := by
  unfold DispatchLog.record event dispatchStep SymbolExecutionDispatcher.get
  dsimp only
  cases hlane : d.lanes other with
  | none => exact h
  | some lane =>
    dsimp only
    by_cases hsymbol : other = symbol
    · subst hsymbol
      cases h with
      | absent absent => exact nomatch absent.symm.trans hlane
      | present lane' found tracks =>
        obtain rfl := Option.some.inj (hlane.symm.trans found)
        split
        · next hworker hqueue =>
          dsimp only
          rw [if_pos rfl]
          exact .present _ (Function.update_self ..) (tracks.runs hworker hqueue)
        · next hworker hqueue =>
          exact .present _ (Function.update_self ..) (tracks.exits hworker hqueue)
        · exact .present lane found tracks
    · have hne : symbol ≠ other := Ne.symm hsymbol
      split
      · dsimp only
        rw [if_neg hsymbol]
        exact h.congr (Function.update_of_ne hne ..) fun _ => rfl
      · exact h.congr (Function.update_of_ne hne ..) fun _ => rfl
      · exact h

theorem Tracks.settle (h : Tracks symbol d log) (other : String)
    (outcome : Except PyException Unit) :
    Tracks symbol (d.settle other outcome).2
      (log.record symbol (event dispatchStep (.settle other outcome) d)) := by
  unfold DispatchLog.record event dispatchStep SymbolExecutionDispatcher.settle
  dsimp only
  cases hlane : d.lanes other with
  | none => exact h
  | some lane =>
    dsimp only
    by_cases hsymbol : other = symbol
    · subst hsymbol
      cases h with
      | absent absent => exact nomatch absent.symm.trans hlane
      | present lane' found tracks =>
        obtain rfl := Option.some.inj (hlane.symm.trans found)
        split
        · next task hworker =>
          dsimp only
          rw [if_pos rfl]
          have hsettle := tracks.settle hworker
          rw [← update_pair d.pendingIdentities other task.key none] at hsettle
          exact .present _ (Function.update_self ..) hsettle
        · exact .present lane found tracks
    · have hne : symbol ≠ other := Ne.symm hsymbol
      split
      · next task hworker =>
        dsimp only
        rw [if_neg hsymbol]
        refine h.congr (Function.update_of_ne hne ..) fun k => ?_
        exact update_pair_of_ne d.pendingIdentities hne task.key none k
      · exact h

/-- Every step of the event loop keeps every symbol on its log. -/
theorem Tracks.step (h : Tracks symbol d log) (call : DispatchCall K R) :
    Tracks symbol (dispatchStep call d).2 (log.record symbol (event dispatchStep call d)) := by
  cases call with
  | start symbols => exact h.start symbols
  | stop => exact h.stop
  | submit other key runner identity => exact h.submit other key runner identity
  | pendingIdentity other key => exact h
  | get other => exact h.get other
  | settle other outcome => exact h.settle other outcome

end Steps

namespace SymbolExecutionDispatcher

/-- The tasks of a symbol that are queued or running. -/
def tasks (symbol : String) (d : SymbolExecutionDispatcher K R) : List (ExecutionTask K R) :=
  ((d.lanes symbol).map Lane.tasks).getD []

/-- The task, if there is one, that the worker of a symbol runs. -/
def running (symbol : String) (d : SymbolExecutionDispatcher K R) : List (ExecutionTask K R) :=
  ((d.lanes symbol).map fun lane => lane.worker.current).getD []

/-- The worker of a symbol has left. -/
def Exited (symbol : String) (d : SymbolExecutionDispatcher K R) : Prop :=
  ∃ lane, d.lanes symbol = some lane ∧ lane.worker = .exited

/-- The worker of a symbol can take its next turn, once its runner is done if it runs one. -/
def HasTurn [DecidableEq K] (symbol : String) (d : SymbolExecutionDispatcher K R) : Prop :=
  (∃ task, (d.get symbol).1 = .runs task) ∨
    ∀ outcome, ∃ task, (d.settle symbol outcome).1 = .finished task

end SymbolExecutionDispatcher

/-- A turn of the worker of a symbol: it starts a task, or is done with one. -/
def takesTurn (symbol : String) (e : DispatchEvent K R) : Bool :=
  match e.call, e.result with
  | .get other, .turn (.runs _) => other = symbol
  | .settle other _, .turn (.finished _) => other = symbol
  | _, _ => false

/-- The symbol is served in the order of acceptance, one task after the other, and each once. -/
structure Serves [DecidableEq K] (symbol : String) (d : SymbolExecutionDispatcher K R)
    (log : DispatchLog K R) : Prop where
  in_order : log.started <+: log.accepted.map Accepted.task
  one_at_a_time : log.started = log.finished ++ d.running symbol
  drained : d.Exited symbol → log.finished = log.accepted.map Accepted.task
  has_turn : log.finished ≠ log.accepted.map Accepted.task → d.HasTurn symbol
  queued_or_running : log.pending.map Accepted.task = d.tasks symbol
  identity : ∀ key i, d.pendingIdentity symbol key = some i ↔
    ∃ p ∈ log.pending, p.task.key = key ∧ p.identity = some i

section Laws

variable {symbol : String} {d : SymbolExecutionDispatcher K R} {log : DispatchLog K R}

/-- A worker that waits for its next task has one unless all that was accepted has been started. -/
theorem LaneTracks.idle {lane : Lane K R} {identity : K → Option String}
    (h : LaneTracks lane log identity) (hworker : lane.worker = .waiting)
    (hleft : log.started ≠ log.accepted.map Accepted.task) :
    ∃ task queue, lane.queue = some task :: queue := by
  obtain ⟨waiting, haccepted, hmail⟩ := h.waiting
  have hphase : lane.worker.phase log.stopped ≠ .drained := LaneTracks.waiting_phase hworker
  cases waiting with
  | nil =>
    rw [List.append_nil] at haccepted
    exact absurd haccepted.symm hleft
  | cons task rest =>
    cases hqueue : lane.queue with
    | nil =>
      have hall := hmail.filterMap_eq
      rw [hqueue] at hall
      cases hall
    | cons head queue =>
      rw [hqueue] at hmail
      cases head with
      | some first => exact ⟨first, queue, rfl⟩
      | none => exact nomatch (hmail.leave hphase).1

/-- A worker that has left had nothing left to wait for. -/
theorem LaneTracks.all_done {lane : Lane K R} {identity : K → Option String}
    (h : LaneTracks lane log identity) (hexited : lane.worker = .exited) :
    log.finished = log.accepted.map Accepted.task := by
  obtain ⟨waiting, haccepted, hmail⟩ := h.waiting
  have hstarted := h.started
  rw [hexited] at hmail hstarted
  have hwaiting : waiting = [] := hmail.waiting_eq_nil
  calc log.finished = log.started := (hstarted.trans (List.append_nil _)).symm
    _ = log.started ++ waiting := by rw [hwaiting, List.append_nil]
    _ = log.accepted.map Accepted.task := haccepted.symm

theorem tracks_new (symbol : String) :
    Tracks symbol (SymbolExecutionDispatcher.new : SymbolExecutionDispatcher K R) {} :=
  .absent rfl rfl fun _ => rfl

variable [DecidableEq K]

theorem Tracks.serves (h : Tracks symbol d log) : Serves symbol d log := by
  cases h with
  | absent lane log_eq identity =>
    subst log_eq
    refine ⟨List.prefix_refl _, ?_, fun _ => rfl, fun hleft => absurd rfl hleft, ?_, fun key i => ?_⟩
    · unfold SymbolExecutionDispatcher.running
      rw [lane]
      rfl
    · unfold SymbolExecutionDispatcher.tasks
      rw [lane]
      rfl
    · unfold SymbolExecutionDispatcher.pendingIdentity
      rw [identity]
      simp [DispatchLog.pending]
  | present lane found tracks =>
    have hrunning : d.running symbol = lane.worker.current := by
      unfold SymbolExecutionDispatcher.running
      rw [found]
      rfl
    obtain ⟨waiting, haccepted, hmail⟩ := tracks.waiting
    refine ⟨⟨waiting, haccepted.symm⟩, hrunning.symm ▸ tracks.started, ?_, ?_, ?_,
      tracks.pending.identity⟩
    · rintro ⟨lane', found', hexited⟩
      obtain rfl := Option.some.inj (found.symm.trans found')
      exact tracks.all_done hexited
    · intro hleft
      unfold SymbolExecutionDispatcher.HasTurn SymbolExecutionDispatcher.get
        SymbolExecutionDispatcher.settle
      rw [found]
      dsimp only
      cases hworker : lane.worker with
      | waiting =>
        have hstarted : log.started = log.finished := by
          rw [tracks.started, hworker]
          exact List.append_nil _
        obtain ⟨task, queue, hqueue⟩ := tracks.idle hworker (hstarted ▸ hleft)
        rw [hqueue]
        exact Or.inl ⟨task, rfl⟩
      | running task => exact Or.inr fun _ => ⟨task, rfl⟩
      | exited => exact absurd (tracks.all_done hworker) hleft
    · unfold SymbolExecutionDispatcher.tasks
      rw [found]
      exact tracks.pending_tasks

/-- `submit` turns a task away exactly when one with its key is queued or running. -/
theorem Tracks.submit_false_iff (h : Tracks symbol d log) (key : K) (runner : R)
    (identity : Option String) :
    (d.submit symbol key runner identity).1 = .ok false ↔
      ∃ task ∈ d.tasks symbol, task.key = key := by
  unfold SymbolExecutionDispatcher.submit
  cases h with
  | absent lane =>
    unfold SymbolExecutionDispatcher.tasks
    rw [lane]
    simp
  | present lane found tracks =>
    have htasks : d.tasks symbol = log.pending.map Accepted.task := by
      unfold SymbolExecutionDispatcher.tasks
      rw [found, tracks.pending_tasks]
      rfl
    rw [found, htasks]
    simp only [List.mem_map, exists_exists_and_eq_and]
    rw [← tracks.pending.keys]
    split
    · next hpending => exact iff_of_true rfl hpending
    · next hfresh => exact iff_of_false (fun h => nomatch h) hfresh

theorem tracks_of_run (symbol : String) (calls : List (DispatchCall K R)) :
    Tracks symbol (dispatchAfter calls) (DispatchLog.of symbol (dispatchRun calls)) :=
  recorded_trace (fun call _ _ h => h.step call) (tracks_new symbol) calls

omit [DecidableEq K] in
theorem accept_started (log : DispatchLog K R) (p : Accepted K R) :
    (log.accept p).started = log.started := by
  unfold DispatchLog.accept
  split <;> rfl

omit [DecidableEq K] in
theorem accept_finished (log : DispatchLog K R) (p : Accepted K R) :
    (log.accept p).finished = log.finished := by
  unfold DispatchLog.accept
  split <;> rfl

omit [DecidableEq K] in
theorem record_turn (symbol : String) (log : DispatchLog K R) (e : DispatchEvent K R) :
    (log.record symbol e).started.length + (log.record symbol e).finished.length =
      log.started.length + log.finished.length + if takesTurn symbol e then 1 else 0 := by
  obtain ⟨before, call, result, after⟩ := e
  cases call with
  | start symbols => rfl
  | stop => rfl
  | pendingIdentity other key => rfl
  | submit other key runner identity =>
    unfold DispatchLog.record takesTurn
    cases result with
    | done => rfl
    | identity answer => rfl
    | turn turn => rfl
    | submitted answer =>
      obtain error | (_ | _) := answer
      · rfl
      · rfl
      · dsimp only
        split
        · rw [accept_started, accept_finished]
          rfl
        · rfl
  | get other =>
    unfold DispatchLog.record takesTurn
    cases result with
    | done => rfl
    | submitted answer => rfl
    | identity answer => rfl
    | turn turn =>
      cases turn with
      | finished task => rfl
      | exits => rfl
      | blocked => rfl
      | runs task =>
        by_cases hsymbol : other = symbol
        · simp only [hsymbol, decide_true, if_true, List.length_append, List.length_singleton]
          omega
        · simp [hsymbol]
  | settle other outcome =>
    unfold DispatchLog.record takesTurn
    cases result with
    | done => rfl
    | submitted answer => rfl
    | identity answer => rfl
    | turn turn =>
      cases turn with
      | runs task => rfl
      | exits => rfl
      | blocked => rfl
      | finished task =>
        by_cases hsymbol : other = symbol
        · simp only [hsymbol, decide_true, if_true, List.length_append, List.length_singleton]
          omega
        · simp [hsymbol]

omit [DecidableEq K] in
/-- Every turn of the worker starts a task or finishes one. -/
theorem turns_eq (symbol : String) (run : List (DispatchEvent K R)) :
    (run.filter (takesTurn symbol)).length =
      (DispatchLog.of symbol run).started.length + (DispatchLog.of symbol run).finished.length := by
  have hfrom (log : DispatchLog K R) :
      (run.foldl (DispatchLog.record symbol) log).started.length +
          (run.foldl (DispatchLog.record symbol) log).finished.length =
        log.started.length + log.finished.length + (run.filter (takesTurn symbol)).length := by
    induction run generalizing log with
    | nil => rfl
    | cons e run ih =>
      rw [List.foldl_cons, ih, record_turn, List.filter_cons]
      split
      · rw [List.length_cons]
        omega
      · omega
  have hstart := hfrom {}
  have hzero : ({} : DispatchLog K R).started.length + ({} : DispatchLog K R).finished.length = 0 := rfl
  rw [hzero, Nat.zero_add] at hstart
  exact hstart.symm

/-- A task is done by the time the worker has taken two turns for it and for each one before it. -/
theorem Serves.prompt {turns n : ℕ} {p : Accepted K R} (h : Serves symbol d log)
    (hturns : turns = log.started.length + log.finished.length) (hp : log.accepted[n]? = some p)
    (hn : 2 * (n + 1) ≤ turns) : log.finished[n]? = some p.task := by
  have hrunning : (d.running symbol).length ≤ 1 := by
    unfold SymbolExecutionDispatcher.running
    cases d.lanes symbol with
    | none => exact Nat.zero_le 1
    | some lane =>
      show lane.worker.current.length ≤ 1
      cases lane.worker <;> simp [Worker.current]
  have hstarted := congrArg List.length h.one_at_a_time
  rw [List.length_append] at hstarted
  have hlength : n < log.finished.length := by omega
  obtain ⟨waiting, haccepted⟩ := h.in_order
  have htask : (log.accepted.map Accepted.task)[n]? = some p.task := by
    rw [List.getElem?_map, hp]
    rfl
  rw [← haccepted, h.one_at_a_time, List.append_assoc, List.getElem?_append_left hlength] at htask
  exact htask

/-- In every interleaving and for every symbol: `submit` turns away exactly the keys that are queued or
running, what it accepts before the stop runs once, in order and one at a time, within two turns of the
worker for each task, and the identities are those of the tasks that are queued or running. -/
theorem dispatch_serial_in_order_lossless (calls : List (DispatchCall K R)) :
    (∀ e ∈ dispatchRun calls, ∀ symbol key runner identity,
      e.call = .submit symbol key runner identity →
        (e.result = .submitted (.ok false) ↔ ∃ task ∈ e.before.tasks symbol, task.key = key)) ∧
    ∀ symbol, Serves symbol (dispatchAfter calls) (DispatchLog.of symbol (dispatchRun calls)) ∧
      ∀ n p, (DispatchLog.of symbol (dispatchRun calls)).accepted[n]? = some p →
        2 * (n + 1) ≤ ((dispatchRun calls).filter (takesTurn symbol)).length →
          (DispatchLog.of symbol (dispatchRun calls)).finished[n]? = some p.task := by
  constructor
  · intro e he symbol key runner identity hcall
    have hbefore := eq_event_of_mem_trace (I := fun d => ∃ log, Tracks symbol d log)
      (fun call d ⟨log, h⟩ => ⟨_, h.step call⟩) ⟨{}, tracks_new symbol⟩ he
    obtain ⟨⟨log, htracks⟩, hevent⟩ := hbefore
    have hresult : e.result = .submitted (e.before.submit symbol key runner identity).1 := by
      rw [hevent, hcall]
      rfl
    rw [hresult, DispatchReply.submitted.injEq]
    exact htracks.submit_false_iff key runner identity
  · intro symbol
    have hserves := (tracks_of_run symbol calls).serves
    exact ⟨hserves, fun n p hp hn => hserves.prompt (turns_eq symbol _) hp hn⟩

end Laws

/-- The queue of the entry runtime is a lane that has not been stopped. -/
structure Refines (symbol : String) (lane : Lane TaskKey R) (q : SymbolQueue R) : Prop where
  queue : lane.queue = q.queue.map fun t => some ⟨symbol, t.key, t.runner⟩
  pendingKeys : ∀ key, key ∈ lane.pendingKeys ↔ key ∈ q.pendingKeys
  nodup : q.pendingKeys.Nodup
  worker : lane.worker = q.running.elim .waiting fun t => .running ⟨symbol, t.key, t.runner⟩

namespace Refines

variable {symbol : String} {lane : Lane TaskKey R} {q : SymbolQueue R}
  {d : SymbolExecutionDispatcher TaskKey R}

theorem submit (h : Refines symbol lane q) (hlane : d.lanes symbol = some lane) (key : TaskKey)
    (runner : R) (identity : Option String) :
    (d.submit symbol key runner identity).1 = .ok (q.submit ⟨key, runner⟩).1 ∧
      ∃ lane', (d.submit symbol key runner identity).2.lanes symbol = some lane' ∧
        Refines symbol lane' (q.submit ⟨key, runner⟩).2 := by
  unfold SymbolExecutionDispatcher.submit SymbolQueue.submit
  rw [hlane]
  dsimp only
  by_cases hpending : key ∈ lane.pendingKeys
  · rw [if_pos hpending, if_pos ((h.pendingKeys key).mp hpending)]
    exact ⟨rfl, lane, hlane, h⟩
  · have hfresh : key ∉ q.pendingKeys := fun hmem => hpending ((h.pendingKeys key).mpr hmem)
    rw [if_neg hpending, if_neg hfresh]
    refine ⟨rfl, _, Function.update_self .., ?_, fun other => ?_, ?_, h.worker⟩
    · rw [h.queue, List.map_append, List.map_singleton]
    · simp only [Finset.mem_insert, List.mem_cons, h.pendingKeys]
    · exact List.nodup_cons.mpr ⟨hfresh, h.nodup⟩

theorem get (h : Refines symbol lane q) (hlane : d.lanes symbol = some lane) :
    ∃ lane', (d.get symbol).2.lanes symbol = some lane' ∧ Refines symbol lane' q.start := by
  have hworker := h.worker
  have hqueue := h.queue
  unfold SymbolExecutionDispatcher.get SymbolQueue.start
  rw [hlane]
  dsimp only
  cases hrunning : q.running with
  | some task =>
    rw [hrunning] at hworker
    rw [hworker]
    exact ⟨lane, hlane, h⟩
  | none =>
    rw [hrunning] at hworker
    rw [hworker]
    cases hq : q.queue with
    | nil =>
      rw [hq] at hqueue
      rw [hqueue]
      exact ⟨lane, hlane, h⟩
    | cons task queue =>
      rw [hq] at hqueue
      rw [hqueue]
      exact ⟨_, Function.update_self .., rfl, h.pendingKeys, h.nodup, rfl⟩

theorem settle (h : Refines symbol lane q) (hlane : d.lanes symbol = some lane)
    (outcome : Except PyException Unit) :
    ∃ lane', (d.settle symbol outcome).2.lanes symbol = some lane' ∧
      Refines symbol lane' q.finish := by
  have hworker := h.worker
  unfold SymbolExecutionDispatcher.settle SymbolQueue.finish
  rw [hlane]
  dsimp only
  cases hrunning : q.running with
  | none =>
    rw [hrunning] at hworker
    rw [hworker]
    exact ⟨lane, hlane, h⟩
  | some task =>
    rw [hrunning] at hworker
    rw [hworker]
    refine ⟨_, Function.update_self .., h.queue, fun key => ?_, h.nodup.erase _, rfl⟩
    rw [Finset.mem_erase, h.nodup.mem_erase_iff, h.pendingKeys]

end Refines

end Bhiksha.Dispatch
