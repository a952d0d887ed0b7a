import Mathlib.Data.Finset.Insert
import Mathlib.Logic.Function.Basic
import Bhiksha.Library.Trace
import Bhiksha.Python

/-! `SymbolExecutionDispatcher`: one queue and one worker a symbol, as steps between awaits. -/

namespace Bhiksha.Dispatch

open Library

structure ExecutionTask (K R : Type) where
  symbol : String
  key : K
  runner : R
deriving DecidableEq, Repr

/-- Where the worker of a symbol stands. -/
inductive Worker (K R : Type) where
  | waiting
  | running (task : ExecutionTask K R)
  /-- It has met the `None` of `stop`. -/
  | exited
deriving DecidableEq, Repr

def Worker.current {K R : Type} : Worker K R → List (ExecutionTask K R)
  | running task => [task]
  | _ => []

/-- What the dispatcher keeps of one symbol. -/
structure Lane (K R : Type) where
  queue : List (Option (ExecutionTask K R)) := []
  pendingKeys : Finset K := ∅
  worker : Worker K R := .waiting

/-- The tasks that are queued or running. -/
def Lane.tasks {K R : Type} (lane : Lane K R) : List (ExecutionTask K R) :=
  lane.worker.current ++ lane.queue.filterMap id

structure SymbolExecutionDispatcher (K R : Type) where
  lanes : String → Option (Lane K R)
  pendingIdentities : String × K → Option String

namespace SymbolExecutionDispatcher

variable {K R : Type} [DecidableEq K]

def new : SymbolExecutionDispatcher K R where
  lanes := fun _ => none
  pendingIdentities := fun _ => none

def setLane (symbol : String) (lane : Lane K R) (d : SymbolExecutionDispatcher K R) :
    SymbolExecutionDispatcher K R :=
  { d with lanes := Function.update d.lanes symbol (some lane) }

/-- A symbol that has a worker is skipped. -/
def startSymbol (d : SymbolExecutionDispatcher K R) (symbol : String) :
    SymbolExecutionDispatcher K R :=
  match d.lanes symbol with
  | some _ => d
  | none => d.setLane symbol {}

def start (symbols : List String) (d : SymbolExecutionDispatcher K R) :
    SymbolExecutionDispatcher K R :=
  symbols.foldl startSymbol d

/-- The part of `stop` before it awaits the workers; no queue has a bound, so no `put` waits. -/
def stop (d : SymbolExecutionDispatcher K R) : SymbolExecutionDispatcher K R :=
  { d with lanes := fun symbol => (d.lanes symbol).map fun lane =>
      { lane with queue := lane.queue ++ [none] } }

def submit (symbol : String) (key : K) (runner : R) (identity : Option String)
    (d : SymbolExecutionDispatcher K R) :
    Except PyException Bool × SymbolExecutionDispatcher K R :=
  match d.lanes symbol with
  | none => (.error (.keyError symbol), d)
  | some lane =>
    if key ∈ lane.pendingKeys then (.ok false, d)
    else
      let identified := match identity with
        | some i => Function.update d.pendingIdentities (symbol, key) (some i)
        | none => d.pendingIdentities
      let task : ExecutionTask K R := ⟨symbol, key, runner⟩
      (.ok true,
        { d with pendingIdentities := identified }.setLane symbol
          { lane with
            queue := lane.queue ++ [some task]
            pendingKeys := insert key lane.pendingKeys })

def pendingIdentity (symbol : String) (key : K) (d : SymbolExecutionDispatcher K R) :
    Option String :=
  d.pendingIdentities (symbol, key)

/-- What a turn of a worker comes to. -/
inductive Turn (K R : Type) where
  | runs (task : ExecutionTask K R)
  | finished (task : ExecutionTask K R)
  | exits
  | blocked
deriving DecidableEq, Repr

/-- `queue.get` returns to a worker that awaits it. -/
def get (symbol : String) (d : SymbolExecutionDispatcher K R) :
    Turn K R × SymbolExecutionDispatcher K R :=
  match d.lanes symbol with
  | none => (.blocked, d)
  | some lane =>
    match lane.worker, lane.queue with
    | .waiting, some task :: queue =>
      (.runs task, d.setLane symbol { lane with queue := queue, worker := .running task })
    | .waiting, none :: queue =>
      (.exits, d.setLane symbol { lane with queue := queue, worker := .exited })
    | _, _ => (.blocked, d)

/-- The runner returned or raised an `Exception`: the `finally` clause runs either way. -/
def settle (symbol : String) (_outcome : Except PyException Unit)
    (d : SymbolExecutionDispatcher K R) : Turn K R × SymbolExecutionDispatcher K R :=
  match d.lanes symbol with
  | none => (.blocked, d)
  | some lane =>
    match lane.worker with
    | .running task =>
      (.finished task,
        { d with pendingIdentities := Function.update d.pendingIdentities (symbol, task.key) none
          }.setLane symbol
          { lane with pendingKeys := lane.pendingKeys.erase task.key, worker := .waiting })
    | _ => (.blocked, d)

end SymbolExecutionDispatcher

/-- A step of the event loop that the dispatcher takes part in. Those of `submit` and
`pendingIdentity` are made by producers, or by a runner while its worker is running it. -/
inductive DispatchCall (K R : Type) where
  | start (symbols : List String)
  | stop
  | submit (symbol : String) (key : K) (runner : R) (identity : Option String)
  | pendingIdentity (symbol : String) (key : K)
  | get (symbol : String)
  | settle (symbol : String) (outcome : Except PyException Unit)

inductive DispatchReply (K R : Type) where
  | done
  | submitted (answer : Except PyException Bool)
  | identity (answer : Option String)
  | turn (turn : SymbolExecutionDispatcher.Turn K R)

section Runs

variable {K R : Type} [DecidableEq K]

def dispatchStep (call : DispatchCall K R) (d : SymbolExecutionDispatcher K R) :
    DispatchReply K R × SymbolExecutionDispatcher K R :=
  match call with
  | .start symbols => (.done, d.start symbols)
  | .stop => (.done, d.stop)
  | .submit symbol key runner identity =>
    let answer := d.submit symbol key runner identity
    (.submitted answer.1, answer.2)
  | .pendingIdentity symbol key => (.identity (d.pendingIdentity symbol key), d)
  | .get symbol =>
    let answer := d.get symbol
    (.turn answer.1, answer.2)
  | .settle symbol outcome =>
    let answer := d.settle symbol outcome
    (.turn answer.1, answer.2)

abbrev DispatchEvent (K R : Type) :=
  Event (SymbolExecutionDispatcher K R) (DispatchCall K R) (DispatchReply K R)

/-- A run of a new dispatcher: any calls, of any symbols, in any order. -/
def dispatchRun (calls : List (DispatchCall K R)) : List (DispatchEvent K R) :=
  trace dispatchStep SymbolExecutionDispatcher.new calls

def dispatchAfter (calls : List (DispatchCall K R)) : SymbolExecutionDispatcher K R :=
  finish dispatchStep SymbolExecutionDispatcher.new calls

end Runs

/-- A task for which `submit` returned `True`, with the identity it was given. -/
structure Accepted (K R : Type) where
  task : ExecutionTask K R
  identity : Option String

/-- What has been seen of one symbol. -/
structure DispatchLog (K R : Type) where
  /-- Accepted before the symbol was stopped. -/
  accepted : List (Accepted K R) := []
  /-- Accepted after that. -/
  late : List (Accepted K R) := []
  started : List (ExecutionTask K R) := []
  finished : List (ExecutionTask K R) := []
  stopped : Bool := false

namespace DispatchLog

variable {K R : Type}

def accept (p : Accepted K R) (log : DispatchLog K R) : DispatchLog K R :=
  if log.stopped then { log with late := log.late ++ [p] }
  else { log with accepted := log.accepted ++ [p] }

def record (symbol : String) (log : DispatchLog K R) (e : DispatchEvent K R) : DispatchLog K R :=
  match e.call, e.result with
  | .stop, _ => { log with stopped := log.stopped || (e.before.lanes symbol).isSome }
  | .submit other key runner identity, .submitted (.ok true) =>
    if other = symbol then log.accept ⟨⟨symbol, key, runner⟩, identity⟩ else log
  | .get other, .turn (.runs task) =>
    if other = symbol then { log with started := log.started ++ [task] } else log
  | .settle other _, .turn (.finished task) =>
    if other = symbol then { log with finished := log.finished ++ [task] } else log
  | _, _ => log

/-- The log of one symbol along a run. -/
def of (symbol : String) (run : List (DispatchEvent K R)) : DispatchLog K R :=
  run.foldl (record symbol) {}

/-- The accepted tasks that have not finished, in the order in which they were accepted. -/
def pending (log : DispatchLog K R) : List (Accepted K R) :=
  (log.accepted ++ log.late).drop log.finished.length

end DispatchLog

end Bhiksha.Dispatch
