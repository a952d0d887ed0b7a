import Mathlib.Logic.Function.Basic
import Bhiksha.App.Dispatcher
import Bhiksha.Library.Trace
import Bhiksha.Risk.RiskManager

/-! The producers of entry tasks, the emergency flags and the workers, as steps between awaits. -/

namespace Bhiksha

open Library

/-- Why a live entry is blocked. -/
inductive EntryBlock where
  | reconciliation (reason : String)
  | risk (reason : RiskReason)
deriving DecidableEq, Repr

/-- What an entry runner closes over. -/
structure EntryRunner where
  deploymentId : String
  shadowOnly : Bool
  liveEntryBlockReason : Option EntryBlock
deriving DecidableEq, Repr

/-- The runner of a task; only those of entries are looked into. -/
inductive Runner where
  | entry (runner : EntryRunner)
  | other
deriving DecidableEq, Repr

/-- What the evaluation of one deployment comes to, on a bar or on an intrabar price. -/
structure EntryEvaluation where
  deploymentId : String
  shadowOnly : Bool
  manualRetry : Bool
  canSubmitDeploymentEntry : Bool
  lifecycleCanSubmit : Bool
  exitedOnBar : Bool
  enriched : Bool
  signal : Bool
deriving DecidableEq, Repr

/-- The bar loop reaches `submit`. -/
def EntryEvaluation.onBar (evaluation : EntryEvaluation) : Bool :=
  !evaluation.manualRetry && evaluation.canSubmitDeploymentEntry && !evaluation.exitedOnBar &&
    evaluation.signal

/-- The intrabar loop reaches `submit`. -/
def EntryEvaluation.onIntrabarPrice (evaluation : EntryEvaluation) : Bool :=
  evaluation.canSubmitDeploymentEntry && evaluation.lifecycleCanSubmit && evaluation.enriched &&
    evaluation.signal

def EntryEvaluation.task (evaluation : EntryEvaluation) (block : Option EntryBlock) :
    ExecutionTask Runner where
  key := .entry evaluation.deploymentId
  runner := .entry
    { deploymentId := evaluation.deploymentId
      shadowOnly := evaluation.shadowOnly
      liveEntryBlockReason := block }

/-- Where the bar handler of a symbol stands. -/
inductive BarStage where
  | idle
  | accepted
  | reloaded
  /-- The check found the halt. -/
  | flattening
  /-- The check found no halt. -/
  | evaluating
deriving DecidableEq, Repr

/-- The arguments with which an entry runner calls `handle_signal`. -/
structure HandleSignal where
  deploymentId : String
  dryRun : Bool
  simulateOnly : Bool
  liveEntryBlockReason : Option EntryBlock
deriving DecidableEq, Repr

/-- What a step does that the halt is about. -/
inductive EntryAction where
  | enqueued (deploymentId : String)
  | handled (call : HandleSignal)
deriving DecidableEq, Repr

structure EntryRuntime where
  haltAndFlatten : Bool
  riskManagerFlatten : Bool
  bars : String → BarStage
  dispatcher : String → SymbolQueue Runner

/-- `halt_and_flatten or risk_manager_flatten`. -/
def EntryRuntime.halted (runtime : EntryRuntime) : Bool :=
  runtime.haltAndFlatten || runtime.riskManagerFlatten

/-- A session at its start, with the flag that the bias file held. -/
def EntryRuntime.boot (haltAndFlatten : Bool) : EntryRuntime where
  haltAndFlatten := haltAndFlatten
  riskManagerFlatten := false
  bars := fun _ => .idle
  dispatcher := fun _ => {}

/-- One step between awaits of a bar handler, of the intrabar loop or of a worker. -/
inductive RuntimeCall where
  | acceptBar (symbol : String)
  /-- The bias file, if there is one that loads. -/
  | reloadBias (symbol : String) (haltAndFlatten : Option Bool)
  /-- What `book_actions` says, if it is consulted. -/
  | bookActions (symbol : String) (shouldFlatten : Option Bool)
  | emergencyFlat (symbol : String)
  | barEntry (symbol : String) (evaluation : EntryEvaluation) (block : Option EntryBlock)
  | leaveBar (symbol : String)
  | intrabarEntry (symbol : String) (evaluation : EntryEvaluation) (block : Option EntryBlock)
  | submitOther (symbol : String) (text : String)
  | startTask (symbol : String)
  /-- The runner's consults: the risk manager's decision, and whether Rail B recovery grants a probe. -/
  | runEntry (symbol : String) (decision : EntryDecision) (recovered : Bool)
  | finishTask (symbol : String)

section Step

variable (live hasRiskManager : Bool)

/-- The call that an entry runner makes, once its consults have answered. -/
def EntryRunner.handleSignal (runner : EntryRunner) (decision : EntryDecision) (recovered : Bool) :
    HandleSignal :=
  let consults : Bool :=
    runner.liveEntryBlockReason = none ∧ hasRiskManager ∧ live ∧ !runner.shadowOnly
  let vetoed := consults && !decision.allowed
  let diverted : Bool := vetoed ∧ decision.reason = .railBSessionBlock
  let block :=
    if vetoed ∧ !diverted then some (.risk decision.reason) else runner.liveEntryBlockReason
  let probe : Bool := diverted ∧ block = none ∧ recovered
  let simulateOnly := (runner.shadowOnly || diverted) && !probe
  { deploymentId := runner.deploymentId
    dryRun := !live || simulateOnly
    simulateOnly := simulateOnly
    liveEntryBlockReason := block }

def EntryRuntime.setBar (runtime : EntryRuntime) (symbol : String) (stage : BarStage) :
    EntryRuntime :=
  { runtime with bars := Function.update runtime.bars symbol stage }

def EntryRuntime.setQueue (runtime : EntryRuntime) (symbol : String) (q : SymbolQueue Runner) :
    EntryRuntime :=
  { runtime with dispatcher := Function.update runtime.dispatcher symbol q }

/-- `submit` of an entry task, with the action when it was enqueued. -/
def EntryRuntime.submitEntry (runtime : EntryRuntime) (symbol : String)
    (evaluation : EntryEvaluation) (block : Option EntryBlock) : Option EntryAction × EntryRuntime :=
  let (enqueued, q) := (runtime.dispatcher symbol).submit (evaluation.task block)
  (if enqueued then some (.enqueued evaluation.deploymentId) else none, runtime.setQueue symbol q)

def runtimeStep : RuntimeCall → EntryRuntime → Option EntryAction × EntryRuntime
  | .acceptBar symbol, runtime =>
    if runtime.bars symbol = .idle then (none, runtime.setBar symbol .accepted) else (none, runtime)
  | .reloadBias symbol haltAndFlatten, runtime =>
    if runtime.bars symbol = .accepted then
      (none,
        { runtime.setBar symbol .reloaded with
          haltAndFlatten := haltAndFlatten.getD runtime.haltAndFlatten })
    else (none, runtime)
  | .bookActions symbol shouldFlatten, runtime =>
    if runtime.bars symbol = .reloaded then
      let flatten := runtime.riskManagerFlatten || shouldFlatten.getD false
      -- The check follows the latch with no await between them.
      let stage := if runtime.haltAndFlatten || flatten then .flattening else .evaluating
      (none, { runtime.setBar symbol stage with riskManagerFlatten := flatten })
    else (none, runtime)
  | .emergencyFlat symbol, runtime =>
    if runtime.bars symbol = .flattening then
      let task : ExecutionTask Runner := ⟨.other ("emergency_flat:" ++ symbol), .other⟩
      let q := ((runtime.dispatcher symbol).submit task).2
      (none, (runtime.setQueue symbol q).setBar symbol .idle)
    else (none, runtime)
  | .barEntry symbol evaluation block, runtime =>
    if runtime.bars symbol = .evaluating ∧ evaluation.onBar then
      runtime.submitEntry symbol evaluation block
    else (none, runtime)
  -- The handler returns from its evaluations, or raises anywhere.
  | .leaveBar symbol, runtime => (none, runtime.setBar symbol .idle)
  | .intrabarEntry symbol evaluation block, runtime =>
    if evaluation.onIntrabarPrice then runtime.submitEntry symbol evaluation block
    else (none, runtime)
  | .submitOther symbol text, runtime =>
    let q := ((runtime.dispatcher symbol).submit ⟨.other text, .other⟩).2
    (none, runtime.setQueue symbol q)
  | .startTask symbol, runtime =>
    (none, runtime.setQueue symbol (runtime.dispatcher symbol).start)
  | .runEntry symbol decision recovered, runtime =>
    let q := runtime.dispatcher symbol
    match q.running with
    | some ⟨key, .entry runner⟩ =>
      -- It calls `handle_signal` once; what it does with the plan is not looked into.
      (some (.handled (runner.handleSignal live hasRiskManager decision recovered)),
        runtime.setQueue symbol { q with running := some ⟨key, .other⟩ })
    | _ => (none, runtime)
  | .finishTask symbol, runtime =>
    (none, runtime.setQueue symbol (runtime.dispatcher symbol).finish)

abbrev RuntimeEvent := Event EntryRuntime RuntimeCall (Option EntryAction)

def runtimeTrace (haltAndFlatten : Bool) (calls : List RuntimeCall) : List RuntimeEvent :=
  trace (runtimeStep live hasRiskManager) (EntryRuntime.boot haltAndFlatten) calls

end Step

end Bhiksha
