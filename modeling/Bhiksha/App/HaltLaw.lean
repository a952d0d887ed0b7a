import Bhiksha.App.EntryRuntime

/-! What the emergency halt stops, over every order of bars, prices, reloads, consults and tasks. -/

namespace Bhiksha

open Library

variable {live hasRiskManager : Bool}

/-- The task may reach `handle_signal` as a live entry. -/
def liveEntry (live : Bool) (task : ExecutionTask Runner) : Bool :=
  match task.runner with
  | .entry runner => live && !runner.shadowOnly
  | .other => false

/-- No bar handler is past its check, and no live entry is queued or running. -/
def Quiet (live : Bool) (runtime : EntryRuntime) : Prop :=
  ∀ symbol, runtime.bars symbol ≠ .evaluating ∧
    ∀ task ∈ (runtime.dispatcher symbol).tasks, liveEntry live task = false

/-- The halt begins in a quiet runtime, and while it lasts no intrabar price gives an entry whose key
is free. -/
structure ClearOfEntries (live : Bool) (e : RuntimeEvent) : Prop where
  begins : e.before.halted = false → e.after.halted = true → Quiet live e.before
  prices : e.before.halted = true → ∀ symbol evaluation block,
    e.call = .intrabarEntry symbol evaluation block → evaluation.onIntrabarPrice →
      TaskKey.entry evaluation.deploymentId ∈ (e.before.dispatcher symbol).pendingKeys

/-- What the halt stops at one step, and the latch that no step undoes. -/
structure HaltHolds (e : RuntimeEvent) : Prop where
  noneEnqueued : e.before.halted = true → ∀ deploymentId, e.result ≠ some (.enqueued deploymentId)
  noneLive : e.before.halted = true → ∀ call, e.result = some (.handled call) → call.dryRun = true
  latched : e.before.riskManagerFlatten = true → e.after.riskManagerFlatten = true

section Step

variable {runtime : EntryRuntime}

theorem Quiet.setBar (h : Quiet live runtime) (symbol : String) {stage : BarStage}
    (hstage : stage ≠ .evaluating) : Quiet live (runtime.setBar symbol stage) := by
  intro other
  refine ⟨?_, (h other).2⟩
  by_cases hsame : other = symbol
  · subst hsame
    simpa [EntryRuntime.setBar] using hstage
  · simpa [EntryRuntime.setBar, hsame] using (h other).1

theorem Quiet.setQueue (h : Quiet live runtime) (symbol : String) {q : SymbolQueue Runner}
    (hq : ∀ task ∈ q.tasks, liveEntry live task = false) :
    Quiet live (runtime.setQueue symbol q) := by
  intro other
  refine ⟨(h other).1, ?_⟩
  by_cases hsame : other = symbol
  · subst hsame
    simpa [EntryRuntime.setQueue] using hq
  · simpa [EntryRuntime.setQueue, hsame] using (h other).2

/-- An action that is no entry joins a quiet queue. -/
theorem Quiet.submitOther (h : Quiet live runtime) (symbol text : String) :
    Quiet live (runtime.setQueue symbol
      ((runtime.dispatcher symbol).submit ⟨.other text, .other⟩).2) := by
  apply h.setQueue
  intro task htask
  rcases SymbolQueue.mem_tasks_submit htask with hold | ⟨_, rfl⟩
  · exact (h symbol).2 task hold
  · rfl

/-- A submission whose key is pending changes nothing. -/
theorem submitEntry_of_pending {symbol : String} {evaluation : EntryEvaluation}
    {block : Option EntryBlock}
    (hpending : TaskKey.entry evaluation.deploymentId ∈ (runtime.dispatcher symbol).pendingKeys) :
    runtime.submitEntry symbol evaluation block = (none, runtime) := by
  have hrefused : (runtime.dispatcher symbol).submit (evaluation.task block) =
      (false, runtime.dispatcher symbol) := if_pos hpending
  have hsame : runtime.setQueue symbol (runtime.dispatcher symbol) = runtime := by
    simp [EntryRuntime.setQueue]
  simp only [EntryRuntime.submitEntry, hrefused, hsame]
  rfl

/-- A quiet runtime stays quiet under the halt. -/
theorem quiet_runtimeStep {call : RuntimeCall} (h : Quiet live runtime)
    (hprices : ∀ symbol evaluation block, call = .intrabarEntry symbol evaluation block →
      evaluation.onIntrabarPrice →
        TaskKey.entry evaluation.deploymentId ∈ (runtime.dispatcher symbol).pendingKeys)
    (hhalted : (runtimeStep live hasRiskManager call runtime).2.halted = true) :
    Quiet live (runtimeStep live hasRiskManager call runtime).2 := by
  cases call with
  | acceptBar symbol =>
    simp only [runtimeStep]
    split
    · exact h.setBar symbol (by decide)
    · exact h
  | reloadBias symbol haltAndFlatten =>
    simp only [runtimeStep]
    split
    · exact h.setBar symbol (by decide)
    · exact h
  | bookActions symbol shouldFlatten =>
    simp only [runtimeStep] at hhalted ⊢
    split at hhalted
    · rename_i hstage
      rw [if_pos hstage]
      have hflag : (runtime.haltAndFlatten ||
          (runtime.riskManagerFlatten || shouldFlatten.getD false)) = true := hhalted
      rw [if_pos hflag]
      exact h.setBar symbol (by decide)
    · rename_i hstage
      rw [if_neg hstage]
      exact h
  | emergencyFlat symbol =>
    simp only [runtimeStep]
    split
    · exact (h.submitOther symbol _).setBar symbol (by decide)
    · exact h
  | barEntry symbol evaluation block =>
    simp only [runtimeStep]
    rw [if_neg fun hentry => (h symbol).1 hentry.1]
    exact h
  | leaveBar symbol => exact h.setBar symbol (by decide)
  | intrabarEntry symbol evaluation block =>
    simp only [runtimeStep]
    split
    · rename_i hentry
      rw [submitEntry_of_pending (hprices symbol evaluation block rfl hentry)]
      exact h
    · exact h
  | submitOther symbol text => exact h.submitOther symbol text
  | startTask symbol =>
    apply h.setQueue
    intro task htask
    exact (h symbol).2 task (SymbolQueue.mem_tasks_start htask)
  | runEntry symbol decision recovered =>
    simp only [runtimeStep]
    split
    · rename_i key runner hrunning
      apply h.setQueue
      intro task htask
      simp only [SymbolQueue.tasks, Option.toList_some, List.singleton_append,
        List.mem_cons] at htask
      rcases htask with rfl | hqueued
      · rfl
      · exact (h symbol).2 task (List.mem_append_right _ hqueued)
    · exact h
  | finishTask symbol =>
    apply h.setQueue
    intro task htask
    exact (h symbol).2 task (SymbolQueue.mem_tasks_finish htask)

/-- Only a reload or a consult of the book begins a halt. -/
theorem halted_intrabarEntry (symbol : String) (evaluation : EntryEvaluation)
    (block : Option EntryBlock) :
    (runtimeStep live hasRiskManager (.intrabarEntry symbol evaluation block) runtime).2.halted =
      runtime.halted := by
  simp only [runtimeStep]
  split <;> rfl

/-- The invariant of a run: a halted runtime is quiet. -/
def QuietWhenHalted (live : Bool) (runtime : EntryRuntime) : Prop :=
  runtime.halted = true → Quiet live runtime

theorem runtimeStep_quietWhenHalted (call : RuntimeCall) (runtime : EntryRuntime)
    (hclear : ClearOfEntries live (event (runtimeStep live hasRiskManager) call runtime))
    (h : QuietWhenHalted live runtime) :
    QuietWhenHalted live (runtimeStep live hasRiskManager call runtime).2 := by
  intro hafter
  cases hbefore : runtime.halted with
  | true =>
    apply quiet_runtimeStep (h hbefore) _ hafter
    intro symbol evaluation block hcall
    exact hclear.prices hbefore symbol evaluation block hcall
  | false =>
    apply quiet_runtimeStep (hclear.begins hbefore hafter) _ hafter
    intro symbol evaluation block hcall
    -- An intrabar price leaves the flags alone, so it begins no halt.
    rw [hcall, halted_intrabarEntry, hbefore] at hafter
    cases hafter

/-- A runner that closes over no live entry passes `dry_run`. -/
theorem dryRun_handleSignal {runner : EntryRunner} {decision : EntryDecision} {recovered : Bool}
    (h : (live && !runner.shadowOnly) = false) :
    (runner.handleSignal live hasRiskManager decision recovered).dryRun = true := by
  cases hlive : live with
  | false => rfl
  | true =>
    rw [hlive, Bool.true_and, Bool.not_eq_false'] at h
    simp [EntryRunner.handleSignal, h]

theorem haltHolds_of_quiet (call : RuntimeCall) (runtime : EntryRuntime)
    (hclear : ClearOfEntries live (event (runtimeStep live hasRiskManager) call runtime))
    (h : QuietWhenHalted live runtime) :
    HaltHolds (event (runtimeStep live hasRiskManager) call runtime) where
  noneEnqueued := by
    intro hhalted deploymentId
    have hquiet := h hhalted
    change (runtimeStep live hasRiskManager call runtime).1 ≠ _
    cases call with
    | barEntry symbol evaluation block =>
      simp only [runtimeStep]
      rw [if_neg fun hentry => (hquiet symbol).1 hentry.1]
      exact fun hresult => by cases hresult
    | intrabarEntry symbol evaluation block =>
      simp only [runtimeStep]
      split
      · rename_i hentry
        have hpending : TaskKey.entry evaluation.deploymentId ∈
            (runtime.dispatcher symbol).pendingKeys :=
          hclear.prices hhalted symbol evaluation block rfl hentry
        rw [submitEntry_of_pending hpending]
        exact fun hresult => by cases hresult
      · exact fun hresult => by cases hresult
    | _ =>
      simp only [runtimeStep]
      (try split) <;> exact fun hresult => by cases hresult
  noneLive := by
    intro hhalted handled hresult
    have hquiet := h hhalted
    change (runtimeStep live hasRiskManager call runtime).1 = _ at hresult
    cases call with
    | runEntry symbol decision recovered =>
      simp only [runtimeStep] at hresult
      split at hresult
      · rename_i key runner hrunning
        have hmem : ⟨key, .entry runner⟩ ∈ (runtime.dispatcher symbol).tasks := by
          simp [SymbolQueue.tasks, hrunning]
        have hcall := EntryAction.handled.inj (Option.some.inj hresult)
        rw [← hcall]
        exact dryRun_handleSignal ((hquiet symbol).2 _ hmem)
      · cases hresult
    | barEntry symbol evaluation block =>
      simp only [runtimeStep] at hresult
      rw [if_neg fun hentry => (hquiet symbol).1 hentry.1] at hresult
      cases hresult
    | intrabarEntry symbol evaluation block =>
      simp only [runtimeStep] at hresult
      split at hresult
      · rename_i hentry
        have hpending : TaskKey.entry evaluation.deploymentId ∈
            (runtime.dispatcher symbol).pendingKeys :=
          hclear.prices hhalted symbol evaluation block rfl hentry
        rw [submitEntry_of_pending hpending] at hresult
        cases hresult
      · cases hresult
    | _ =>
      simp only [runtimeStep] at hresult
      (try split at hresult) <;> cases hresult
  latched := by
    intro hflatten
    change (runtimeStep live hasRiskManager call runtime).2.riskManagerFlatten = true
    change runtime.riskManagerFlatten = true at hflatten
    cases call with
    | bookActions symbol shouldFlatten =>
      simp only [runtimeStep]
      split
      · simp [hflatten]
      · exact hflatten
    | _ =>
      simp only [runtimeStep]
      (try split) <;> exact hflatten

end Step

/-- Over a run in which every halt begins quietly and no intrabar price gives an entry during it, the
halt stops every entry path; the risk manager's flag stays up. -/
theorem emergency_halt_stops_entries (live hasRiskManager haltAndFlatten : Bool)
    (calls : List RuntimeCall)
    (hclear : ∀ e ∈ runtimeTrace live hasRiskManager haltAndFlatten calls, ClearOfEntries live e) :
    ∀ e ∈ runtimeTrace live hasRiskManager haltAndFlatten calls, HaltHolds e := by
  intro e he
  have hboot : QuietWhenHalted live (EntryRuntime.boot haltAndFlatten) := by
    intro _ symbol
    constructor
    · exact fun hstage => by cases hstage
    · exact fun task htask => by cases htask
  have hrun := invariant_of_events runtimeStep_quietWhenHalted hboot hclear he
  have hevent := hclear e he
  rw [hrun.2] at hevent ⊢
  exact haltHolds_of_quiet e.call e.before hevent hrun.1

namespace OperatorHalt

/-- A live deployment whose trigger fires. -/
def fires (deploymentId : String) : EntryEvaluation where
  deploymentId := deploymentId
  shadowOnly := false
  manualRetry := false
  canSubmitDeploymentEntry := true
  lifecycleCanSubmit := true
  exitedOnBar := false
  enriched := true
  signal := true

def allowed : EntryDecision := ⟨true, .approved, none⟩

/-- The operator sets `halt_and_flatten`, and the next bar observes it. -/
def halt : List RuntimeCall :=
  [.acceptBar "SPY", .reloadBias "SPY" (some true), .bookActions "SPY" (some false)]

/-- An entry is queued when the halt comes. -/
def queued : List RuntimeCall := .intrabarEntry "SPY" (fires "A") none :: halt

/-- Another price fires during the halt. -/
def secondPrice : RuntimeCall := .intrabarEntry "SPY" (fires "B") none

/-- The worker takes up the queued entry during the halt. -/
def runQueued : RuntimeCall := .runEntry "SPY" allowed false

def calls : List RuntimeCall := queued ++ [secondPrice, .startTask "SPY", runQueued]

end OperatorHalt

open OperatorHalt in
/-- The bar that observed the halt hands over its emergency flat. -/
theorem emergency_halt_stops_entries_on_bar :
    HaltHolds (event (runtimeStep true true) (.emergencyFlat "SPY")
      (finish (runtimeStep true true) (EntryRuntime.boot false) halt)) := by
  apply emergency_halt_stops_entries true true false (halt ++ [.emergencyFlat "SPY"])
  · intro e he
    -- The halt begins at the reload, before anything is queued.
    have hquiet : ∀ stage : BarStage, stage ≠ .evaluating →
        Quiet true ((EntryRuntime.boot false).setBar "SPY" stage) := by
      intro stage hstage
      apply Quiet.setBar _ "SPY" hstage
      intro symbol
      constructor
      · exact fun hevaluating => by cases hevaluating
      · exact fun task htask => by cases htask
    simp only [runtimeTrace, halt, trace, List.cons_append, List.nil_append, List.mem_cons,
      List.not_mem_nil, or_false] at he
    rcases he with rfl | rfl | rfl | rfl
    · exact ⟨(fun _ h => by cases h), fun _ _ _ _ h => by cases h⟩
    · exact ⟨(fun _ _ => hquiet .accepted (by decide)), fun _ _ _ _ h => by cases h⟩
    · exact ⟨(fun h _ => by cases h), fun _ _ _ _ h => by cases h⟩
    · exact ⟨(fun h _ => by cases h), fun _ _ _ _ h => by cases h⟩
  · rw [runtimeTrace, trace_append]
    exact List.mem_append_right _ List.mem_cons_self

open OperatorHalt in
/-- During the halt an intrabar price enqueues an entry, and a queued entry goes live. -/
theorem operator_halt_lets_entries_through :
    (∃ e ∈ runtimeTrace true true false calls, e.call = secondPrice ∧ ¬HaltHolds e) ∧
      ∃ e ∈ runtimeTrace true true false calls, e.call = runQueued ∧ ¬HaltHolds e := by
  have hcalls : runtimeTrace true true false calls = runtimeTrace true true false queued ++
      trace (runtimeStep true true) (finish (runtimeStep true true) (EntryRuntime.boot false) queued)
        [secondPrice, .startTask "SPY", runQueued] := trace_append _ _ _
  rw [hcalls]
  constructor
  · refine ⟨_, List.mem_append_right _ List.mem_cons_self, rfl, ?_⟩
    intro h
    exact h.noneEnqueued (by decide +kernel) "B" (by decide +kernel)
  · refine ⟨_, List.mem_append_right _
      (List.mem_cons_of_mem _ (List.mem_cons_of_mem _ List.mem_cons_self)), rfl, ?_⟩
    intro h
    have hlive := h.noneLive (by decide +kernel) ⟨"A", false, false, none⟩ (by decide +kernel)
    cases hlive

end Bhiksha
