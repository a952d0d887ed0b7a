import Bhiksha.Execution.Broker
import Bhiksha.Execution.EntryPricing
import Bhiksha.Persistence.RuntimeState
import Bhiksha.Persistence.ActionIntent
import Bhiksha.State.PositionTracker

/-! The stop ratchet of the live canary: the tick that hands the protective stop over to a tighter
one, and the recovery that resumes a handoff from its durable stage. Events, and awaits that neither
the records nor the venue notice, are left out: to die there is to die at the next await. -/

namespace Bhiksha.Live

open Library

/-- What survives the process, and the tracked position of the trade. -/
structure RatchetStore where
  db : ExitDb
  rollback : List String := []
  tracked : Option TrackedPosition := none

/-- `uuid5` in the URL namespace, `x ** 1.5` on the unit interval, the JSON codec and what each step
writes into `broker_payload`. -/
structure RatchetContext (V : Type) where
  codec : Codec V
  uuid5 : String → String
  power : ℚ → ℚ
  evidence : String → JsonObject V

abbrev RatchetM := Desk RatchetStore

section Store

variable {V : Type} (ctx : RatchetContext V)

/-- The client order id of the stop that takes the prior one's place again. -/
def restoreKey (key : String) : String := ctx.uuid5 (key ++ ":restore")

/-- A transaction on the exit tables, at the time the beat gives. -/
def commit (tx : String → Tx PyException ExitDb Unit) : RatchetM Unit := do
  let beat ← nextBeat
  let world ← get
  let (result, db) := Tx.run (tx beat.now) world.store.db
  set { world with store := { world.store with db := db } }
  match result with
  | .ok () => pure ()
  | .error e => throw (.raised e)

/-- A read of the exit tables. -/
def readDb : RatchetM ExitDb := do
  let _ ← nextBeat
  return (← get).store.db

def updateActionHandoff (key handoffStage : String) (restoreOrderId : Option String)
    (payload : Option (JsonObject V)) : RatchetM Unit :=
  commit (updateActionHandoffSync ctx.codec key handoffStage restoreOrderId payload)

def bindActionOrder (key brokerOrderId : String) : RatchetM Unit :=
  commit (bindActionOrderSync ctx.codec key brokerOrderId none)

/-- The identity that a submission came back with is bound unless the intent had one. -/
def bindSubmitted (key : String) (result : OrderResult) (bound : Option String) : RatchetM Unit :=
  match result.orderId, bound with
  | some orderId, none => bindActionOrder ctx key orderId
  | _, _ => pure ()

def resolveActionIntent (key status : String) (payload : JsonObject V) : RatchetM Unit := do
  commit (resolveActionIntentSync ctx.codec key status (some payload))
  modify fun world => world.note (.settled key)

/-- `get_open_action_intents`. -/
def openActionIntents (tradeId : String) (db : ExitDb) : List ExitActionIntent :=
  db.intents.rows.filter fun row => row.tradeId = tradeId ∧ ¬row.status.IsTerminal

/-- `_finalize_pending_exit_fill`, of which only the tracker is kept. -/
def finalizePendingExitFill : RatchetM Unit := do
  modify fun world => { world with store := { world.store with tracked := none } }
  let _ ← nextBeat

/-- `_adopt_recovered_ratchet_stop`. -/
def adoptRecoveredRatchetStop (position : TrackedPosition) (orderId : String) (stopPrice : ℚ) :
    RatchetM Unit := do
  let adopted := { position.withoutTargetActivation with
    stopOrderId := some orderId
    stopPrice := some stopPrice }
  modify fun world => { world with store := { world.store with tracked := some adopted } }
  let _ ← nextBeat

/-- `_mark_exit_state_degraded`, which keeps what its transaction raises to itself. -/
def markExitStateDegraded (tradeId reason : String) : RatchetM Unit := do
  let db ← readDb
  match db.runtime.get? tradeId with
  | none => pure ()
  | some durable =>
    if durable.recoveryStatus = "STATE_DEGRADED" ∧ durable.degradedReason = some reason then
      pure ()
    else
      let degraded : ExitRuntimeState := { durable.toExitRuntimeState with
        recoveryStatus := "STATE_DEGRADED"
        degradedReason := some reason
        stateVersion := durable.stateVersion + 1 }
      let beat ← nextBeat
      modify fun world => { world with store := { world.store with
        db := (Tx.run (transitionRuntimeStateSync degraded durable.stateVersion beat.now)
          world.store.db).2 } }

/-- `_latch_canary_rollback`. -/
def latchCanaryRollback (deploymentId : String) : RatchetM Unit := do
  let _ ← nextBeat
  modify fun world => { world with store := { world.store with
    rollback := deploymentId :: world.store.rollback } }

end Store

section Request

/-- The quote of the tick; `ageMs` is the older side's age where the timestamp lineage is proved. -/
structure RatchetQuote where
  symbol : String
  bid : Option ℚ
  ask : Option ℚ
  spreadPct : Option ℚ
  ageMs : Option ℚ
  quoteAt : String
deriving Repr

/-- The frozen policy of the trade; `authorized` is what the frozen canary identity, its window and
the deployment's limits come to. -/
structure RatchetPolicy where
  policyHash : String
  authorized : Bool
  selectedDte : Option ℚ
  target1R : Option ℚ
deriving Repr

/-- One tick of one position; `dispatchAllowed` is `profile_exit_dispatch_allowed`, `intentKey` is
the next `uuid4` and `canonicalStop` what `canonicalize_stop_price` answers. -/
structure RatchetTick where
  dryRun : Bool := false
  deploymentId : String
  liveMode : String := "canary"
  liveCandidateId : String := "safety_stack"
  profileExitDrivesLive : Bool := true
  dispatchAllowed : Bool := true
  maxQuoteAgeMs : ℚ
  maxSpreadPct : ℚ
  position : TrackedPosition
  quote : RatchetQuote
  policy : Option RatchetPolicy
  durable : Option ExitRuntimeState
  canonicalStop : ℚ → Option ℚ
  intentKey : String

/-- What the tick asks for when every gate lets it through. -/
structure RatchetRequest where
  tradeId : String
  optionSymbol : String
  priorStopOrderId : String
  priorStopPrice : ℚ
  working : ExitRuntimeState
  requestedStop : ℚ
  committedFloorR : ℚ

/-- `_max_valid_sell_stop_price`. -/
def maxValidSellStopPrice (bid : ℚ) : Option ℚ :=
  if bid ≤ 1 / 100 then none
  else
    let candidate : ℚ := ⌊(bid - 1 / 100 + 1 / 10 ^ 9) * 100⌋ / 100
    if candidate ≤ 0 then none else some (roundPrice candidate)

variable {V : Type} (ctx : RatchetContext V)

/-- `evaluate_risk_envelope` with the constants of the safety stack. -/
def evaluateRiskEnvelope (peakR target1R : ℚ) : Except PyException ℚ :=
  if target1R ≤ 1 / 4 then
    .error (.valueError "target_1_r must be greater than activation_r")
  else if peakR ≤ 1 / 4 then .ok (-1)
  else if target1R ≤ peakR then .ok 0
  else .ok (min 0 (max (-1) (-1 + ctx.power ((peakR - 1 / 4) / (target1R - 1 / 4)))))

/-- `compose_safety_stack_floor_r`. -/
def composeSafetyStackFloorR (confirmedPeakR target1R existingFloorR : ℚ) :
    Except PyException ℚ := do
  let envelopeFloor ← evaluateRiskEnvelope ctx confirmedPeakR target1R
  return if 3 / 4 ≤ confirmedPeakR then
    max (max existingFloorR envelopeFloor) (confirmedPeakR * (1 - 3 / 5))
  else max existingFloorR envelopeFloor

def RatchetQuote.gateOpen (quote : RatchetQuote) (optionSymbol : String)
    (maxQuoteAgeMs maxSpreadPct : ℚ) : Bool :=
  decide (normalizeOptionSymbol quote.symbol = normalizeOptionSymbol optionSymbol) &&
    quote.ageMs.any (· ≤ maxQuoteAgeMs) && quote.spreadPct.any (· ≤ maxSpreadPct) &&
    quote.bid.any fun bid => 0 < bid ∧ quote.ask.any (bid ≤ ·)

variable (tick : RatchetTick)

/-- The first gate: the canary identity and one contract. -/
def RatchetTick.applies : Bool :=
  !tick.dryRun ∧ tick.liveMode = "canary" ∧ tick.liveCandidateId = "safety_stack" ∧
    tick.profileExitDrivesLive ∧ tick.dispatchAllowed ∧ tick.position.quantity = 1

/-- The state with this tick's peak, which is stored if it is a new one. -/
def recordPeak (durable : ExitRuntimeState) (bid : ℚ) : RatchetM ExitRuntimeState := do
  let currentPeakR := max 0 ((bid - durable.seedEntryPremium) / durable.initialRiskPerContract)
  let confirmedPeakR := max durable.confirmedPeakR currentPeakR
  let rawPeak := max durable.rawPeakPremium bid
  if durable.rawPeakPremium < rawPeak ∨ durable.confirmedPeakR < confirmedPeakR then
    let working : ExitRuntimeState := { durable with
      rawPeakPremium := rawPeak
      confirmedPeakR := confirmedPeakR
      peakTimestamp := some tick.quote.quoteAt
      stateVersion := durable.stateVersion + 1 }
    commit (transitionRuntimeStateSync working durable.stateVersion)
    pure working
  else pure durable

/-- The stop on the broker's price grid, and its floor if that is still tighter. -/
def canonicalRatchet (working : ExitRuntimeState) (existingFloorR requestedStop : ℚ) :
    RatchetM (Option (ℚ × ℚ)) := do
  let _ ← nextBeat
  match tick.canonicalStop requestedStop with
  | none =>
    latchCanaryRollback tick.deploymentId
    pure none
  | some requestedStop =>
    let committedFloorR :=
      (requestedStop - working.seedEntryPremium) / working.initialRiskPerContract
    if committedFloorR - existingFloorR + 1 / 10 ^ 12 < 1 / 10 then pure none
    else pure (some (requestedStop, committedFloorR))

/-- The tighter stop that the peak has earned, and its floor in units of the initial risk. -/
def tighterStop (working : ExitRuntimeState) (stopPrice bid : ℚ) (target1R : Option ℚ) :
    RatchetM (Option (ℚ × ℚ)) := do
  let brokerFloorR := (stopPrice - working.seedEntryPremium) / working.initialRiskPerContract
  let existingFloorR := max brokerFloorR (working.lockedFloorR.getD brokerFloorR)
  if 2 / 100 < existingFloorR - brokerFloorR then pure none
  else
    match target1R.map (composeSafetyStackFloorR ctx working.confirmedPeakR · existingFloorR) with
    | none => pure none
    | some (.error e) => throw (.raised e)
    | some (.ok requestedFloorR) =>
      if requestedFloorR - existingFloorR + 1 / 10 ^ 12 < 1 / 10 then pure none
      else
        let requested := roundPrice
          (working.seedEntryPremium + requestedFloorR * working.initialRiskPerContract)
        match maxValidSellStopPrice bid with
        | none => pure none
        | some maxValid => canonicalRatchet tick working existingFloorR (min requested maxValid)

/-- The gates on the durable state and the quote. -/
def RatchetTick.ready (policy : RatchetPolicy) (durable : ExitRuntimeState) (optionSymbol : String)
    (stopPrice : ℚ) : Bool :=
  policy.authorized ∧
    durable.committedStopPrice.any (fun committed =>
      Python.roundTo 2 committed = Python.roundTo 2 stopPrice) ∧
    policy.selectedDte.any (fun dte => 4 ≤ Python.truncate dte ∧ Python.truncate dte ≤ 7) ∧
    durable.runnerState = "pre_t1" ∧ !durable.target1Banked ∧
    tick.quote.gateOpen optionSymbol tick.maxQuoteAgeMs tick.maxSpreadPct

/-- `_apply_live_safety_stack_ratchet` up to the intent. -/
def ratchetRequest : RatchetM (Option RatchetRequest) := do
  let position := tick.position
  match position.tradeId, position.stopOrderId, position.stopPrice, position.optionSymbol with
  | some tradeId, some prior, some priorPrice, some optionSymbol =>
    if !tick.applies then pure none
    else
      let _ ← nextBeat
      if tick.deploymentId ∈ (← get).store.rollback then pure none
      else
        match tick.policy, tick.durable, tick.quote.bid with
        | some policy, some durable, some bid =>
          if !tick.ready policy durable optionSymbol priorPrice then pure none
          else
            let db ← readDb
            if openActionIntents tradeId db ≠ [] then pure none
            else
              let working ← recordPeak tick durable bid
              match ← tighterStop ctx tick working priorPrice bid policy.target1R with
              | none => pure none
              | some (requestedStop, committedFloorR) =>
                pure (some ⟨tradeId, optionSymbol, prior, priorPrice, working, requestedStop,
                  committedFloorR⟩)
        | _, _, _ => pure none
  | _, _, _, _ => pure none

/-- The intent that precedes the handoff. -/
def RatchetRequest.intent (request : RatchetRequest) (key : String) (quantity : ℤ) :
    ExitActionIntent where
  idempotencyKey := key
  tradeId := request.tradeId
  policyHash := request.working.policyHash
  actionKind := "stop_ratchet"
  actionSlot := s!"stop_ratchet:v{request.working.stateVersion}"
  expectedStateVersion := request.working.stateVersion
  requestedQuantity := some quantity
  requestedStopPrice := some request.requestedStop
  requestedFloorR := some request.committedFloorR
  priorStopOrderId := some request.priorStopOrderId
  priorStopPrice := some request.priorStopPrice
  handoffStage := "prior_stop_cancel_pending"

end Request

section Handoff

variable {V : Type} (ctx : RatchetContext V) (tick : RatchetTick)

def unprotected (position : TrackedPosition) : TrackedPosition :=
  { position with stopOrderId := none, stopPrice := none }

/-- The degraded position, after the trade and the deployment are marked. -/
def degradeHandoff (tradeId reason : String) : RatchetM (Option TrackedPosition) := do
  markExitStateDegraded tradeId reason
  latchCanaryRollback tick.deploymentId
  pure (some (unprotected tick.position))

/-- The replacement is submitted under the intent key and read back. -/
def submitReplacement (request : RatchetRequest) : RatchetM (String × StopOutcome) := do
  let key := tick.intentKey
  let result ← placeStopLossOrder key tick.position.quantity
  bindSubmitted ctx key result none
  updateActionHandoff ctx key "replacement_submitted" none (some (ctx.evidence "submission_error"))
  let replacementId := result.orderId.getD key
  let outcome ← classifyStopReadback replacementId request.optionSymbol tick.position.quantity
    request.requestedStop
  pure (replacementId, outcome)

/-- The prior stop is submitted once more, at its own price, and read back. -/
def submitRestore (request : RatchetRequest) : RatchetM (String × StopOutcome) := do
  let key := tick.intentKey
  updateActionHandoff ctx key "restore_submit_pending" (some (restoreKey ctx key))
    (some (ctx.evidence "replacement"))
  let result ← placeStopLossOrder (restoreKey ctx key) tick.position.quantity
  let restoreId := result.orderId.getD (restoreKey ctx key)
  updateActionHandoff ctx key "restore_submitted" (some restoreId)
    (some (ctx.evidence "restore_submission_error"))
  let outcome ← classifyStopReadback restoreId request.optionSymbol tick.position.quantity
    request.priorStopPrice
  pure (restoreId, outcome)

/-- What follows when the replacement died without a fill. -/
def restorePriorStop (request : RatchetRequest) : RatchetM (Option TrackedPosition) := do
  let key := tick.intentKey
  let (restoreId, outcome) ← submitRestore ctx tick request
  match outcome with
  | .working =>
    resolveActionIntent ctx key "failed" (ctx.evidence "old_stop_restored")
    pure (some { tick.position with
      stopOrderId := some restoreId
      stopPrice := some request.priorStopPrice })
  | .fullFill | .partialFill =>
    resolveActionIntent ctx key "confirmed" (ctx.evidence "restore_filled")
    finalizePendingExitFill
    pure none
  | .deadZeroFill =>
    resolveActionIntent ctx key "failed" (ctx.evidence "restore_dead_zero_fill")
    degradeHandoff tick request.tradeId "stop_ratchet_replacement_unproved"
  | .ambiguous => degradeHandoff tick request.tradeId "stop_ratchet_replacement_unproved"

/-- The replacement is proved to work: the floor is locked and the intent confirmed. -/
def commitRatchet (request : RatchetRequest) (replacementId : String) :
    RatchetM (Option TrackedPosition) := do
  let working := request.working
  let advanced : ExitRuntimeState := { working with
    lockedFloorR := some (max (working.lockedFloorR.getD request.committedFloorR)
      request.committedFloorR)
    committedStopPrice := some request.requestedStop
    stateVersion := working.stateVersion + 1 }
  commit (transitionRuntimeStateSync advanced working.stateVersion)
  resolveActionIntent ctx tick.intentKey "confirmed" (ctx.evidence "replacement")
  pure (some { tick.position with
    stopOrderId := some replacementId
    stopPrice := some request.requestedStop })

/-- `_apply_live_safety_stack_ratchet` from the intent on. -/
def handOverStop (request : RatchetRequest) : RatchetM (Option TrackedPosition) := do
  let key := tick.intentKey
  commit (prepareActionIntentSync (request.intent key tick.position.quantity))
  let canceled ← cancelOrder request.priorStopOrderId
  if !canceled then
    degradeHandoff tick request.tradeId "stop_ratchet_prior_stop_cancel_ambiguous"
  else
    updateActionHandoff ctx key "prior_stop_dead_zero_fill" none
      (some (ctx.evidence "prior_stop_order_id"))
    updateActionHandoff ctx key "replacement_submit_pending" none none
    let (replacementId, outcome) ← submitReplacement ctx tick request
    match outcome with
    | .fullFill | .partialFill =>
      resolveActionIntent ctx key "confirmed" (ctx.evidence "replacement_filled")
      finalizePendingExitFill
      pure none
    | .working => commitRatchet ctx tick request replacementId
    | .deadZeroFill => restorePriorStop ctx tick request
    | .ambiguous => degradeHandoff tick request.tradeId "stop_ratchet_replacement_unproved"

def applyLiveSafetyStackRatchet : RatchetM (Option TrackedPosition) := do
  match ← ratchetRequest ctx tick with
  | none => pure (some tick.position)
  | some request => handOverStop ctx tick request

end Handoff

section Recovery

variable {V : Type} (ctx : RatchetContext V) (position : TrackedPosition)

/-- What the recovery reads off the intent before it starts. -/
structure RatchetResume where
  intent : ExitActionIntent
  optionSymbol : String
  quantity : ℤ
  prior : String
  priorPrice : ℚ
  requested : ℚ

variable (resume : RatchetResume)

def RatchetResume.key : String := resume.intent.idempotencyKey

/-- The prior stop: its fill ends the handoff, its death lets it go on. -/
def resumePriorStop (stage : String) : RatchetM (Option String) := do
  if stage ∉ ["prepared", "prior_stop_cancel_pending"] then pure (some stage)
  else
    let outcome ← classifyStopReadback resume.prior resume.optionSymbol resume.quantity
      resume.priorPrice
    if outcome.isFill then
      resolveActionIntent ctx resume.key "confirmed"
        (ctx.evidence "prior_stop_filled_during_handoff")
      finalizePendingExitFill
      pure none
    else
      let canceled ←
        if outcome = .deadZeroFill then pure true else cancelOrder resume.prior
      if !canceled then pure none
      else
        updateActionHandoff ctx resume.key "prior_stop_dead_zero_fill" none
          (some (ctx.evidence "prior_stop"))
        pure (some "prior_stop_dead_zero_fill")

/-- The replacement is submitted, again if need be, and the stage moves on. -/
def resumeSubmission (stage : String) : RatchetM (String × String) := do
  if stage ∉ ["prior_stop_dead_zero_fill", "replacement_submit_pending"] then
    pure (resume.intent.brokerOrderId.getD resume.key, stage)
  else
    updateActionHandoff ctx resume.key "replacement_submit_pending" none none
    let result ← placeStopLossOrder resume.key resume.quantity
    bindSubmitted ctx resume.key result resume.intent.brokerOrderId
    updateActionHandoff ctx resume.key "replacement_submitted" none
      (some (ctx.evidence "submission_error"))
    pure (result.orderId.getD resume.key, "replacement_submitted")

/-- The replacement is proved to work: the floor is locked and the stop adopted. -/
def recoverReplacement (replacementId : String) : RatchetM Unit := do
  let db ← readDb
  match db.runtime.get? resume.intent.tradeId with
  | none => pure ()
  | some durable =>
    let requestedFloor := resume.intent.requestedFloorR.getD
      ((resume.requested - durable.seedEntryPremium) / durable.initialRiskPerContract)
    let advanced : ExitRuntimeState := { durable.toExitRuntimeState with
      lockedFloorR := some (max (durable.lockedFloorR.getD requestedFloor) requestedFloor)
      committedStopPrice := some resume.requested
      recoveryStatus := "active"
      degradedReason := none
      stateVersion := durable.stateVersion + 1 }
    commit (transitionRuntimeStateSync advanced durable.stateVersion)
    adoptRecoveredRatchetStop position replacementId resume.requested
    resolveActionIntent ctx resume.key "confirmed" (ctx.evidence "replacement")

/-- The replacement: only its death without a fill lets the prior stop be restored. -/
def resumeReplacement (replacementId stage : String) : RatchetM (Option String) := do
  if stage ≠ "replacement_submitted" then pure (some stage)
  else
    match ← classifyStopReadback replacementId resume.optionSymbol resume.quantity
        resume.requested with
    | .working =>
      recoverReplacement ctx position resume replacementId
      pure none
    | .fullFill | .partialFill =>
      resolveActionIntent ctx resume.key "confirmed" (ctx.evidence "replacement_filled_on_recovery")
      finalizePendingExitFill
      pure none
    | .deadZeroFill =>
      updateActionHandoff ctx resume.key "restore_submit_pending"
        (some (restoreKey ctx resume.key)) (some (ctx.evidence "replacement"))
      pure (some "restore_submit_pending")
    | .ambiguous => pure none

/-- The restored stop is submitted if it is not, and the stage moves on. -/
def resumeRestoreSubmission (stage : String) : RatchetM (String × String) := do
  let restoreId := resume.intent.restoreOrderId.getD (restoreKey ctx resume.key)
  if stage ≠ "restore_submit_pending" then pure (restoreId, stage)
  else
    let result ← placeStopLossOrder restoreId resume.quantity
    let submittedId := result.orderId.getD restoreId
    updateActionHandoff ctx resume.key "restore_submitted" (some submittedId)
      (some (ctx.evidence "restore_submission_error"))
    pure (submittedId, "restore_submitted")

def resumeRestore (restoreId stage : String) : RatchetM Unit := do
  if stage ≠ "restore_submitted" then pure ()
  else
    match ← classifyStopReadback restoreId resume.optionSymbol resume.quantity
        resume.priorPrice with
    | .working =>
      adoptRecoveredRatchetStop position restoreId resume.priorPrice
      resolveActionIntent ctx resume.key "failed" (ctx.evidence "old_stop_restored")
    | .fullFill | .partialFill =>
      resolveActionIntent ctx resume.key "confirmed" (ctx.evidence "restore_filled_on_recovery")
      finalizePendingExitFill
    | .deadZeroFill =>
      resolveActionIntent ctx resume.key "failed" (ctx.evidence "restore_dead_zero_fill")
    | .ambiguous => pure ()

/-- The stage that the recovery starts from. -/
def resumeStage (intent : ExitActionIntent) : String :=
  let stage := if intent.handoffStage = "" then "prepared" else intent.handoffStage
  if stage = "prepared" ∧ intent.brokerOrderId ≠ none then "replacement_submitted" else stage

/-- The recovery of one intent, from the stage that its row records. -/
def resumeHandoff : RatchetM Unit := do
  match ← resumePriorStop ctx resume (resumeStage resume.intent) with
  | none => pure ()
  | some stage =>
    let (replacementId, stage) ← resumeSubmission ctx resume stage
    match ← resumeReplacement ctx position resume replacementId stage with
    | none => pure ()
    | some stage =>
      let (restoreId, stage) ← resumeRestoreSubmission ctx resume stage
      resumeRestore ctx position resume restoreId stage

/-- `_reconcile_stop_ratchet_intent`. -/
def reconcileStopRatchetIntent (intent : ExitActionIntent) : RatchetM Unit :=
  match position.optionSymbol, intent.priorStopOrderId, intent.priorStopPrice,
      intent.requestedStopPrice with
  | some optionSymbol, some prior, some priorPrice, some requested =>
    let quantity := (intent.requestedQuantity.filter (· ≠ 0)).getD position.quantity
    resumeHandoff ctx position ⟨intent, optionSymbol, quantity, prior, priorPrice, requested⟩
  | _, _, _, _ => pure ()

/-- A recovery reads the intent and resumes it while it is open. -/
def recoverIntent (key : String) : RatchetM Unit := do
  let db ← readDb
  match db.intents.get? key with
  | none => pure ()
  | some intent =>
    if intent.status.IsTerminal then pure () else reconcileStopRatchetIntent ctx position intent

/-- The tick, and after its end or death any number of recoveries, each of which may die too. -/
def ratchetHistory (tick : RatchetTick) (recoveries : List TrackedPosition)
    (world : World RatchetStore) : World RatchetStore :=
  recoveries.foldl (fun w position => ((recoverIntent ctx position tick.intentKey).run.run w).2)
    ((applyLiveSafetyStackRatchet ctx tick).run.run world).2

end Recovery

end Bhiksha.Live
