import Bhiksha.Execution.ProfileExit
import Bhiksha.Persistence.RuntimeState

/-! The profile ladder of a live position under its frozen policy: the ladder in memory, the durable
row that hydration rebuilds it from, and what a managed tick writes to either. -/

namespace Bhiksha

variable {V : Type}

/-- The fields of a tracked position that the ladder and its hydration read. -/
structure TrackedPosition where
  deploymentId : String
  optionSymbol : Option String
  quantity : ℤ
  entryPrice : Option ℚ
  stopPrice : Option ℚ := none
  entryTimestamp : Option ℚ := none

/-- What stays fixed while a live trade is managed; `fields` are read off the frozen policy. -/
structure FrozenTrade (V : Type) where
  codec : Codec V
  platform : Platform
  snapshot : TradeExitPolicySnapshot V
  fields : ProfileExitFields

/-- The ladder in memory, the durable row and the open action intents of one live trade. -/
structure LadderPair where
  ladder : ProfileExitState
  durable : ExitRuntimeState
  openIntents : List ExitActionIntent := []

/-- `_ENTRY_PREMIUM_LEDGER_ROUNDING_TOLERANCE + 1e-12`. -/
def entryPremiumTolerance : ℚ := 5 / 1000 + 1 / 10 ^ 12

def entryPremiumsAreSameFill (seedEntryPremium trackedEntryPremium : ℚ) : Bool :=
  0 < seedEntryPremium ∧ 0 < trackedEntryPremium
    ∧ |seedEntryPremium - trackedEntryPremium| ≤ entryPremiumTolerance

/-- Why `_hydrate_frozen_profile_state` degrades a trade, or `None`. -/
def hydrationReason (codec : Codec V) (cached : TradeExitPolicySnapshot V)
    (durable : ExitRuntimeState) (position : TrackedPosition)
    (openIntents : List ExitActionIntent) : Except PyException (Option String) := do
  if cached.policyHash ≠ durable.policyHash then
    return some "policy_hash_mismatch"
  if (← canonicalPolicyHash codec cached.canonicalPolicy) ≠ cached.policyHash then
    return some "frozen_policy_hash_verification_failed"
  if (∀ entryPrice ∈ position.entryPrice,
        ¬entryPremiumsAreSameFill durable.seedEntryPremium entryPrice)
      ∨ durable.deploymentId ≠ position.deploymentId
      ∨ durable.optionSymbol ≠ position.optionSymbol then
    return some "runtime_state_identity_mismatch"
  if 0 < durable.bankedQuantity
      ∧ position.quantity ≠ durable.seedQuantity - durable.bankedQuantity then
    return some "position_quantity_not_reconciled_to_proved_partial"
  if openIntents ≠ [] then
    return some "unresolved_exit_action_intent"
  return none

/-- The ladder that hydration rebuilds from the durable row. -/
def rebuildLadder (durable : ExitRuntimeState) : ProfileExitState where
  peakPremium := durable.rawPeakPremium
  target1Banked := durable.target1Banked
  stopAtBreakeven := durable.breakevenEmitted
  bankedQuantity := durable.bankedQuantity
  breakevenEmitted := durable.breakevenEmitted
  seedEntryPremium := some durable.seedEntryPremium
  seedQuantity := some durable.seedQuantity

/-- The row that `_freeze_exit_policy_for_confirmed_trade` writes at the fill. -/
def seededRuntimeState (snapshot : TradeExitPolicySnapshot V) (fields : ProfileExitFields)
    (entryPremium : ℚ) (quantity : ℤ) (committedStopPrice : Option ℚ) : ExitRuntimeState where
  tradeId := snapshot.tradeId
  deploymentId := snapshot.deploymentId
  optionSymbol := snapshot.optionSymbol
  policyHash := snapshot.policyHash
  seedEntryPremium := entryPremium
  seedQuantity := quantity
  initialRiskPerContract := fields.stopPct * entryPremium
  rawPeakPremium := entryPremium
  confirmedPeakR := 0
  committedStopPrice := committedStopPrice
  stateVersion := 1

/-- What becomes known of the partial order before its handler returns. -/
inductive PartialEffect where
  | proved (orderId : Option String)
  | pending (orderId : Option String)
  | refused

/-- A management tick of a live position that has no exit order of its own. -/
structure ManagedTick where
  position : TrackedPosition
  market : ProfileMarketView
  now : ℚ
  /-- `now` in ISO form. -/
  timestamp : String := ""
  /-- The `uuid4` of the action intent, if one is prepared. -/
  intentKey : String := ""
  partialEffect : PartialEffect := .refused
  stopPlaced : Bool := false

namespace LadderPair

/-- The pair of a trade whose fill has just been confirmed. -/
def seeded (trade : FrozenTrade V) (entryPremium : ℚ) (quantity : ℤ)
    (committedStopPrice : Option ℚ) : LadderPair :=
  let durable := seededRuntimeState trade.snapshot trade.fields entryPremium quantity
    committedStopPrice
  { ladder := rebuildLadder durable, durable }

/-- A restart loses the ladder in memory, and hydration rebuilds it. -/
def restart (pair : LadderPair) : LadderPair := { pair with ladder := rebuildLadder pair.durable }

/-- Hydration takes a degraded row that passes its checks back to `active`. -/
def recover (pair : LadderPair) : LadderPair :=
  if pair.durable.recoveryStatus = "STATE_DEGRADED" then
    { pair with
      durable :=
        { pair.durable with
          recoveryStatus := "active"
          degradedReason := none
          stateVersion := pair.durable.stateVersion + 1 } }
  else pair

/-- What `_mark_exit_state_degraded` writes to the row. -/
def markDegraded (reason : String) (pair : LadderPair) : LadderPair :=
  if pair.durable.recoveryStatus = "STATE_DEGRADED" ∧ pair.durable.degradedReason = some reason then
    pair
  else
    { pair with
      durable :=
        { pair.durable with
          recoveryStatus := "STATE_DEGRADED"
          degradedReason := some reason
          stateVersion := pair.durable.stateVersion + 1 } }

def persistLivePeakState (now : String) (pair : LadderPair) : LadderPair :=
  if pair.ladder.peakPremium ≤ pair.durable.rawPeakPremium then pair
  else
    let peakR := (pair.ladder.peakPremium - pair.durable.seedEntryPremium) /
      pair.durable.initialRiskPerContract
    { pair with
      durable :=
        { pair.durable with
          rawPeakPremium := pair.ladder.peakPremium
          confirmedPeakR := max pair.durable.confirmedPeakR peakR
          peakTimestamp := some now
          lastEvaluatedAt := some now
          stateVersion := pair.durable.stateVersion + 1 } }

def confirmPartialActionIntent (orderId : Option String) (confirmedQuantity : ℤ)
    (pair : LadderPair) : LadderPair :=
  match pair.openIntents.find? fun item =>
      item.actionKind = "partial_scale" ∧ item.brokerOrderId = orderId with
  | none => pair
  | some intent =>
    { pair with
      durable :=
        { pair.durable with
          target1Banked := true
          bankedQuantity := max pair.durable.bankedQuantity confirmedQuantity
          runnerState := "post_t1"
          recoveryStatus := "active"
          degradedReason := none
          stateVersion := pair.durable.stateVersion + 1 }
      openIntents := pair.openIntents.filter fun item =>
        item.idempotencyKey ≠ intent.idempotencyKey }

def rollbackUnconfirmedTarget1 (pair : LadderPair) : LadderPair :=
  { pair with
    ladder :=
      { pair.ladder with
        target1Banked := false
        target1Premium := none
        bankedQuantity := 0
        stopAtBreakeven := false
        breakevenEmitted := false } }

/-- `_fail_partial_action_intent`, once the order is known to have died unfilled. A recovery that cancels the
order itself takes T1 back in the ladder; the reconciling of an open intent and the sweep of the partial
fills do not. -/
def failPartialActionIntent (orderId : Option String) (rolledBack : Bool) (pair : LadderPair) :
    LadderPair :=
  match pair.openIntents.find? fun item =>
      item.actionKind = "partial_scale" ∧ item.brokerOrderId = orderId with
  | none => pair
  | some intent =>
    let failed :=
      { pair with
        openIntents := pair.openIntents.filter fun item =>
          item.idempotencyKey ≠ intent.idempotencyKey }
    if rolledBack then failed.rollbackUnconfirmedTarget1 else failed

def rollbackUnconfirmedBreakeven (pair : LadderPair) : LadderPair :=
  { pair with ladder := { pair.ladder with breakevenEmitted := false } }

/-- The intent that precedes a partial close. -/
def partialIntent (tick : ManagedTick) (closeQty : ℤ) (pair : LadderPair) : ExitActionIntent where
  idempotencyKey := tick.intentKey
  tradeId := pair.durable.tradeId
  policyHash := pair.durable.policyHash
  actionKind := "partial_scale"
  actionSlot := s!"target_1:{tick.intentKey}"
  expectedStateVersion := pair.durable.stateVersion
  requestedQuantity := some closeQty

/-- `_handle_partial_scale_locked`, as far as the ladder and the durable row are concerned. -/
def handlePartialScale (tick : ManagedTick) (closeQty : ℤ) (pair : LadderPair) : LadderPair :=
  let prepared (orderId : Option String) : LadderPair :=
    { pair with
      openIntents := pair.openIntents ++
        [{ pair.partialIntent tick closeQty with brokerOrderId := orderId }] }
  match tick.partialEffect with
  | .proved orderId => (prepared orderId).confirmPartialActionIntent orderId closeQty
  | .pending orderId => prepared orderId
  | .refused => pair.rollbackUnconfirmedTarget1

/-- The resting stop is already at the new price, or tighter. -/
def restsAtOrAbove (stopPrice : Option ℚ) (newStopPrice : ℚ) : Bool :=
  stopPrice.any fun price => Python.roundTo 2 newStopPrice ≤ Python.roundTo 2 price

/-- `_apply_replacement_stop`, as far as the ladder and the durable row are concerned. -/
def applyReplacementStop (tick : ManagedTick) (newStopPrice : ℚ) (pair : LadderPair) : LadderPair :=
  if restsAtOrAbove tick.position.stopPrice newStopPrice then pair
  else if tick.stopPlaced then
    { pair with
      durable :=
        { pair.durable with
          committedStopPrice := some newStopPrice
          breakevenEmitted := true
          runnerState := "post_t1"
          recoveryStatus := "active"
          degradedReason := none
          stateVersion := pair.durable.stateVersion + 1 } }
  else pair.rollbackUnconfirmedBreakeven

/-- The dispatch of a decision; a full exit closes the position and leaves the pair alone. -/
def dispatch (tick : ManagedTick) (decision : ProfileExitDecision) (pair : LadderPair) :
    LadderPair :=
  match decision.fsmAction, decision.targetStopPrice with
  | .partialScale, _ => pair.handlePartialScale tick decision.exitQuantity
  | .stopToBreakeven, some newStopPrice => pair.applyReplacementStop tick newStopPrice
  | _, _ => pair

/-- A tick that hydration lets through: evaluate, persist the peak, dispatch. -/
def manage (trade : FrozenTrade V) (tick : ManagedTick) (pair : LadderPair) :
    Except PyException ProfileExitDecision × LadderPair :=
  let pair := pair.recover
  match evaluateProfileExit trade.platform trade.fields (tick.position.entryPrice.getD 0)
      tick.position.quantity tick.market tick.position.entryTimestamp tick.now pair.ladder false with
  | .error e => (.error e, pair)
  | .ok (decision, ladder) =>
    (.ok decision,
      (persistLivePeakState tick.timestamp { pair with ladder := ladder }).dispatch tick decision)

/-- The tick finds the trade in order, so that its ladder is evaluated live. -/
def Hydrates (trade : FrozenTrade V) (tick : ManagedTick) (pair : LadderPair) : Prop :=
  0 < tick.position.quantity ∧
    hydrationReason trade.codec trade.snapshot pair.durable tick.position pair.openIntents = .ok none

instance (trade : FrozenTrade V) (tick : ManagedTick) (pair : LadderPair) :
    Decidable (Hydrates trade tick pair) :=
  inferInstanceAs (Decidable (_ ∧ _))

end LadderPair

/-- What moves a live pair: a tick, a later broker proof that a partial which was left pending has filled
or has died unfilled, or a mark that the trade is degraded for now. -/
inductive LadderEvent where
  | tick (tick : ManagedTick)
  | partialProved (orderId : Option String) (filledQuantity : ℤ)
  | partialFailed (orderId : Option String) (rolledBack : Bool)
  | degraded (reason : String)

/-- What a decision asks for: its rule, its action and its quantity. -/
structure LadderVerdict where
  rule : ProfileLadderRule
  fsmAction : ProfileFsmAction
  exitQuantity : ℤ
deriving DecidableEq

def ProfileExitDecision.verdict (decision : ProfileExitDecision) : LadderVerdict :=
  ⟨decision.rule, decision.fsmAction, decision.exitQuantity⟩

/-- One event of a live pair, with the verdict of a tick. A tick that does not hydrate evaluates no
ladder, and is no tick of the pair. -/
def LadderPair.step (trade : FrozenTrade V) (pair : LadderPair) :
    LadderEvent → Option (Option (Except PyException LadderVerdict) × LadderPair)
  | .tick tick =>
    if pair.Hydrates trade tick then
      let (decision, pair') := pair.manage trade tick
      some (some (decision.map ProfileExitDecision.verdict), pair')
    else none
  | .partialProved orderId filledQuantity =>
    some (none, pair.confirmPartialActionIntent orderId filledQuantity)
  | .partialFailed orderId rolledBack =>
    some (none, pair.failPartialActionIntent orderId rolledBack)
  | .degraded reason => some (none, pair.markDegraded reason)

end Bhiksha
