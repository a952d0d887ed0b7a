import Bhiksha.Risk.RiskSettings
import Bhiksha.Risk.RealizedPnl

/-! The risk manager's consult points, each as a function of its session state and of what the
repositories answer during the consult. -/

namespace Bhiksha

structure CashBudgetDay where
  tradeDate : ℤ
  accountType : Option String
  brokerCashOnlyBuyingPower : ℚ
  usableBudget : ℚ
  bufferPct : ℚ
deriving DecidableEq, Repr

structure EntryRiskReservation where
  tradeId : String
  deploymentId : String
  symbol : String
  cluster : Option String
  plannedStopLossUsd : ℚ
  expiresAt : ℚ
  status : String := "reserved"
deriving DecidableEq, Repr

inductive RiskReason where
  | railADisabled
  | cashBudgetQueryFailed
  | noCashBudgetDay
  | pnlQueryFailed
  | tier1Halt
  | tier2Flatten
  | budgetUnavailable
  | railBSessionBlock
  | approved
  | proposedStopUnavailable
  | sizedEntryBookUnavailable
  | correlationClusterAtCap
  | openPositionRiskUnavailable
  | prospectiveLossHeadroomExceeded
  | sizedEntryReservationFailed
deriving DecidableEq, Repr

structure RailAStatus where
  active : Bool
  halted : Bool
  flatten : Bool
  reason : Option RiskReason
  realizedLivePnlUsd : Option ℚ := none
  usableBudget : Option ℚ := none
  maxDailyDrawdownPct : Option ℚ := none
  flattenDailyDrawdownPct : Option ℚ := none
  haltThresholdUsd : Option ℚ := none
  flattenThresholdUsd : Option ℚ := none
  tradeDate : Option ℤ := none
deriving DecidableEq, Repr

/-- A rail that could not be evaluated. -/
def RailAStatus.inactive (reason : RiskReason) (tradeDate : Option ℤ) : RailAStatus where
  active := false
  halted := false
  flatten := false
  reason := some reason
  tradeDate := tradeDate

/-- An active Rail A breach. -/
def RailAStatus.breached (status : RailAStatus) : Bool :=
  status.active && (status.halted || status.flatten)

structure EntryDecision where
  allowed : Bool
  reason : RiskReason
  rail : Option String := none
deriving DecidableEq, Repr

structure BookActionsResult where
  railA : RailAStatus
  shouldFlatten : Bool
  flattenReason : Option RiskReason
deriving DecidableEq, Repr

/-- What the repositories and the clock answer during one consult. -/
structure BookReads where
  now : ℚ
  budgetDay : Except String (Option CashBudgetDay)
  recentTrades : Except String (List TradeRecord)
  partialFills : Except String (String → List PartialFillRecord)
  closedTrades : Except String (List TradeRecord)
  openTrades : Except String (List TradeRecord)
  reservations : Except String (List EntryRiskReservation)
  upsertReservation : Except String Unit := .ok ()

/-- The session state of a `RiskManager`. -/
structure RiskManager where
  sessionHalted : Bool := false
  sessionFlattened : Bool := false
  sessionBlockedIds : List String := []
  cache : Option (ℤ × BookActionsResult) := none

section Consults

variable (newYorkDate : ℚ → ℤ) (settings : RiskSettings)

/-- The realized P&L of today, or the failure of one of its two queries. -/
def BookReads.realizedPnl (reads : BookReads) : Except String ℚ := do
  let trades ← reads.recentTrades
  let partials ← reads.partialFills
  return realizedLivePnlToday newYorkDate (newYorkDate reads.now) trades partials

/-- The rail once the budget and the realized P&L of today are known. -/
def evaluateRailA (usableBudget realizedPnl : ℚ) (tradeDate : ℤ) : RailAStatus :=
  let haltThreshold := -(settings.maxDailyDrawdownPct / 100) * usableBudget
  let flattenThreshold := -(settings.flattenDailyDrawdownPct / 100) * usableBudget
  let halted : Bool := realizedPnl ≤ haltThreshold
  let flatten : Bool := realizedPnl ≤ flattenThreshold
  { active := true
    halted := halted
    flatten := flatten
    reason := if flatten then some .tier2Flatten else if halted then some .tier1Halt else none
    realizedLivePnlUsd := some realizedPnl
    usableBudget := some usableBudget
    maxDailyDrawdownPct := some settings.maxDailyDrawdownPct
    flattenDailyDrawdownPct := some settings.flattenDailyDrawdownPct
    haltThresholdUsd := some (Python.roundTo 2 haltThreshold)
    flattenThresholdUsd := some (Python.roundTo 2 flattenThreshold)
    tradeDate := some tradeDate }

def computeRailAStatus (reads : BookReads) : RailAStatus :=
  let tradeDate := newYorkDate reads.now
  if !settings.railAEnabled then .inactive .railADisabled none
  else
    match reads.budgetDay with
    | .error _ => .inactive .cashBudgetQueryFailed (some tradeDate)
    | .ok none => .inactive .noCashBudgetDay (some tradeDate)
    | .ok (some day) =>
      match reads.realizedPnl newYorkDate with
      | .error _ => .inactive .pnlQueryFailed (some tradeDate)
      | .ok realizedPnl => evaluateRailA settings day.usableBudget realizedPnl tradeDate

def bookActionsUncached (reads : BookReads) (manager : RiskManager) :
    BookActionsResult × RiskManager :=
  let status := computeRailAStatus newYorkDate settings reads
  let manager := { manager with
    sessionHalted := manager.sessionHalted || (status.active && status.halted)
    sessionFlattened := manager.sessionFlattened || (status.active && status.flatten) }
  ({ railA := status
     shouldFlatten := manager.sessionFlattened
     flattenReason := if manager.sessionFlattened then some .tier2Flatten else none },
    manager)

/-- One evaluation a minute; the rest of the minute gets its result again. -/
def bookActions (reads : BookReads) (manager : RiskManager) : BookActionsResult × RiskManager :=
  let minuteKey := ⌊reads.now / 60⌋
  match manager.cache.filter fun entry => entry.1 = minuteKey with
  | some (_, cached) => (cached, manager)
  | none =>
    let (result, manager) := bookActionsUncached newYorkDate settings reads manager
    (result, { manager with cache := some (minuteKey, result) })

/-- The last priced closed live trades of a deployment, at most a window of them. -/
def railBPnls (deploymentId : String) (trades : List TradeRecord)
    (partials : String → List PartialFillRecord) : List ℚ :=
  let eligible := trades.filter fun trade =>
    trade.deploymentId = deploymentId && isLiveTrade trade && isClosedTrade trade &&
      settings.demoteResetAt.all fun resetAt => trade.entryTimestamp.any fun t => resetAt ≤ t
  let priced := eligible.filterMap fun trade => completeRealizedPnlUsd trade (partials trade.tradeId)
  if settings.demoteWindow < 1 then priced else priced.take settings.demoteWindow.toNat

/-- Whether Rail B refuses a deployment, on the mean of its last priced trades. -/
def evaluateRailB (deploymentId : String) (reads : BookReads) (manager : RiskManager) :
    Except String (Bool × RiskManager) :=
  if !settings.railBEnabled then .ok (false, manager)
  else if deploymentId ∈ manager.sessionBlockedIds then .ok (true, manager)
  else do
    let pnls := railBPnls settings deploymentId (← reads.closedTrades) (← reads.partialFills)
    if (pnls.length : ℤ) < settings.demoteMinN
        ∨ settings.demoteThresholdUsd ≤ Python.roundTo 2 (pnls.sum / pnls.length) then
      return (false, manager)
    else
      return (true, { manager with sessionBlockedIds := deploymentId :: manager.sessionBlockedIds })

/-- The entry-planning consult; it raises when Rail B's queries do. -/
def allowEntry (deploymentId : String) (reads : BookReads) (manager : RiskManager) :
    Except String EntryDecision × RiskManager :=
  let railA := computeRailAStatus newYorkDate settings reads
  let manager := { manager with sessionHalted := manager.sessionHalted || railA.breached }
  if manager.sessionHalted then (.ok ⟨false, .tier1Halt, some "A"⟩, manager)
  else if settings.railAEnabled && !railA.active &&
      railA.reason ∈ [some .noCashBudgetDay, some .cashBudgetQueryFailed] then
    (.ok ⟨false, .budgetUnavailable, some "A"⟩, manager)
  else
    match evaluateRailB settings deploymentId reads manager with
    | .error e => (.error e, manager)
    | .ok (true, manager) => (.ok ⟨false, .railBSessionBlock, some "B"⟩, manager)
    | .ok (false, manager) => (.ok ⟨true, .approved, none⟩, manager)

end Consults

end Bhiksha
