import Bhiksha.Library.Table
import Bhiksha.Library.Trace
import Bhiksha.Risk.RailBRecovery

/-! The history of a demoted lane: its consults, the trades they lead to, the other trades of the
book and the growing tape of shadow cases. -/

namespace Bhiksha

open Library

variable {P : Type}

/-- The order id of a live entry. -/
structure BrokerOrderId where
  id : String
  nonempty : id ≠ ""
  notShadow : id ≠ shadowEntryOrderId
  notDryRun : id.startsWith "DRY_RUN" = false

/-- What a consult that was approved comes to. -/
inductive ProbeOutcome where
  | notTraded
  | cancelled (tradeId : String) (orderId : BrokerOrderId)
  | filled (tradeId : String) (orderId : BrokerOrderId)

/-- The reads of a consult that fail. -/
structure FailedReads where
  closedTrades : Option PyException := none
  openTrades : Option PyException := none
  cases : Option PyException := none

/-- The exit facts that a close knows. -/
structure ExitFacts where
  exitPrice : Option ℚ := none
  exitFilledQuantity : Option ℤ := none
  exitFilledAt : Option ℚ := none

/-- One step of the history. -/
inductive LaneCall (P : Type) where
  | consult (deployment : LaneDeployment) (now : ℚ) (demoteResetAt : Option ℚ)
      (failed : FailedReads) (outcome : ProbeOutcome)
  | openTrade (trade : TradeRecord)
  | closeTrade (tradeId : String) (closedAt : ℚ) (facts : ExitFacts)
  | observe (c : ExitEdgeCase P)

/-- The trade rows and the tape, with the probes that filled and the instants at which they closed. -/
structure Lane (P : Type) where
  trades : Table TradeRecord.tradeId
  cases : List (ExitEdgeCase P)
  probes : List String
  closings : List (String × ℚ)

/-- A new trade id is a fresh `uuid4`, so an id that has a row opens no other trade. -/
def Lane.addTrade (lane : Lane P) (trade : TradeRecord) : Lane P :=
  if h : lane.trades.get? trade.tradeId = none then
    { lane with trades := lane.trades.insert trade h }
  else lane

def probeRow (deploymentId tradeId status : String) (orderId : BrokerOrderId) : TradeRecord where
  tradeId := tradeId
  deploymentId := deploymentId
  symbol := ""
  status := status
  entryOrderId := some orderId.id

/-- The rows of a probe: open when it filled, closed without exit facts when it was cancelled. -/
def Lane.settle (lane : Lane P) (deploymentId : String) : ProbeOutcome → Lane P
  | .notTraded => lane
  | .cancelled tradeId orderId =>
    lane.addTrade (probeRow deploymentId tradeId "closed" orderId)
  | .filled tradeId orderId =>
    if lane.trades.get? tradeId = none then
      { lane.addTrade (probeRow deploymentId tradeId "open_protected" orderId) with
        probes := tradeId :: lane.probes }
    else lane

/-- What `mark_closed` writes. -/
def TradeRecord.markClosed (facts : ExitFacts) (trade : TradeRecord) : TradeRecord :=
  { trade with
    status := "closed"
    exitPrice := facts.exitPrice.or trade.exitPrice
    exitFilledQuantity := facts.exitFilledQuantity.or trade.exitFilledQuantity
    exitFilledAt := facts.exitFilledAt.or trade.exitFilledAt }

def Lane.close (lane : Lane P) (tradeId : String) (closedAt : ℚ) (facts : ExitFacts) : Lane P :=
  { lane with
    trades := lane.trades.update (fun row => row.tradeId = tradeId) (TradeRecord.markClosed facts)
      fun _ => rfl
    closings :=
      if tradeId ∈ lane.probes ∧ (lane.trades.get? tradeId).any (fun row => !isClosedTrade row) then
        (tradeId, closedAt) :: lane.closings
      else lane.closings }

def orFail {α : Type} (failure : Option PyException) (value : α) : Except PyException α :=
  failure.elim (.ok value) .error

/-- What a consult reads. -/
def Lane.reads (lane : Lane P) (deploymentId : String) (now : ℚ) (demoteResetAt : Option ℚ)
    (failed : FailedReads) : RecoveryReads P where
  now := now
  demoteResetAt := demoteResetAt
  closedTrades := orFail failed.closedTrades
    (lane.trades.rows.filter fun row => row.deploymentId = deploymentId && isClosedTrade row)
  openTrades := orFail failed.openTrades (lane.trades.rows.filter fun row => !isClosedTrade row)
  cases := orFail failed.cases lane.cases

section Step

variable (lab : ExitEdgeLab P)

/-- A step, with the receipt of an approved consult. -/
def laneStep : LaneCall P → Lane P → Option (RecoveryReceipt P) × Lane P
  | .consult deployment now demoteResetAt failed outcome, lane =>
    let reads := lane.reads deployment.deploymentId now demoteResetAt failed
    match recoveryCandidate lab deployment reads with
    | (some _, receipt) => (receipt, lane.settle deployment.deploymentId outcome)
    | (none, _) => (none, lane)
  | .openTrade trade, lane => (none, lane.addTrade trade)
  | .closeTrade tradeId closedAt facts, lane => (none, lane.close tradeId closedAt facts)
  | .observe c, lane => (none, { lane with cases := c :: lane.cases })

abbrev LaneEvent (P : Type) := Event (Lane P) (LaneCall P) (Option (RecoveryReceipt P))

def Lane.new : Lane P := ⟨Table.empty, [], [], []⟩

def laneHistory (calls : List (LaneCall P)) : List (LaneEvent P) :=
  trace (laneStep lab) Lane.new calls

end Step

end Bhiksha
