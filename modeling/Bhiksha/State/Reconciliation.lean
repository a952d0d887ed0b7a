import Bhiksha.Execution.Broker
import Bhiksha.State.PositionTracker

/-! The reconciliation of the broker's positions with the deployments and the recorded trades, and what
it takes from the order of the broker's order list. Quantities are read as integers. -/

namespace Bhiksha.Live

/-- An order of the portfolio snapshot. -/
structure ListedOrder extends OrderPayload where
  isOption : Bool := true
  orderId : Option String := none
  limitPrice : JsonNumber := .missing
deriving DecidableEq, Repr

structure BrokerPosition where
  isOption : Bool := true
  optionSymbol : String
  quantity : ℤ
  unitCost : Option ℚ := none
  openedAt : Option ℚ := none
deriving DecidableEq, Repr

/-- The columns of a trade record that reconciliation reads. -/
structure KnownTrade where
  tradeId : String
  deploymentId : String
  optionSymbol : Option String := none
  status : String
  entryOrderId : Option String := none
  stopOrderId : Option String := none
  targetOrderId : Option String := none
  exitOrderId : Option String := none
  entryPrice : Option ℚ := none
  underlyingEntryPrice : Option ℚ := none
  entryTimestamp : Option ℚ := none
  exitLimitPrice : Option ℚ := none
  exitSubmittedAt : Option ℚ := none
  exitMode : Option ExitMode := none
deriving DecidableEq, Repr

structure ReconciledDeployment where
  deploymentId : String
  symbol : String
  shadowOnly : Bool
deriving DecidableEq, Repr

/-- The working stop that the index holds for a contract. -/
structure IndexedStop where
  orderId : String
  price : Option ℚ
  remainingQuantity : Option ℤ
deriving DecidableEq, Repr

structure IndexedLimit where
  orderId : String
  price : Option ℚ
deriving DecidableEq, Repr

namespace ListedOrder

variable (order : ListedOrder)

/-- A working order that sells the option contract and has an id. -/
def sellsContract? (contract : String) : Option String :=
  if order.isOption ∧ order.side = some .sell ∧ order.status.any PublicStatus.isWorking ∧
      order.contract = contract ∧ contract ≠ "" then
    order.orderId.filter (· ≠ "")
  else none

def stopOf? (contract : String) : Option IndexedStop :=
  if order.orderType = some .stop then
    (order.sellsContract? contract).map fun orderId =>
      ⟨orderId, order.stopPrice.maybeFloat, order.remainingQuantity⟩
  else none

def limitOf? (contract : String) : Option IndexedLimit :=
  if order.orderType = some .limit then
    (order.sellsContract? contract).map fun orderId => ⟨orderId, order.limitPrice.maybeFloat⟩
  else none

end ListedOrder

/-- `_index_open_exit_orders`: of the orders on one contract the last one listed is kept. -/
def indexOpenExitOrders (orders : List ListedOrder) :
    (String → Option IndexedStop) × (String → Option IndexedLimit) :=
  (fun contract => (orders.filterMap (·.stopOf? contract)).getLast?,
    fun contract => (orders.filterMap (·.limitOf? contract)).getLast?)

/-- `_is_live_entry_order_id`. -/
def isLiveEntryOrderId (orderId : Option String) : Bool :=
  orderId.any fun id => id ≠ "" && id ≠ "SHADOW_ENTRY" && !id.startsWith "DRY_RUN"

namespace KnownTrade

variable (trade : KnownTrade)

def isOpen : Bool := trade.status ≠ "closed"

def orderIds : List String :=
  [trade.entryOrderId, trade.stopOrderId, trade.targetOrderId, trade.exitOrderId].reduceOption

/-- `_matches_broker_opened_at`, within six hours. -/
def matchesOpenedAt (openedAt : Option ℚ) : Bool :=
  match openedAt, trade.entryTimestamp with
  | some opened, some entered => |entered - opened| ≤ 21600
  | _, _ => false

/-- `_matches_broker_entry_price`. -/
def matchesEntryPrice (entryPrice : Option ℚ) : Bool :=
  match entryPrice, trade.entryPrice with
  | some broker, some recorded => |recorded - broker| ≤ 1 / 20
  | _, _ => false

/-- `_contradicts_broker_evidence`. -/
def contradictsEvidence (position : BrokerPosition) : Bool :=
  let openedAtContradicts := position.openedAt.isSome && trade.entryTimestamp.isSome &&
    !trade.matchesOpenedAt position.openedAt
  let priceContradicts := match position.unitCost, trade.entryPrice with
    | some broker, some recorded =>
      decide (max (1 / 4) (1 / 10 * max recorded broker) < |recorded - broker|)
    | _, _ => false
  openedAtContradicts || priceContradicts

end KnownTrade

/-- The only element, if there is just one. -/
def only? {α : Type} : List α → Option α
  | [a] => some a
  | _ => none

section Resolve

variable (trades : List KnownTrade)

/-- The newest open trade that owns the order. -/
def tradeByOrderId (orderId : String) : Option KnownTrade :=
  if orderId = "" then none else trades.find? fun trade => trade.isOpen ∧ orderId ∈ trade.orderIds

def resolveByOrders (stop : Option IndexedStop) (limit : Option IndexedLimit) : Option KnownTrade :=
  (stop.bind fun s => tradeByOrderId trades s.orderId).or
    (limit.bind fun l => tradeByOrderId trades l.orderId)

/-- The trade that the broker's own evidence singles out. -/
def resolveByEvidence (position : BrokerPosition) : Option KnownTrade :=
  let optionTrades := trades.filter fun trade =>
    position.optionSymbol ≠ "" ∧ trade.optionSymbol = some position.optionSymbol
  let candidates := optionTrades.filter fun trade => !trade.contradictsEvidence position
  let timeMatches := candidates.filter (·.matchesOpenedAt position.openedAt)
  let priceMatches := (if timeMatches = [] then candidates else timeMatches).filter
    (·.matchesEntryPrice position.unitCost)
  (only? (candidates.filter KnownTrade.isOpen)).or ((only? timeMatches).or (only? priceMatches))

/-- `_resolve_trade`. -/
def resolveTrade (stop : Option IndexedStop) (limit : Option IndexedLimit)
    (position : BrokerPosition) : Option KnownTrade :=
  (resolveByOrders trades stop limit).or (resolveByEvidence trades position)

end Resolve

/-- `_parse_option_root`. -/
def parseOptionRoot (optionSymbol : String) : String :=
  String.ofList (optionSymbol.toList.takeWhile Char.isUpper)

section Track

variable (text : ℚ → String) (deployments : List ReconciledDeployment) (trades : List KnownTrade)

/-- The deployment that a symbol leaves no choice of, if it trades live. -/
def soleDeployment (optionSymbol : String) : Option ReconciledDeployment :=
  (only? (deployments.filter (·.symbol = parseOptionRoot optionSymbol))).filter
    fun deployment => !deployment.shadowOnly

/-- The deployment that owns a position of the contract, given the trade it was matched to. -/
def owner (optionSymbol : String) : Option KnownTrade → Option ReconciledDeployment
  | some trade =>
    (deployments.reverse.find? (·.deploymentId = trade.deploymentId)).filter
      fun deployment => !deployment.shadowOnly || isLiveEntryOrderId trade.entryOrderId
  | none => soleDeployment deployments optionSymbol

/-- `_synthetic_trade_id`; `text` writes a price or an instant. -/
def syntheticTradeId (deploymentId : String) (position : BrokerPosition) : String :=
  let token (value : Option ℚ) : String := (value.map text).getD "unknown"
  s!"recovered:{deploymentId}:{position.optionSymbol}:{position.quantity}:" ++
    s!"{token position.unitCost}:{token position.openedAt}"

def matchedSource (trade : KnownTrade) : String :=
  if isLiveEntryOrderId trade.entryOrderId && trade.isOpen then
    if trade.status = "pending_entry_reconcile" then liveEntryReconciliationHoldSource
    else "live_open"
  else "broker_sync"

/-- The tracked position of a matched or recovered one, with its protection and its exit attached. -/
def attach (deployment : ReconciledDeployment) (matched : Option KnownTrade)
    (stop : Option IndexedStop) (limit : Option IndexedLimit) (position : BrokerPosition) :
    TrackedPosition :=
  -- a stop for another quantity is left to the missing-protection pass
  let stop := stop.filter fun s => s.remainingQuantity = some position.quantity
  let exitPending := matched.any fun trade => trade.status = "exit_pending"
  let target := if exitPending then none else limit
  let exit := if exitPending then limit else none
  let truthy (price : Option ℚ) : Option ℚ := price.filter (· ≠ 0)
  { symbol := parseOptionRoot position.optionSymbol
    deploymentId := deployment.deploymentId
    tradeId := some ((matched.map KnownTrade.tradeId).getD
      (syntheticTradeId text deployment.deploymentId position))
    optionSymbol := some position.optionSymbol
    quantity := position.quantity
    entryPrice := matched.elim position.unitCost fun trade =>
      (truthy position.unitCost).or trade.entryPrice
    underlyingEntryPrice := matched.bind KnownTrade.underlyingEntryPrice
    entryTimestamp := matched.elim position.openedAt fun trade =>
      position.openedAt.or trade.entryTimestamp
    source := matched.elim "broker_recovered" matchedSource
    orderId := matched.bind KnownTrade.entryOrderId
    stopOrderId := stop.map IndexedStop.orderId
    stopPrice := stop.bind IndexedStop.price
    targetOrderId := target.map IndexedLimit.orderId
    targetPrice := target.bind IndexedLimit.price
    exitOrderId := (exit.map IndexedLimit.orderId).or (matched.bind KnownTrade.exitOrderId)
    exitLimitPrice := (truthy (exit.bind IndexedLimit.price)).or
      (matched.bind KnownTrade.exitLimitPrice)
    exitSubmittedAt := matched.bind KnownTrade.exitSubmittedAt
    exitMode := (matched.filter fun trade => trade.status = "exit_pending").bind KnownTrade.exitMode }

/-- What one position of the broker comes to, given the orders that are indexed for its contract. -/
def track (stop : Option IndexedStop) (limit : Option IndexedLimit) (position : BrokerPosition) :
    Option TrackedPosition :=
  let matched := resolveTrade trades stop limit position
  if position.isOption ∧ 0 < position.quantity then
    (owner deployments position.optionSymbol matched).map fun deployment =>
      attach text deployment matched stop limit position
  else none

def reconcilePublicPositions (positions : List BrokerPosition) (orders : List ListedOrder) :
    List TrackedPosition :=
  let (stops, limits) := indexOpenExitOrders orders
  positions.filterMap fun position =>
    track text deployments trades (stops position.optionSymbol) (limits position.optionSymbol) position

end Track

end Bhiksha.Live
