import Bhiksha.ActivePlan.SheetRows
import Bhiksha.Execution.Broker
import Bhiksha.Persistence.TradeSession

/-! The manager of an open playbook trade: when it closes, and the order in which it takes the
protective orders down, sends the close and records it. -/

namespace Bhiksha.Playbook

open ActivePlan TradeStore Live

/-- What the readers of an execution packet look at. -/
structure ExecutionPacket where
  packetId : String
  version : ℤ
  status : String
  operatorApprovalStatus : String
  runtimeMode : String
  runtimeControls : Payload

/-- How the values of a JSON document are written out and read as numbers. -/
structure JsonReading where
  repr : Cell → String
  intText : String → Option ℤ
  floatText : String → Option ℚ

namespace JsonReading

variable (r : JsonReading)

/-- `str(payload.get(key, default))`. -/
def strOr (payload : Payload) (key default : String) : String :=
  match payload.lookup key with
  | some cell => cell.str r.repr
  | none => default

/-- `int(value)`. -/
def int (cell : Cell) : Except PyException ℤ :=
  match cell with
  | .int n => .ok n
  | .bool b => .ok (if b then 1 else 0)
  | .float x => .ok (Python.truncate x)
  | .text s =>
    match r.intText s with
    | some n => .ok n
    | none => .error (.valueError ("invalid literal for int() with base 10: " ++ Python.reprString s))
  | cell => .error (.typeError ("int() argument must be a string, a bytes-like object or a real number, not " ++
      Python.reprString cell.typeName))

/-- `int(payload.get(key, 0) or 0)`. -/
def intOrZero (payload : Payload) (key : String) : Except PyException ℤ :=
  if (payload.get key).truthy then r.int (payload.get key) else .ok 0

/-- `_optional_float`. -/
def optionalFloat : Cell → Option ℚ
  | .int n => some n
  | .bool b => some (if b then 1 else 0)
  | .float x => some x
  | .text s => r.floatText s
  | _ => none

end JsonReading

/-- `dict(value or {})` of a dictionary; the values that make none raise. -/
def dictOr (cell : Cell) : Except PyException Payload :=
  match cell with
  | .object fields => .ok fields
  | cell =>
    if cell.truthy then
      .error (.typeError (Python.reprString cell.typeName ++ " object is not iterable"))
    else .ok []

/-- `value is True` and `value is False`. -/
def isBool (b : Bool) : Cell → Bool
  | .bool c => c = b
  | _ => false

/-- What the process reads the documents with, and the texts that the broker's refusals carry. -/
structure PlaybookContext (V : Type) where
  codec : Codec V
  loadsPayload : String → JsonObject V
  reading : JsonReading
  cancelError : String → String
  submitError : String

structure PlaybookStore where
  trades : TradeDb

abbrev PlaybookM := Desk PlaybookStore

/-- `_trade_record_from_row`. -/
def tradeRecordFromRow {V : Type} (ctx : PlaybookContext V) (row : TradeSession) : TradeRecord V where
  tradeId := row.tradeId
  deploymentId := row.deploymentId
  symbol := row.symbol
  optionSymbol := row.optionSymbol
  quantity := row.quantity
  entryPrice := row.entryPrice
  underlyingEntryPrice := row.underlyingEntryPrice
  entryTimestamp := row.entryTimestamp
  status := row.status
  entryOrderId := row.entryOrderId
  stopOrderId := row.stopOrderId
  stopPrice := row.stopPrice
  targetOrderId := row.targetOrderId
  targetPrice := row.targetPrice
  exitOrderId := row.pendingExit.exitOrderId
  exitLimitPrice := row.pendingExit.exitLimitPrice
  exitSubmittedAt := row.pendingExit.exitSubmittedAt
  exitMode := row.pendingExit.exitMode
  exitPrice := (row.facts .exitPrice).bind real
  exitFilledQuantity := (row.facts .exitFilledQuantity).bind integer
  exitFilledAt := (row.facts .exitFilledAt).bind text
  exitOrderStatus := (row.facts .exitOrderStatus).bind text
  exitOrderType := (row.facts .exitOrderType).bind text
  exitBrokerPayload := ((row.facts .exitBrokerPayload).bind text).map ctx.loadsPayload
  exitRule := (row.facts .exitRule).bind text
  canLadder := row.canLadder
  frozen := row.frozen
where
  real : SqlValue → Option ℚ
    | .real q => some q
    | _ => none
  integer : SqlValue → Option ℤ
    | .integer z => some z
    | _ => none
  text : SqlValue → Option String
    | .text s => some s
    | _ => none

section Store

variable {V : Type} (ctx : PlaybookContext V)

/-- `get_open_trades`, of which the trade is the only one with its identity. -/
def openTrade (tradeId : String) (trades : TradeDb) : Option TradeSession :=
  (trades.rows.filter fun row => row.status ≠ "closed").find? fun row => row.tradeId = tradeId

/-- `_resolve_trade`. -/
def resolveTrade (tradeId : String) : PlaybookM (Option TradeSession) := do
  if tradeId = "" then return none
  let _ ← nextBeat
  return openTrade tradeId (← get).store.trades

def upsertTrade (record : String → TradeRecord V) : PlaybookM Unit := do
  let beat ← nextBeat
  modify fun world => { world with store :=
    { world.store with trades := upsertTradeSync ctx.codec (record beat.now) beat.now world.store.trades } }

/-- An event is appended; nothing here reads it. -/
def appendEvent : PlaybookM Unit := do
  let _ ← nextBeat

end Store

inductive ManagementStatus where
  | blocked
  | hold
  | exitWouldSubmit
  | exitSubmitted
deriving DecidableEq, Repr

inductive ManagementAction where
  | hold
  | exit
  | block
deriving DecidableEq, Repr

structure ManagementResult where
  status : ManagementStatus
  action : ManagementAction
  packetId : String
  packetVersion : ℤ
  tradeId : String
  symbol : String
  direction : String
  optionSymbol : String
  quantity : ℤ
  currentUnderlyingPrice : Option ℚ
  underlyingStopPrice : Option ℚ
  hardFlatTimeEt : String
  triggerReasons : List String
  blockReasons : List String
  canceledOrderIds : List String
  exitOrderId : Option String
  tradeState : String
deriving DecidableEq, Repr

/-- One call of the manager; the time is New York's time of day in microseconds, and the close order
is sent under a new identity. -/
structure ManagementCall where
  lifecycle : Payload
  packet : ExecutionPacket
  currentUnderlyingPrice : Option ℚ
  easternTime : ℤ
  dryRun : Bool
  closeOrderId : String

section Manage

variable {V : Type} (ctx : PlaybookContext V)

/-- `_packet_blocks` of the manager. -/
def managementPacketBlocks (packet : ExecutionPacket) : List String :=
  (if packet.status ≠ "approved" then ["packet_status_not_approved:" ++ packet.status] else []) ++
  (if packet.operatorApprovalStatus ≠ "approved" then ["packet_operator_approval_missing"] else []) ++
  (if packet.runtimeMode ≠ "live_approval_gated" then
    ["packet_runtime_mode_not_live_approval_gated:" ++ packet.runtimeMode] else []) ++
  (if !isBool false (packet.runtimeControls.get "shadow_only") then
    ["packet_shadow_only_not_disabled"] else []) ++
  (if !isBool true (packet.runtimeControls.get "live_ticket_required") then
    ["packet_live_ticket_required_missing"] else []) ++
  if !isBool true (packet.runtimeControls.get "live_management_required") then
    ["packet_live_management_required_missing"] else []

def manageableStatuses : List String := ["open_protected", "target_active", "open_unprotected"]

def lifecycleBlocks (payload : Payload) (trade : Option TradeSession) :
    Except PyException (List String) := do
  let quantity ← ctx.reading.intOrZero payload "quantity"
  let status := payload.get "status"
  let tradeBlocks : List String :=
    match trade with
    | none => ["open_trade_not_found"]
    | some row => if row.status ∈ manageableStatuses then [] else ["trade_not_open:" ++ row.status]
  return (if status.pyEq (.text "lifecycle_started") then []
      else ["lifecycle_status_not_started:" ++ status.str ctx.reading.repr]) ++
    (if (payload.get "lifecycle_started").truthy then [] else ["lifecycle_not_started"]) ++
    tradeBlocks ++
    (if Python.strip (ctx.reading.strOr payload "option_symbol" "") = "" then
      ["option_symbol_missing"] else []) ++
    if quantity ≤ 0 then ["quantity_missing"] else []

/-- `_is_hard_flat_due`; an hour or a minute that no clock has raises. -/
def isHardFlatDue (easternTime : ℤ) (hardFlatTimeEt : String) : Except PyException Bool :=
  let text := hardFlatTimeEt.toList
  let hours := text.takeWhile (· ≠ ':')
  match text.dropWhile (· ≠ ':') with
  | [] => .ok false
  | _ :: minutes =>
    match ctx.reading.intText (String.ofList hours), ctx.reading.intText (String.ofList minutes) with
    | some hour, some minute =>
      if hour < 0 ∨ 23 < hour then .error (.valueError "hour must be in 0..23")
      else if minute < 0 ∨ 59 < minute then .error (.valueError "minute must be in 0..59")
      else .ok ((hour * 60 + minute) * 60 * 1000000 ≤ easternTime)
    | _, _ => .ok false

def triggerReasons (direction : String) (currentUnderlyingPrice underlyingStopPrice : Option ℚ)
    (hardFlatTimeEt : String) (easternTime : ℤ) : Except PyException (List String) := do
  let due ← isHardFlatDue ctx easternTime hardFlatTimeEt
  let breached : List String :=
    match currentUnderlyingPrice, underlyingStopPrice with
    | some current, some stop =>
      if direction = "long" ∧ current ≤ stop ∨ direction = "short" ∧ stop ≤ current then
        ["underlying_stop_anchor_breached"]
      else []
    | _, _ => []
  return breached ++ if due then ["hard_flat_time_reached"] else []

/-- The protective orders of a trade that it names. -/
def exitOrderIds (trade : TradeSession) : List String :=
  [trade.stopOrderId, trade.targetOrderId].filterMap fun orderId => orderId.filter (· ≠ "")

/-- `_cancel_exit_orders`: the orders that are proved dead and unfilled, and a block for each other. -/
def cancelExitOrders : List String → PlaybookM (List String × List String)
  | [] => pure ([], [])
  | orderId :: rest => do
    let canceled ← cancelOrder orderId
    let (canceledOrderIds, blocks) ← cancelExitOrders rest
    if canceled then pure (orderId :: canceledOrderIds, blocks)
    else pure (canceledOrderIds,
      ("exit_protection_cancel_failed:" ++ orderId ++ ":" ++ ctx.cancelError orderId) :: blocks)

/-- How a call came out, and what it did at the broker. -/
structure ManagementStep where
  status : ManagementStatus
  action : ManagementAction
  blocks : List String
  canceledOrderIds : List String := []
  exitOrderId : Option String := none
  tradeState : String

/-- The close of a trade whose exit is due: the protective orders first, then a market order, then the
record of it. -/
def closeOpenTrade (call : ManagementCall) (trade : TradeSession) : PlaybookM ManagementStep := do
  let (canceledOrderIds, cancelBlocks) ← cancelExitOrders ctx (exitOrderIds trade)
  if cancelBlocks ≠ [] then
    return { status := .blocked, action := .block, blocks := cancelBlocks,
             canceledOrderIds := canceledOrderIds, tradeState := trade.status }
  let result ← submit .sell call.closeOrderId trade.quantity
  match result.orderId with
  | none =>
    return { status := .blocked, action := .block, blocks := [ctx.submitError],
             canceledOrderIds := canceledOrderIds, tradeState := trade.status }
  | some exitOrderId =>
    upsertTrade ctx fun now => { tradeRecordFromRow ctx trade with
      status := "exit_pending"
      exitOrderId := some exitOrderId
      exitSubmittedAt := some now
      exitMode := some .emergency }
    appendEvent
    return { status := .exitSubmitted, action := .exit, blocks := [],
             canceledOrderIds := canceledOrderIds, exitOrderId := some exitOrderId,
             tradeState := "exit_pending" }

def liftPy {α : Type} (result : Except PyException α) : PlaybookM α :=
  match result with
  | .ok a => pure a
  | .error e => throw (.raised e)

/-- What a call comes to, once the documents are read. -/
def managementStep (call : ManagementCall) (trade : Option TradeSession)
    (blocks triggers : List String) : PlaybookM ManagementStep :=
  let tradeState := trade.elim "blocked" TradeSession.status
  if blocks ≠ [] then
    pure { status := .blocked, action := .block, blocks := blocks, tradeState := tradeState }
  else if triggers = [] then
    pure { status := .hold, action := .hold, blocks := [], tradeState := tradeState }
  else
    match trade with
    | none => pure { status := .blocked, action := .exit, blocks := [], tradeState := tradeState }
    | some row =>
      if call.dryRun then
        pure { status := .exitWouldSubmit, action := .exit, blocks := [], tradeState := row.status }
      else closeOpenTrade ctx call row

def managePlaybookLiveTrade (call : ManagementCall) : PlaybookM ManagementResult := do
  let reading := ctx.reading
  let payload := call.lifecycle
  let trade ← resolveTrade (reading.strOr payload "trade_id" "")
  let tradeBlocks ← liftPy (lifecycleBlocks ctx payload trade)
  let managementSpec ← liftPy (dictOr (payload.get "management_spec"))
  let hardFlatTimeEt := reading.strOr managementSpec "hard_flat_time_et" "15:55"
  let direction := reading.strOr payload "direction" ""
  let underlyingStopPrice := reading.optionalFloat (payload.get "underlying_stop_price")
  let blocks := managementPacketBlocks call.packet ++ tradeBlocks ++
    if underlyingStopPrice = none then ["underlying_stop_price_missing"] else []
  let triggers ← liftPy
    (triggerReasons ctx direction call.currentUnderlyingPrice underlyingStopPrice hardFlatTimeEt
      call.easternTime)
  let step ← managementStep ctx call trade blocks triggers
  let quantity ← liftPy (reading.intOrZero payload "quantity")
  return {
    status := step.status
    action := step.action
    packetId := call.packet.packetId
    packetVersion := call.packet.version
    tradeId := reading.strOr payload "trade_id" ""
    symbol := reading.strOr payload "symbol" ""
    direction := direction
    optionSymbol := reading.strOr payload "option_symbol" ""
    quantity := quantity
    currentUnderlyingPrice := call.currentUnderlyingPrice
    underlyingStopPrice := underlyingStopPrice
    hardFlatTimeEt := hardFlatTimeEt
    triggerReasons := triggers
    blockReasons := step.blocks
    canceledOrderIds := step.canceledOrderIds
    exitOrderId := step.exitOrderId
    tradeState := step.tradeState }

end Manage

end Bhiksha.Playbook
