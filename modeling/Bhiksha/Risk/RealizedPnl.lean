import Mathlib.Algebra.BigOperators.Group.List.Basic
import Bhiksha.Python

/-! Trade and partial-fill records, and the realized P&L of today's live book. Instants are seconds;
a New York date is a day number. -/

namespace Bhiksha

/-- The columns of `trade_sessions` that the risk manager reads. -/
structure TradeRecord where
  tradeId : String
  deploymentId : String
  symbol : String
  quantity : ℤ := 0
  entryPrice : Option ℚ := none
  entryTimestamp : Option ℚ := none
  status : String := "pending_entry"
  entryOrderId : Option String := none
  stopPrice : Option ℚ := none
  exitPrice : Option ℚ := none
  exitFilledQuantity : Option ℤ := none
  exitFilledAt : Option ℚ := none
deriving DecidableEq, Repr

/-- The columns of a partial-fill row that the risk manager reads. -/
structure PartialFillRecord where
  id : Option ℤ
  tradeId : String
  closedQuantity : ℤ
  orderId : Option String
  fillPrice : Option ℚ := none
  fillQuantity : Option ℤ := none
  filledAt : Option ℚ := none
  abandonedReason : Option String := none
deriving DecidableEq, Repr

/-- The truth value of an optional text. -/
def isTruthy (text : Option String) : Bool := text.any fun s => s ≠ ""

def shadowEntryOrderId : String := "SHADOW_ENTRY"

def isLiveTrade (trade : TradeRecord) : Bool :=
  let orderId := trade.entryOrderId.getD ""
  orderId ≠ shadowEntryOrderId && !orderId.startsWith "DRY_RUN"

def isClosedTrade (trade : TradeRecord) : Bool := trade.status = "closed"

/-- A live trade that is not closed. -/
def isOpenLiveTrade (trade : TradeRecord) : Bool := isLiveTrade trade && !isClosedTrade trade

def realizedPnlUsd (trade : TradeRecord) : Option ℚ := do
  let entryPrice ← trade.entryPrice
  let exitPrice ← trade.exitPrice
  let quantity := trade.exitFilledQuantity.getD trade.quantity
  if quantity = 0 then none
  else some (Python.roundTo 2 ((exitPrice - entryPrice) * quantity * 100))

/-- What identifies a partial leg: its broker order, or else its row. -/
inductive LegIdentity where
  | order (id : String)
  | row (id : ℤ)
deriving DecidableEq, Repr

structure PartialLeg where
  fill : PartialFillRecord
  quantity : ℤ
  pnl : ℚ

def PartialFillRecord.identity (fill : PartialFillRecord) (index : ℕ) : LegIdentity :=
  if isTruthy fill.orderId then .order (fill.orderId.getD "") else .row (fill.id.getD index)

/-- A confirmed leg counts the smaller of the closed and the reported quantity. -/
def PartialFillRecord.legQuantity (fill : PartialFillRecord) : ℤ :=
  min fill.closedQuantity (fill.fillQuantity.getD fill.closedQuantity)

/-- The leg of a row that is not abandoned, is priced and closes a positive quantity. -/
def PartialFillRecord.leg? (fill : PartialFillRecord) (entryPrice : ℚ) : Option PartialLeg := do
  let fillPrice ← fill.fillPrice
  if isTruthy fill.abandonedReason ∨ fill.legQuantity ≤ 0 then none
  else some ⟨fill, fill.legQuantity, (fillPrice - entryPrice) * fill.legQuantity * 100⟩

/-- `selected[identity] = leg`, unless the order already has a leg that is no better. -/
def keepWorstLeg (identity : LegIdentity) (leg : PartialLeg) :
    List (LegIdentity × PartialLeg) → List (LegIdentity × PartialLeg)
  | [] => [(identity, leg)]
  | (other, current) :: rest =>
    if other = identity then
      (other, if leg.pnl < current.pnl then leg else current) :: rest
    else (other, current) :: keepWorstLeg identity leg rest

def confirmedPartialLegs (trade : TradeRecord) (partials : List PartialFillRecord) :
    List (PartialFillRecord × ℤ) :=
  match trade.entryPrice with
  | none => []
  | some entryPrice =>
    let selected := partials.zipIdx.foldl
      (fun selected (fill, index) =>
        match fill.leg? entryPrice with
        | some leg => keepWorstLeg (fill.identity index) leg selected
        | none => selected)
      []
    selected.map fun entry => (entry.2.fill, entry.2.quantity)

def partialRealizedPnlUsd (trade : TradeRecord) (fill : PartialFillRecord) (quantity : ℤ) :
    Option ℚ := do
  let entryPrice ← trade.entryPrice
  let fillPrice ← fill.fillPrice
  if isTruthy fill.abandonedReason ∨ quantity ≤ 0 then none
  else some (Python.roundTo 2 ((fillPrice - entryPrice) * quantity * 100))

/-- Realized P&L across the final residual and the confirmed banked legs. -/
def completeRealizedPnlUsd (trade : TradeRecord) (partials : List PartialFillRecord) : Option ℚ :=
  trade.entryPrice.bind fun entryPrice =>
    let legs := confirmedPartialLegs trade partials
    let partialPnl := (legs.map fun leg =>
      (leg.1.fillPrice.getD 0 - entryPrice) * leg.2 * 100).sum
    let bankedQuantity := (legs.map Prod.snd).sum
    let finalPnl := realizedPnlUsd trade
    if finalPnl = none ∧ bankedQuantity = 0 then none
    else some (Python.roundTo 2 (finalPnl.getD 0 + partialPnl))

section Today

variable (newYorkDate : ℚ → ℤ) (tradeDate : ℤ)

def filledToday (filledAt : Option ℚ) : Bool := filledAt.any fun t => newYorkDate t = tradeDate

/-- What one trade realized today. -/
def tradePnlToday (trade : TradeRecord) (partials : List PartialFillRecord) : ℚ :=
  let finalPnl : ℚ :=
    if isClosedTrade trade && filledToday newYorkDate tradeDate trade.exitFilledAt then
      (realizedPnlUsd trade).getD 0
    else 0
  let legs := (confirmedPartialLegs trade partials).filter fun leg =>
    filledToday newYorkDate tradeDate leg.1.filledAt
  finalPnl + (legs.map fun leg => (partialRealizedPnlUsd trade leg.1 leg.2).getD 0).sum

/-- A live trade that is still open or was closed by a fill of today. -/
def isRelevantToday (trade : TradeRecord) : Bool :=
  isLiveTrade trade &&
    !(isClosedTrade trade && !filledToday newYorkDate tradeDate trade.exitFilledAt)

def realizedLivePnlToday (trades : List TradeRecord)
    (partialsByTrade : String → List PartialFillRecord) : ℚ :=
  Python.roundTo 2 (((trades.filter (isRelevantToday newYorkDate tradeDate)).map fun trade =>
    tradePnlToday newYorkDate tradeDate trade (partialsByTrade trade.tradeId)).sum)

end Today

end Bhiksha
