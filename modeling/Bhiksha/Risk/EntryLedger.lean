import Bhiksha.Library.Coalesce
import Bhiksha.Library.Table
import Bhiksha.Library.Trace
import Bhiksha.Risk.SizedEntry

/-! The two ledgers behind the sized-entry consult: trade records and entry-risk reservations, and the
writes that planner and supervisor make to them. -/

namespace Bhiksha

open Library

namespace ReservationRow

def tradeId (row : ReservationRow) : String := row.val.tradeId

def mark (status : String) (row : ReservationRow) : ReservationRow :=
  ⟨{ row.val with status := status }, row.property⟩

/-- `ON CONFLICT(trade_id) DO UPDATE`: every column but the key is the new row's. -/
def overwrite (new old : ReservationRow) : ReservationRow :=
  ⟨{ new.val with tradeId := old.val.tradeId }, new.property⟩

end ReservationRow

/-- The writes of `_upsert_trade_sync` to the columns that are read here. A record of an open status
that carries no exit intent leaves a pending exit pending. -/
def TradeRecord.merge (record : TradeRecord) (exitIntent : Bool) (row : TradeRecord) : TradeRecord :=
  { record with
    tradeId := row.tradeId
    status :=
      if row.status = "exit_pending" ∧ record.status ∈ ["open_protected", "open_unprotected"] ∧
          exitIntent = false then row.status
      else record.status
    exitPrice := record.exitPrice.or row.exitPrice
    exitFilledQuantity := record.exitFilledQuantity.or row.exitFilledQuantity
    exitFilledAt := record.exitFilledAt.or row.exitFilledAt }

structure ExitFill where
  exitPrice : Option ℚ := none
  exitFilledQuantity : Option ℤ := none
  exitFilledAt : Option ℚ := none

def TradeRecord.close (fill : ExitFill) (row : TradeRecord) : TradeRecord :=
  { row with
    status := "closed"
    exitPrice := fill.exitPrice.or row.exitPrice
    exitFilledQuantity := fill.exitFilledQuantity.or row.exitFilledQuantity
    exitFilledAt := fill.exitFilledAt.or row.exitFilledAt }

structure EntryLedger where
  trades : Table TradeRecord.tradeId
  reservations : Table ReservationRow.tradeId

namespace EntryLedger

variable (ledger : EntryLedger)

def upsertTrade (record : TradeRecord) (exitIntent : Bool) : EntryLedger :=
  { ledger with trades := ledger.trades.upsert record (record.merge exitIntent) fun _ => rfl }

def markClosed (tradeId : String) (fill : ExitFill) : EntryLedger :=
  { ledger with
    trades := ledger.trades.update (fun row => row.tradeId = tradeId) (TradeRecord.close fill)
      fun _ => rfl }

def markClosedIfOpen (tradeId : String) (fill : ExitFill) : EntryLedger :=
  { ledger with
    trades := ledger.trades.update
      (fun row => row.tradeId = tradeId && row.status.toLower ≠ "closed") (TradeRecord.close fill)
      fun _ => rfl }

def upsertReservation (row : ReservationRow) : EntryLedger :=
  { ledger with reservations := ledger.reservations.upsert row row.overwrite fun _ => rfl }

def markReservation (tradeId status : String) : EntryLedger :=
  { ledger with
    reservations := ledger.reservations.update (fun row => row.tradeId = tradeId)
      (ReservationRow.mark status) fun _ => rfl }

def getOpenTrades : List TradeRecord := ledger.trades.rows.filter fun row => row.status ≠ "closed"

/-- The reserved rows whose trade is not closed. -/
def getActiveEntryRiskReservations : List EntryRiskReservation :=
  (ledger.reservations.rows.map Subtype.val).filter fun r =>
    r.status = "reserved" &&
      ledger.trades.rows.all fun row => row.tradeId ≠ r.tradeId || row.status.toLower ≠ "closed"

end EntryLedger

/-- What a consult meets apart from the ledgers. A failed ledger query or reservation write raises
inside the consult; a failed event append raises out of it. -/
structure SizedEntryConsult where
  entry : SizedEntry
  now : ℚ
  budgetDay : Except String (Option CashBudgetDay)
  recentTrades : Except String (List TradeRecord)
  partialFills : Except String (String → List PartialFillRecord)
  ledgerFailure : Option String := none
  upsertReservation : Except String Unit := .ok ()
  eventFailure : Bool := false

def SizedEntryConsult.reads (consult : SizedEntryConsult) (ledger : EntryLedger) : BookReads where
  now := consult.now
  budgetDay := consult.budgetDay
  recentTrades := consult.recentTrades
  partialFills := consult.partialFills
  closedTrades := .ok []
  openTrades := consult.ledgerFailure.elim (.ok ledger.getOpenTrades) .error
  reservations := consult.ledgerFailure.elim (.ok ledger.getActiveEntryRiskReservations) .error
  upsertReservation := consult.upsertReservation

inductive LedgerCall where
  | upsertTrade (record : TradeRecord) (exitIntent : Bool)
  | markClosed (tradeId : String) (fill : ExitFill)
  | markClosedIfOpen (tradeId : String) (fill : ExitFill)
  | reserveSizedEntry (consult : SizedEntryConsult)
  | releaseSizedEntry (tradeId : String)
  | commitSizedEntry (tradeId : String)

/-- The book of a session: the ledgers and the manager that consults them. -/
structure EntryBook where
  ledger : EntryLedger
  manager : RiskManager := {}

/-- What a finished consult leaves in the reservation ledger. -/
def EntryLedger.settle (ledger : EntryLedger) (result : SizedEntryResult) : EntryLedger :=
  let ledger := result.expired.foldl (fun ledger id => ledger.markReservation id "expired") ledger
  result.reservation.elim ledger ledger.upsertReservation

section Step

variable (newYorkDate : ℚ → ℤ) (settings : RiskSettings)

/-- The whole consult, atomic under `_sized_entry_lock`; nothing is returned where it raises. -/
def consultSizedEntry (consult : SizedEntryConsult) (book : EntryBook) :
    Option EntryDecision × EntryBook :=
  let (result, manager) := reserveSizedEntry newYorkDate settings consult.entry
    (consult.reads book.ledger) book.manager
  let raised := consult.entry.reserve && consult.eventFailure
  (if raised then none else some result.decision,
    ⟨book.ledger.settle result, manager⟩)

def ledgerStep (call : LedgerCall) (book : EntryBook) : Option EntryDecision × EntryBook :=
  match call with
  | .upsertTrade record exitIntent =>
    (none, { book with ledger := book.ledger.upsertTrade record exitIntent })
  | .markClosed tradeId fill => (none, { book with ledger := book.ledger.markClosed tradeId fill })
  | .markClosedIfOpen tradeId fill =>
    (none, { book with ledger := book.ledger.markClosedIfOpen tradeId fill })
  | .reserveSizedEntry consult => consultSizedEntry newYorkDate settings consult book
  | .releaseSizedEntry tradeId =>
    (none, { book with ledger := book.ledger.markReservation tradeId "released" })
  | .commitSizedEntry tradeId =>
    (none, { book with ledger := book.ledger.markReservation tradeId "committed" })

end Step

end Bhiksha
