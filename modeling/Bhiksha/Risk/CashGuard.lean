import Mathlib.Algebra.Order.Field.Rat
import Mathlib.Algebra.Order.BigOperators.Group.List
import Bhiksha.Library.Concurrent
import Bhiksha.Library.Table
import Bhiksha.Risk.RiskManager

/-! The settled-cash guard: its calls as programs over the budget repository and the broker, with an
await at every operation. -/

namespace Bhiksha

open Library

inductive ReservationStatus where
  | reserved
  | consumed
  | released
deriving DecidableEq, Repr

structure CashBudgetReservation where
  tradeId : String
  tradeDate : ℤ
  amount : ℚ
  status : ReservationStatus
deriving DecidableEq, Repr

structure ReservationTotals where
  reserved : ℚ
  consumed : ℚ
deriving DecidableEq, Repr

inductive CashGuardMode where
  | auto
  | on
  | off
deriving DecidableEq, Repr

structure CashGuardDetails where
  error : Option String := none
  requiredCash : Option ℚ := none
  reservedCash : Option ℚ := none
  remainingBudget : Option ℚ := none
  usableBudget : Option ℚ := none
  brokerCashOnlyBuyingPower : Option ℚ := none
  bufferPct : Option ℚ := none
  accountType : Option String := none
  cashGuardMode : Option CashGuardMode := none
deriving DecidableEq, Repr

structure CashGuardResult where
  enforced : Bool
  blocked : Bool
  reason : Option String := none
  details : CashGuardDetails := {}
deriving DecidableEq, Repr

section Settings

variable (getenv : String → Option String)

def cashGuardMode : CashGuardMode :=
  let named := (getenv "BHIKSHA_CASH_GUARD_MODE").bind fun raw =>
    match (Python.strip raw).toLower with
    | "auto" => some .auto
    | "on" => some .on
    | "off" => some .off
    | _ => none
  named.getD <|
    match getenv "BHIKSHA_ENFORCE_CASH_ONLY_BUYING_POWER" with
    | none => .auto
    | some legacy =>
      if (Python.strip legacy).toLower ∈ ["1", "true", "yes", "on"] then .on else .off

def cashGuardBufferPct : ℚ :=
  match (getenv "BHIKSHA_CASH_GUARD_BUFFER_PCT").bind Python.float? with
  | none => 5 / 100
  | some parsed => min (max parsed 0) (1 / 2)

end Settings

def shouldEnforce (mode : CashGuardMode) (accountType : Option String) : Bool :=
  match mode with
  | .on => true
  | .off => false
  | .auto => accountType ≠ some "MARGIN"

/-- What the guard awaits: the broker, its lock, and the repository. -/
inductive CashOp where
  | getAccountInfo
  | acquireLock
  | releaseLock
  | getDay (tradeDate : ℤ)
  | getPortfolio
  | upsertDay (day : CashBudgetDay)
  | releaseSyntheticReservations (tradeDate : ℤ)
  | reservationTotals (tradeDate : ℤ)
  | upsertReservation (reservation : CashBudgetReservation)
  | getReservation (tradeId : String)
  | markReservationStatus (tradeId : String) (status : ReservationStatus)

/-- The broker answers with `brokerageAccountType` and `cashOnlyBuyingPower`, or raises. -/
@[reducible] def CashOp.Answer : CashOp → Type
  | getAccountInfo => Except String (Option String)
  | getPortfolio => Except String (Option ℚ)
  | getDay _ => Option CashBudgetDay
  | reservationTotals _ => ReservationTotals
  | getReservation _ => Option CashBudgetReservation
  | _ => Unit

abbrev cashInterface : Interface := ⟨CashOp, CashOp.Answer⟩

namespace CashGuard

section Calls

variable (newYorkDate : ℚ → ℤ) (getenv : String → Option String)

/-- An account type that cannot be read counts as none. -/
def accountType (answer : Except String (Option String)) : Option String :=
  match answer with
  | .ok (some name) => if name = "" then none else some name.toUpper
  | _ => none

def newDay (tradeDate : ℤ) (accountType : Option String) (brokerCash : ℚ) : CashBudgetDay where
  tradeDate := tradeDate
  accountType := accountType
  brokerCashOnlyBuyingPower := brokerCash
  usableBudget := Python.roundTo 2 (max 0 (brokerCash * (1 - cashGuardBufferPct getenv)))
  bufferPct := cashGuardBufferPct getenv

def remainingBudget (day : CashBudgetDay) (totals : ReservationTotals) : ℚ :=
  Python.roundTo 2 (max 0 (day.usableBudget - (totals.reserved + totals.consumed)))

/-- The rest of `reserve_entry` once the day row is there. -/
def reserveOnDay (tradeId : String) (requiredCash : ℚ) (reserve : Bool) (tradeDate : ℤ)
    (accountType : Option String) (day : CashBudgetDay) :
    Program cashInterface CashGuardResult := do
  let mode := cashGuardMode getenv
  Program.perform (S := cashInterface) (.releaseSyntheticReservations tradeDate)
  let totals ← Program.perform (S := cashInterface) (.reservationTotals tradeDate)
  let remaining := remainingBudget day totals
  if remaining < requiredCash then
    return ⟨true, true, some "insufficient_internal_settled_cash_budget",
      { requiredCash := some requiredCash
        remainingBudget := some remaining
        usableBudget := some day.usableBudget
        brokerCashOnlyBuyingPower := some day.brokerCashOnlyBuyingPower
        bufferPct := some day.bufferPct
        accountType := accountType
        cashGuardMode := some mode }⟩
  else if !reserve then
    return ⟨true, false, none,
      { remainingBudget := some remaining
        usableBudget := some day.usableBudget
        accountType := accountType
        cashGuardMode := some mode }⟩
  else
    Program.perform (S := cashInterface)
      (.upsertReservation ⟨tradeId, tradeDate, requiredCash, .reserved⟩)
    return ⟨true, false, none,
      { reservedCash := some requiredCash
        remainingBudget := some (Python.roundTo 2 (max 0 (remaining - requiredCash)))
        usableBudget := some day.usableBudget
        brokerCashOnlyBuyingPower := some day.brokerCashOnlyBuyingPower
        bufferPct := some day.bufferPct
        accountType := accountType
        cashGuardMode := some mode }⟩

/-- What `reserve_entry` does under `_reservation_lock`. -/
def reserveLocked (tradeId : String) (requiredCash : ℚ) (reserve : Bool) (tradeDate : ℤ)
    (accountType : Option String) : Program cashInterface CashGuardResult := do
  let mode := cashGuardMode getenv
  match ← Program.perform (S := cashInterface) (.getDay tradeDate) with
  | some day => reserveOnDay getenv tradeId requiredCash reserve tradeDate accountType day
  | none =>
    match ← Program.perform (S := cashInterface) .getPortfolio with
    | .error e =>
      return ⟨true, true, some "cash_guard_portfolio_unavailable",
        { error := some e, cashGuardMode := some mode, accountType := accountType }⟩
    | .ok none =>
      return ⟨true, true, some "cash_guard_cash_unavailable",
        { cashGuardMode := some mode, accountType := accountType }⟩
    | .ok (some brokerCash) =>
      let day := newDay getenv tradeDate accountType brokerCash
      Program.perform (S := cashInterface) (.upsertDay day)
      reserveOnDay getenv tradeId requiredCash reserve tradeDate accountType day

def reserveEntry (tradeId : String) (requiredCash : ℚ) (timestamp : ℚ) (reserve : Bool) :
    Program cashInterface CashGuardResult := do
  let mode := cashGuardMode getenv
  if mode = .off then return ⟨false, false, none, {}⟩
  else
    let account := accountType (← Program.perform (S := cashInterface) .getAccountInfo)
    if !shouldEnforce mode account then
      return ⟨false, false, none, { cashGuardMode := some mode, accountType := account }⟩
    else
      Program.perform (S := cashInterface) .acquireLock
      let result ← reserveLocked getenv tradeId (Python.roundTo 2 (max requiredCash 0)) reserve
        (newYorkDate timestamp) account
      Program.perform (S := cashInterface) .releaseLock
      return result

def previewEntry (tradeId : String) (timestamp : ℚ) : Program cashInterface CashGuardResult :=
  reserveEntry newYorkDate getenv tradeId 0 timestamp false

def finalizeEntry (tradeId : String) : Program cashInterface Unit := do
  match ← Program.perform (S := cashInterface) (.getReservation tradeId) with
  | none => return ()
  | some reservation =>
    if reservation.status = .consumed then return ()
    else Program.perform (S := cashInterface) (.markReservationStatus tradeId .consumed)

def releaseEntry (tradeId : String) : Program cashInterface Unit := do
  match ← Program.perform (S := cashInterface) (.getReservation tradeId) with
  | none => return ()
  | some reservation =>
    if reservation.status = .released then return ()
    else Program.perform (S := cashInterface) (.markReservationStatus tradeId .released)

end Calls

end CashGuard

/-- The budget tables and the thread that holds `_reservation_lock`. -/
structure CashState where
  days : Table CashBudgetDay.tradeDate
  reservations : Table CashBudgetReservation.tradeId
  lock : Option ℕ := none

namespace CashState

variable (synthetic : String → Bool) (s : CashState)

def markReservationStatus (tradeId : String) (status : ReservationStatus) : CashState :=
  { s with
    reservations := s.reservations.update (fun r => r.tradeId = tradeId)
      (fun r => { r with status := status }) fun _ => rfl }

def upsertReservation (reservation : CashBudgetReservation) : CashState :=
  { s with
    reservations := s.reservations.upsert reservation
      (fun r => { reservation with tradeId := r.tradeId }) fun _ => rfl }

def upsertDay (day : CashBudgetDay) : CashState :=
  { s with days := s.days.upsert day (fun d => { day with tradeDate := d.tradeDate }) fun _ => rfl }

/-- The sweep over the trades whose entry order is a synthetic one. -/
def releaseSynthetic (tradeDate : ℤ) : CashState :=
  { s with
    reservations := s.reservations.update
      (fun r => r.tradeDate = tradeDate && r.status ≠ .released && synthetic r.tradeId)
      (fun r => { r with status := .released }) fun _ => rfl }

def totals (tradeDate : ℤ) : ReservationTotals where
  reserved := s.reservations.total fun r =>
    if r.tradeDate = tradeDate ∧ r.status = .reserved then r.amount else 0
  consumed := s.reservations.total fun r =>
    if r.tradeDate = tradeDate ∧ r.status = .consumed then r.amount else 0

/-- One operation of thread `i`; what the broker answers is not determined. -/
def Exec (i : ℕ) (s : CashState) : (op : CashOp) → op.Answer → CashState → Prop
  | .getAccountInfo, _, s' => s' = s
  | .acquireLock, _, s' => s.lock = none ∧ s' = { s with lock := some i }
  | .releaseLock, _, s' => s' = { s with lock := none }
  | .getDay tradeDate, ans, s' => ans = s.days.get? tradeDate ∧ s' = s
  | .getPortfolio, _, s' => s' = s
  | .upsertDay day, _, s' => s' = s.upsertDay day
  | .releaseSyntheticReservations tradeDate, _, s' => s' = s.releaseSynthetic synthetic tradeDate
  | .reservationTotals tradeDate, ans, s' => ans = s.totals tradeDate ∧ s' = s
  | .upsertReservation reservation, _, s' => s' = s.upsertReservation reservation
  | .getReservation tradeId, ans, s' => ans = s.reservations.get? tradeId ∧ s' = s
  | .markReservationStatus tradeId status, _, s' => s' = s.markReservationStatus tradeId status

end CashState

/-- A call of the guard. -/
inductive CashCall where
  | reserveEntry (tradeId : String) (requiredCash timestamp : ℚ) (reserve : Bool)
  | finalizeEntry (tradeId : String)
  | releaseEntry (tradeId : String)
deriving DecidableEq

def CashCall.body (newYorkDate : ℚ → ℤ) (getenv : String → Option String) :
    CashCall → Program cashInterface (Option CashGuardResult)
  | .reserveEntry tradeId requiredCash timestamp reserve => do
    return some (← CashGuard.reserveEntry newYorkDate getenv tradeId requiredCash timestamp reserve)
  | .finalizeEntry tradeId => do
    CashGuard.finalizeEntry tradeId
    return none
  | .releaseEntry tradeId => do
    CashGuard.releaseEntry tradeId
    return none

end Bhiksha
