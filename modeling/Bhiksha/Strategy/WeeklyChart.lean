import Bhiksha.Library.Table
import Bhiksha.Python
import Bhiksha.Strategy.WeeklyBars

/-! The durable state of the weekly scenarios: what observation, reservation and settlement write to
the row of a deployment. -/

namespace Bhiksha.Weekly

open Library

inductive ScenarioStatus where
  | waiting
  | pending
  | filled
  | uncertain
  | invalidated
  | expired
deriving DecidableEq, Repr

def ScenarioStatus.text : ScenarioStatus → String
  | waiting => "waiting"
  | pending => "pending"
  | filled => "filled"
  | uncertain => "uncertain"
  | invalidated => "invalidated"
  | expired => "expired"

/-- The statuses that occupy a scenario. -/
def ScenarioStatus.occupies : ScenarioStatus → Bool
  | pending | filled | uncertain => true
  | _ => false

/-- The fields of `payload` that later code reads, and the evaluation it reports. -/
structure ScenarioData where
  recovery : Option String := none
  invalidationCoverage : Checkpoint := {}
  triggerCoverage : Checkpoint := {}
  missingHistoryFrom : Option ℚ := none
  invalidatedAt : Option ℚ := none
  confirmationAt : Option ℚ := none
  lastEvaluation : Option ℚ := none
  underlyingObservedAt : Option ℚ := none
  close : Option ℚ := none
  underlyingAgeSeconds : Option ℚ := none
  evaluationCoverage : Option String := none
  retryStartedAt : Option ℚ := none
  retryConfirmation : Option ℚ := none
  reason : Option String := none
deriving DecidableEq, Repr

/-- The window start of a frozen deployment, its only field that is read back here. -/
structure FrozenDeployment where
  entryWindowStartEt : Option (ℕ × ℕ)
deriving DecidableEq, Repr

/-- A row of `weekly_chart_state`. -/
structure ScenarioRow where
  deploymentId : String
  scenarioKey : String
  entryArm : String
  status : ScenarioStatus := .waiting
  payload : ScenarioData := {}
  tradeId : Option String := none
  frozenDeployment : Option FrozenDeployment := none
deriving DecidableEq, Repr

abbrev ScenarioDb := Table ScenarioRow.deploymentId

structure WeeklyControls where
  mode : String
  entryTimingComparison : String := "OFF"
  retrySeconds : ℚ
  maxEntryDistancePct : ℚ
  maxOpenPositions : ℤ
deriving DecidableEq, Repr

/-- The parameters of a deployment; the last two fields are those of its execution. -/
structure WeeklyParams where
  deploymentId : String
  scenarioKey : String
  entryArm : String := "baseline"
  controls : WeeklyControls
  admissionBlock : Option String := none
  baseDeploymentId : Option String := none
  validThrough : ℚ
  publishedAt : ℚ
  admittedAt : ℚ
  trigger : Condition
  tacticalInvalidation : Condition
  entryWindowStartEt : Option (ℕ × ℕ) := none
  executionWindowStartEt : Option (ℕ × ℕ) := none
  shadowOnly : Bool := true
deriving DecidableEq, Repr

structure SourceHealth where
  checkedAt : ℚ
  ok : Bool
  blockedDeployments : List String

/-- Why the source lets no entry through; `none` when it does. An unreadable file is no health. -/
def sourceBlock (params : WeeklyParams) (health : Option SourceHealth) (now : ℚ) : Option String :=
  if params.controls.mode ≠ "SHADOW" then some "weekly_operator_off"
  else if params.entryArm = "early_1m" ∧ params.controls.entryTimingComparison ≠ "PAIRED" then
    some "weekly_early_arm_off"
  else if params.admissionBlock.any (· ≠ "") then params.admissionBlock
  else if params.validThrough ≤ now then some "weekly_expired"
  else
    match health with
    | none => some "weekly_source_health_unavailable"
    | some health =>
      let age := now - health.checkedAt
      if !health.ok ∨ ¬(0 ≤ age ∧ age ≤ 24 * 3600) then
        some "weekly_source_unhealthy_or_stale"
      else if params.baseDeploymentId.getD params.deploymentId ∈ health.blockedDeployments then
        some "weekly_source_revision_requires_readmission"
      else none

section Open

/-- The row that `INSERT OR IGNORE` writes. -/
def WeeklyParams.newRow (params : WeeklyParams) : ScenarioRow where
  deploymentId := params.deploymentId
  scenarioKey := params.scenarioKey
  entryArm := params.entryArm

/-- A pending row of an earlier process: the ledger's fill wins, else the paper entry is gone. -/
def ScenarioRow.recover (fill : Option String) (row : ScenarioRow) : ScenarioRow :=
  if row.status = .pending then
    { row with
      status := if fill.isSome then .filled else .waiting
      tradeId := fill
      payload :=
        { row.payload with
          recovery := some
            (if fill.isSome then "filled_ledger_reconciled"
            else "paper_pending_cancelled_on_restart") } }
  else row

theorem ScenarioRow.recover_deploymentId (fill : Option String) (row : ScenarioRow) :
    (row.recover fill).deploymentId = row.deploymentId := by
  unfold ScenarioRow.recover
  split <;> rfl

/-- `INSERT OR IGNORE`. -/
def insertRow (params : WeeklyParams) (db : ScenarioDb) : ScenarioDb :=
  db.upsert params.newRow id fun _ => rfl

/-- The opening of a transaction, with the fill that the trade ledger holds for the deployment. -/
def openState (params : WeeklyParams) (recovered : Bool) (fill : Option String) (db : ScenarioDb) :
    ScenarioDb :=
  let db := insertRow params db
  if recovered then db
  else
    db.update (fun row => row.deploymentId = params.deploymentId) (ScenarioRow.recover fill)
      (ScenarioRow.recover_deploymentId fill)

end Open

section Observe

variable (calendar : ExchangeCalendar)

/-- The instant from which entries are retried: no earlier than the session's window. -/
def retryAnchor (params : WeeklyParams) (window : Option (ℕ × ℕ)) (confirmed : ℚ) :
    Except PyException ℚ :=
  let date := calendar.newYorkDate confirmed
  let day := if params.trigger.timeframe = .daily then calendar.nextSession date else date
  match calendar.session day with
  | none => .error (.typeError "cannot unpack non-iterable NoneType object")
  | some (opening, _) =>
    let (hour, minute) := window.getD (9, 35)
    .ok (max confirmed (calendar.newYorkTime (calendar.newYorkDate opening) hour minute))

/-- The window of the frozen deployment, or else that of the parameters. -/
def entryWindow (params : WeeklyParams) (frozen : Option FrozenDeployment) : Option (ℕ × ℕ) :=
  (frozen.bind FrozenDeployment.entryWindowStartEt).or params.entryWindowStartEt

def retryTimeBlock (params : WeeklyParams) (data : ScenarioData) (now : ℚ)
    (frozen : Option FrozenDeployment) : Except PyException (Option String) :=
  match data.confirmationAt with
  | none => .ok none
  | some confirmed => do
    let anchor ← retryAnchor calendar params (entryWindow params frozen) confirmed
    if now < anchor then return some "weekly_waiting_entry_window"
    else if params.controls.retrySeconds < now - anchor then
      return some "weekly_retry_window_expired"
    else return none

/-- The earliest of some instants. -/
def earliest : List ℚ → Option ℚ
  | [] => none
  | t :: ts => some (ts.foldl min t)

def latest : List ℚ → Option ℚ
  | [] => none
  | t :: ts => some (ts.foldl max t)

/-- The last row of the frame by time, of equal ones the later. -/
def latestRow : List MinuteBar → Option MinuteBar
  | [] => none
  | row :: rows =>
    some (rows.foldl (fun last row => if last.timestamp ≤ row.timestamp then row else last) row)

/-- The instant from which bars count. -/
def WeeklyParams.boundary (params : WeeklyParams) : ℚ := max params.publishedAt params.admittedAt

/-- The tactical invalidations that an observation newly confirms. -/
def newInvalidations (params : WeeklyParams) (frame : List MinuteBar) (now : ℚ)
    (data : ScenarioData) : Coverage :=
  advanceCoverage calendar frame params.tacticalInvalidation now params.boundary
    data.invalidationCoverage

def newTriggers (params : WeeklyParams) (frame : List MinuteBar) (now : ℚ)
    (data : ScenarioData) : Coverage :=
  advanceCoverage calendar frame params.trigger now params.boundary data.triggerCoverage

/-- A daily confirmation moves to the last trigger; any other stays the first. -/
def confirmation (params : WeeklyParams) (data : ScenarioData) (triggers : List ℚ) : Option ℚ :=
  if params.trigger.timeframe = .daily ∧ triggers ≠ [] then latest triggers
  else data.confirmationAt.or (earliest triggers)

/-- The payload and the status once the bars are covered. -/
def coveredPayload (params : WeeklyParams) (frame : List MinuteBar) (now : ℚ)
    (status : ScenarioStatus) (data : ScenarioData) : ScenarioStatus × ScenarioData :=
  let invalid := newInvalidations calendar params frame now data
  let triggers := newTriggers calendar params frame now data
  let invalidates : Bool := invalid.confirmed ≠ [] ∧ status ≠ .filled
  -- A pending row keeps its status here; only the payload says that it is invalidated.
  (if invalidates ∧ status ≠ .pending then .invalidated else status,
    { data with
      invalidationCoverage := invalid.checkpoint
      triggerCoverage := triggers.checkpoint
      missingHistoryFrom := earliest (invalid.gap.toList ++ triggers.gap.toList)
      invalidatedAt := if invalidates then data.invalidatedAt.or (earliest invalid.confirmed)
        else data.invalidatedAt
      confirmationAt := confirmation params data triggers.confirmed })

/-- `reason or candidate`, for a candidate under its condition. -/
def orReason (reason : Option String) (condition : Prop) [Decidable condition] (text : String) :
    Option String :=
  reason.or (if condition then some text else none)

/-- The last branch: a confirmation whose window, price and distance are checked. -/
def confirmedReason (params : WeeklyParams) (frozen : Option FrozenDeployment) (now close : ℚ)
    (confirmed : ℚ) (reason : Option String) : Except PyException (ℚ × Option String) := do
  let reason :=
    orReason reason
      (params.trigger.timeframe = .daily ∧
        calendar.newYorkDate now ≠ calendar.nextSession (calendar.newYorkDate confirmed))
      "weekly_waiting_next_session_confirmation"
  let anchor ← retryAnchor calendar params (entryWindow params frozen) confirmed
  let reason := orReason reason (now < anchor) "weekly_waiting_entry_window"
  let reason :=
    orReason reason (params.controls.retrySeconds < now - anchor) "weekly_retry_window_expired"
  let reason :=
    orReason reason (params.trigger.matches close = false) "weekly_price_no_longer_beyond_trigger"
  if params.trigger.price = 0 then .error .zeroDivisionError
  else
    return (anchor,
      orReason reason (params.controls.maxEntryDistancePct < |close / params.trigger.price - 1|)
        "weekly_entry_distance_exceeded")

/-- What an observation writes to the row of its deployment. -/
def observeRow (params : WeeklyParams) (frame : List MinuteBar) (now : ℚ)
    (health : Option SourceHealth) (row : ScenarioRow) : Except PyException ScenarioRow :=
  match latestRow frame with
  | none => .error (.valueError "list index out of range")
  | some bar =>
    let observed := bar.timestamp + 60
    let age := now - observed
    let covered := coveredPayload calendar params frame now row.status row.payload
    let status := covered.1
    let data :=
      { covered.2 with
        lastEvaluation := some now
        underlyingObservedAt := some observed
        close := some bar.close
        underlyingAgeSeconds := some age
        evaluationCoverage := some
          (if covered.2.missingHistoryFrom.isSome ∨ ¬(0 ≤ age ∧ age ≤ 120) then "incomplete"
          else "observed") }
    let reason := sourceBlock params health now
    let write (status : ScenarioStatus) (data : ScenarioData) (reason : Option String) :
        ScenarioRow :=
      { row with
        status := status
        payload := { data with reason := some (reason.getD "weekly_confirmed") } }
    if data.invalidatedAt.isSome ∧ status ≠ .filled then
      .ok (write status data (some "weekly_invalidated"))
    else if status = .filled ∨ status = .invalidated ∨ status = .uncertain then
      .ok (write status data (some ("weekly_" ++ status.text)))
    else if params.validThrough ≤ now then .ok (write .expired data (some "weekly_expired"))
    else if ¬(0 ≤ age ∧ age ≤ 120) then .ok (write status data (some "weekly_underlying_stale"))
    else if data.missingHistoryFrom.isSome then
      .ok (write status data (reason.or (some "weekly_confirmation_data_gap")))
    else
      match data.confirmationAt with
      | none => .ok (write status data (reason.or (some "weekly_waiting_confirmation")))
      | some confirmed => do
        let (anchor, reason) ←
          confirmedReason calendar params row.frozenDeployment now bar.close confirmed reason
        return write status
          { data with retryStartedAt := some anchor, retryConfirmation := some confirmed } reason

end Observe

section Reserve

variable (calendar : ExchangeCalendar)

/-- The rows that occupy the scenario and arm. -/
def occupiedCount (params : WeeklyParams) (db : ScenarioDb) : ℕ :=
  db.count fun row =>
    row.scenarioKey = params.scenarioKey ∧ row.entryArm = params.entryArm ∧ row.status.occupies

def pendingCount (params : WeeklyParams) (db : ScenarioDb) : ℕ :=
  db.count fun row =>
    row.entryArm = params.entryArm ∧ (row.status = .pending ∨ row.status = .uncertain)

/-- The row of a deployment set to a status. -/
def setRow (deploymentId : String) (f : ScenarioRow → ScenarioRow)
    (hf : ∀ row, (f row).deploymentId = row.deploymentId) (db : ScenarioDb) : ScenarioDb :=
  db.update (fun row => row.deploymentId = deploymentId) f hf

/-- The body of `reserve`'s transaction: why it is refused, or the row it marks pending. -/
def reserveBody (params : WeeklyParams) (now : ℚ) (openCount : ℤ) (db : ScenarioDb) :
    Except PyException (Option String × ScenarioDb) :=
  match db.get? params.deploymentId with
  | none => .error (.typeError "NoneType object is not subscriptable")
  | some row =>
    if row.status ≠ .waiting ∨ row.payload.reason ≠ some "weekly_confirmed" then
      .ok (some "weekly_not_eligible", db)
    else do
      match ← retryTimeBlock calendar params row.payload now row.frozenDeployment with
      | some reason => return (some reason, db)
      | none =>
        match row.payload.lastEvaluation with
        | none => .error (.keyError "last_evaluation")
        | some lastEvaluation =>
          if 120 < now - lastEvaluation then return (some "weekly_evaluation_stale", db)
          else if 0 < occupiedCount params db then
            return (some "weekly_scenario_already_reserved_or_consumed", db)
          else if params.controls.maxOpenPositions ≤ pendingCount params db + openCount then
            return (some "weekly_max_open_positions", db)
          else
            return (none, setRow params.deploymentId
              (fun row =>
                { row with
                  status := .pending
                  frozenDeployment := some ⟨params.executionWindowStartEt⟩ })
              (fun _ => rfl) db)

/-- The outcome that settles a reservation. -/
inductive Settlement where
  | waiting
  | filled
  | uncertain
deriving DecidableEq, Repr

/-- What `transition` writes: no status undoes consumption or a confirmed invalidation. -/
def ScenarioRow.settle (settlement : Settlement) (tradeId : Option String) (row : ScenarioRow) :
    ScenarioRow :=
  match settlement with
  | .waiting =>
    if row.status = .pending then
      { row with
        status := if row.payload.invalidatedAt.isSome then .invalidated else .waiting }
    else row
  | .filled => { row with status := .filled, tradeId := tradeId.or row.tradeId }
  | .uncertain => { row with status := .uncertain, tradeId := tradeId.or row.tradeId }

theorem ScenarioRow.settle_deploymentId (settlement : Settlement) (tradeId : Option String)
    (row : ScenarioRow) : (row.settle settlement tradeId).deploymentId = row.deploymentId := by
  cases settlement with
  | waiting =>
    simp only [ScenarioRow.settle]
    split <;> rfl
  | filled => rfl
  | uncertain => rfl

end Reserve

end Bhiksha.Weekly
