import Bhiksha.ActivePlan.SheetRows
import Bhiksha.Library.AssocList

/-! The ledger of signal attempts: which starts have no outcome, what a startup does about each of them,
and how the owner's status counts them. -/

namespace Bhiksha.Attempts

open ActivePlan Library

def attemptEvent : String := "cartographer_signal_attempt"

def outcomeEvent : String := "cartographer_signal_attempt_outcome"

def recoveryEvent : String := "cartographer_signal_attempt_recovery"

/-- A dictionary: no key stands in it twice. -/
structure Dict where
  fields : Payload
  nodup : (fields.map Prod.fst).Nodup

namespace Dict

def get (dict : Dict) (key : String) : Cell := Payload.get dict.fields key

/-- `{**dict, **other}`. -/
def merge (dict other : Dict) : Dict :=
  ⟨Payload.merge dict.fields other.fields, Payload.keys_merge_nodup dict.nodup other.fields⟩

theorem lookup_merge (dict other : Dict) (key : String) :
    (dict.merge other).fields.lookup key = (other.fields.lookup key).or (dict.fields.lookup key) :=
  Payload.lookup_merge other.nodup key

def empty : Dict := ⟨[], List.nodup_nil⟩

/-- The dictionary of a list of assignments. -/
def ofFields (fields : Payload) : Dict :=
  ⟨Payload.merge empty.fields fields, Payload.keys_merge_nodup empty.nodup fields⟩

end Dict

/-- A row of the event ledger; its payload is absent where the stored text is no JSON object. -/
structure LedgerRow where
  eventType : String
  payload : Option Dict

structure AttemptEvent where
  eventType : String
  payload : Dict

/-- How values are written out and what texts denote. -/
structure Reading where
  repr : Cell → String
  /-- The instant of an ISO text, in seconds; a text without an offset is read as UTC. -/
  instant : String → Option ℚ
  /-- Whether the text denotes a positive number. -/
  positiveText : String → Bool
  /-- The New York date of an instant. -/
  newYorkDate : ℚ → String
  isoformat : ℚ → String
  /-- The first thirty-two digits of the digest of a text. -/
  digest : String → String

namespace Reading

variable (r : Reading)

/-- `str(value or "")`. -/
def text (cell : Cell) : String := if cell.truthy then cell.str r.repr else ""

def parseTimestamp (cell : Cell) : Option ℚ :=
  if cell.truthy then r.instant (cell.str r.repr) else none

end Reading

/-- `first or second`. -/
def orElse (first second : Cell) : Cell := if first.truthy then first else second

def isTrue : Cell → Bool
  | .bool b => b
  | _ => false

section Load

def loadedEventTypes : List String :=
  [attemptEvent, outcomeEvent, recoveryEvent, "signal_decision", "trade_plan",
    "entry_liquidity_retry_scheduled"]

def LedgerRow.loaded (row : LedgerRow) : Bool := row.eventType ∈ loadedEventTypes

def LedgerRow.event? (row : LedgerRow) : Option AttemptEvent :=
  row.payload.map fun payload => ⟨row.eventType, payload⟩

def attemptLimit : ℕ := 2000

/-- The last `limit` rows of the loaded kinds, oldest first. -/
def slice (limit : ℕ) (rows : List LedgerRow) : List LedgerRow :=
  (rows.filter LedgerRow.loaded).rtake limit

def loadAttemptEvents (limit : ℕ) (rows : List LedgerRow) : List AttemptEvent :=
  (slice limit rows).filterMap LedgerRow.event?

end Load

inductive TerminalOutcome where
  | execution
  | blocked
  | failure
  | infrastructureCensored
deriving DecidableEq, Repr

def TerminalOutcome.value : TerminalOutcome → String
  | .execution => "execution"
  | .blocked => "blocked"
  | .failure => "failure"
  | .infrastructureCensored => "infrastructure_censored"

def attemptOutcomePayload (context : Dict) (outcome : TerminalOutcome) (reason : String)
    (details : Payload) : Dict :=
  context.merge (.ofFields
    [("outcome", .text outcome.value), ("reason", .text reason), ("details", .object details)])

section Unresolved

variable (r : Reading)

def AttemptEvent.attemptId (event : AttemptEvent) : String :=
  r.text (event.payload.get "signal_attempt_id")

structure AttemptIndex where
  starts : List (String × Dict)
  outcomes : List (String × List Dict)
  tradePlans : List (String × List Dict)
  recoveries : List String

def AttemptIndex.empty : AttemptIndex := ⟨[], [], [], []⟩

/-- `collected[key].append(item)` on a dictionary of lists. -/
def collect (collected : List (String × List Dict)) (key : String) (item : Dict) :
    List (String × List Dict) :=
  put key ((collected.lookup key).getD [] ++ [item]) collected

/-- The start that a signal's decision stands for when the attempt's own row is missing. -/
def decisionStart (attemptId : String) (payload : Dict) : Dict :=
  let deploymentId := r.text (payload.get "deployment_id")
  .ofFields
    [("signal_attempt_id", .text attemptId),
      ("signal_id", .text ((orElse (payload.get "signal_id") (.text deploymentId)).str r.repr)),
      ("deployment_id", .text deploymentId),
      ("symbol", payload.get "symbol"),
      ("signal_timestamp", payload.get "timestamp"),
      ("reason", orElse (payload.get "reason") (.list [])),
      ("direction", payload.get "direction"),
      ("features", orElse (payload.get "features") (.object []))]

def isDecisionEvent (eventType : String) : Bool :=
  eventType = "signal_decision" || eventType = "signal_evaluation"

namespace AttemptIndex

def absorb (index : AttemptIndex) (event : AttemptEvent) : AttemptIndex :=
  let attemptId := event.attemptId r
  if isDecisionEvent event.eventType then
    if !isTrue (event.payload.get "signal") || attemptId = "" then index
    else if (index.starts.lookup attemptId).isSome then index
    else { index with starts := put attemptId (decisionStart r attemptId event.payload) index.starts }
  else if event.eventType = attemptEvent ∧ attemptId ≠ "" then
    let start :=
      match index.starts.lookup attemptId with
      | none => event.payload
      | some existing => existing.merge event.payload
    { index with starts := put attemptId start index.starts }
  else if event.eventType = outcomeEvent then
    if attemptId = "" then index
    else { index with outcomes := collect index.outcomes attemptId event.payload }
  else if event.eventType = "trade_plan" ∧ attemptId ≠ "" then
    { index with tradePlans := collect index.tradePlans attemptId event.payload }
  else if event.eventType = recoveryEvent then
    if attemptId = "" then index
    else { index with recoveries := index.recoveries ++ [attemptId] }
  else index

def outcomesOf (index : AttemptIndex) (attemptId : String) : List Dict :=
  (index.outcomes.lookup attemptId).getD []

def tradePlansOf (index : AttemptIndex) (attemptId : String) : List Dict :=
  (index.tradePlans.lookup attemptId).getD []

def pending (index : AttemptIndex) (attemptId : String) (start : Dict) : Dict :=
  let objects (dicts : List Dict) : Cell := .list (dicts.map fun dict => .object dict.fields)
  start.merge (.ofFields
    [("outcome_count", .int (index.outcomesOf attemptId).length),
      ("outcomes", objects (index.outcomesOf attemptId)),
      ("trade_plans", objects (index.tradePlansOf attemptId)),
      ("recovery_attempted", .bool (attemptId ∈ index.recoveries))])

end AttemptIndex

def attemptIndex (events : List AttemptEvent) : AttemptIndex :=
  events.foldl (AttemptIndex.absorb r) AttemptIndex.empty

def unresolvedAttempts (events : List AttemptEvent) : List Dict :=
  let index := attemptIndex r events
  index.starts.filterMap fun start =>
    if (index.outcomesOf start.1).isEmpty then some (index.pending start.1 start.2) else none

end Unresolved

section Accounting

variable (r : Reading)

/-- What the owner's status counts from. -/
structure TriggerIndex where
  starts : List (String × Dict)
  outcomes : List (String × List Dict)

/-- The identity of a signal that carries none. -/
def signalAttemptId (deploymentId : String) (timestamp : ℚ) (signalId : String) : String :=
  "sa-v1-" ++ r.digest ("||" ++ (if signalId = "" then deploymentId else signalId) ++ "|" ++
    deploymentId ++ "|" ++ r.isoformat timestamp)

/-- A trading date that is given excludes the starts of other days. -/
def excluded (tradingDate : Option String) (timestamp : ℚ) : Bool :=
  match tradingDate with
  | none | some "" => false
  | some date => r.newYorkDate timestamp ≠ date

def excluded? (tradingDate : Option String) (timestamp : Option ℚ) : Bool :=
  match tradingDate with
  | none | some "" => false
  | some date =>
    match timestamp with
    | none => true
    | some timestamp => r.newYorkDate timestamp ≠ date

def TriggerIndex.absorb (tradingDate : Option String) (index : TriggerIndex) (event : AttemptEvent) :
    TriggerIndex :=
  let attemptId := event.attemptId r
  if isDecisionEvent event.eventType ∧ isTrue (event.payload.get "signal") then
    let deploymentId := r.text (event.payload.get "deployment_id")
    if ¬"mc-v1-".toList <+: deploymentId.toList then index
    else
      let timestamp := (r.parseTimestamp (event.payload.get "timestamp")).getD 0
      if excluded r tradingDate timestamp then index
      else
        let key := if attemptId = "" then signalAttemptId r deploymentId timestamp deploymentId
          else attemptId
        if (index.starts.lookup key).isSome then index
        else
          let start := Dict.ofFields
            [("signal_attempt_id", .text key),
              ("signal_id",
                .text ((orElse (event.payload.get "signal_id") (.text deploymentId)).str r.repr)),
              ("deployment_id", .text deploymentId),
              ("signal_timestamp", .text (r.isoformat timestamp)),
              ("legacy", .bool !(event.payload.get "signal_attempt_id").truthy)]
          { index with starts := put key start index.starts }
  else if event.eventType = attemptEvent ∧ attemptId ≠ "" then
    if excluded? r tradingDate (r.parseTimestamp (event.payload.get "signal_timestamp")) then index
    else
      let start :=
        match index.starts.lookup attemptId with
        | none => event.payload
        | some existing => existing.merge event.payload
      { index with starts := put attemptId start index.starts }
  else if event.eventType = outcomeEvent ∧ attemptId ≠ "" then
    { index with outcomes := collect index.outcomes attemptId event.payload }
  else index

def triggerIndex (tradingDate : Option String) (events : List AttemptEvent) : TriggerIndex :=
  events.foldl (TriggerIndex.absorb r tradingDate) ⟨[], []⟩

/-- How a start stands: under one known outcome, open, or with several outcomes. -/
inductive Standing where
  | counted (outcome : TerminalOutcome)
  | unresolved
  | duplicate
deriving DecidableEq, Repr

def terminalOutcomes : List TerminalOutcome := [.execution, .blocked, .failure, .infrastructureCensored]

def TriggerIndex.standing (index : TriggerIndex) (attemptId : String) : Standing :=
  match (index.outcomes.lookup attemptId).getD [] with
  | [] => .unresolved
  | [payload] =>
    match terminalOutcomes.find? fun outcome => outcome.value = r.text (payload.get "outcome") with
    | some outcome => .counted outcome
    | none => .unresolved
  | _ => .duplicate

structure TriggerAccounting where
  trueTriggers : ℕ
  executedAttempts : ℕ
  legitimateBlocks : ℕ
  explicitFailures : ℕ
  infrastructureCensored : ℕ
  accounted : ℕ
  remainder : ℤ
  unresolvedAttemptIds : List String
  duplicateOutcomeAttemptIds : List String
  status : String
deriving DecidableEq, Repr

def triggerAccounting (events : List AttemptEvent) (tradingDate : Option String) :
    TriggerAccounting :=
  let index := triggerIndex r tradingDate events
  let ids := index.starts.map Prod.fst
  let count (outcome : TerminalOutcome) : ℕ := ids.countP fun id => index.standing r id = .counted outcome
  let unresolved := ids.filter fun id => index.standing r id = .unresolved
  let duplicate := ids.filter fun id => index.standing r id = .duplicate
  let accounted := count .execution + count .blocked + count .failure + count .infrastructureCensored
  let remainder : ℤ := ids.length - accounted
  { trueTriggers := ids.length
    executedAttempts := count .execution
    legitimateBlocks := count .blocked
    explicitFailures := count .failure
    infrastructureCensored := count .infrastructureCensored
    accounted := accounted
    remainder := remainder
    unresolvedAttemptIds := unresolved.mergeSort
    duplicateOutcomeAttemptIds := duplicate.mergeSort
    status := if remainder = 0 ∧ duplicate = [] then "healthy" else "attention" }

end Accounting

section Recovery

inductive RecoveryAction where
  | censor
  | defer
  | replay
deriving DecidableEq, Repr

def recoveryAction (r : Reading) (attempt : Dict) (now : ℚ) (shadowOnly hasExistingEntry : Bool) :
    RecoveryAction × String :=
  if (attempt.get "recovery_attempted").truthy then (.censor, "recovery_already_attempted")
  else if !shadowOnly then (.censor, "live_replay_forbidden")
  else if hasExistingEntry then (.censor, "existing_entry_or_trade")
  else
    match r.parseTimestamp (attempt.get "valid_after"), r.parseTimestamp (attempt.get "valid_through") with
    | some validAfter, some validThrough =>
      if now < validAfter then (.defer, "observation_not_yet_valid")
      else if validThrough < now then (.censor, "chart_entry_observation_stale")
      else
        match r.parseTimestamp (attempt.get "signal_timestamp") with
        | none => (.censor, "freshness_contract_missing")
        | some observed =>
          if 60 < now - observed then (.censor, "chart_entry_observation_stale")
          else (.replay, "fresh_shadow_recovery")
    | _, _ => (.censor, "freshness_contract_missing")

structure Deployment where
  shadowOnly : Bool
  strategy : Cell
  execution : Cell
  risk : Cell
  exit : Cell
  metadata : Payload

/-- The operator's intent as a scheduled retry froze it. -/
def Deployment.current (deployment : Deployment) : Payload :=
  [("strategy", deployment.strategy), ("execution", deployment.execution), ("risk", deployment.risk),
    ("exit", deployment.exit), ("source_metadata", .object deployment.metadata)]

/-- A row that another part of the session appends: no recovery marker. -/
structure SessionRow extends LedgerRow where
  notRecovery : eventType ≠ recoveryEvent

/-- What becomes of a replay: the decision is not built or its marker not written, or the signal is
handled, which leaves rows and may raise. -/
inductive Replay where
  | unmarked (error : String)
  | handled (rows : List SessionRow) (error : Option String)

/-- What a startup finds beside the ledger. -/
structure Startup where
  deploymentsById : String → Option Deployment
  recentTrades : Except String (List String)
  live : Bool
  now : ℚ
  replay : Dict → Replay

/-- `set` and `dict` lookups refuse the mutable containers. -/
def hashable (cell : Cell) : Except Abort Cell :=
  match cell with
  | .list _ | .object _ => .error (.typeError ("unhashable type: " ++ Python.reprString cell.typeName))
  | _ => .ok cell

def consumedBy (deploymentsById : String → Option Deployment) (event : AttemptEvent) :
    Except Abort (Option String) := do
  match ← hashable (event.payload.get "deployment_id") with
  | .text deploymentId =>
    match deploymentsById deploymentId with
    | none => return none
    | some deployment =>
      let scheduled := event.eventType = "entry_liquidity_retry_scheduled" ∧
        (event.payload.get "manual_intent").truthy ∧
        (Cell.object deployment.current).pyEq (event.payload.get "manual_intent")
      let settled := event.eventType = outcomeEvent ∧
        (event.payload.get "reason").pyEq (.text "liquidity_retry_scheduled") ∧
        (event.payload.get "signal_id").pyEq (Payload.get deployment.metadata "signal_id")
      return if scheduled ∨ settled then some deploymentId else none
  | _ => return none

def restoreConsumedRetryIntents (events : List AttemptEvent)
    (deploymentsById : String → Option Deployment) : Except Abort (List String) := do
  return (← events.mapM (consumedBy deploymentsById)).filterMap id

/-- What a startup does: it appends a row, or hands an attempt's signal to the supervisor. -/
inductive Effect where
  | append (row : LedgerRow)
  | replay (attemptId : String)

structure Counts where
  pending : ℕ
  replayed : ℕ
  censored : ℕ
  deferred : ℕ
deriving DecidableEq, Repr

variable (r : Reading)

def outcomeRow (attempt : Dict) (outcome : TerminalOutcome) (reason : String) (details : Payload) :
    LedgerRow :=
  ⟨outcomeEvent, some (attemptOutcomePayload attempt outcome reason details)⟩

def recoveryRow (attempt : Dict) (deploymentId : String) : LedgerRow :=
  ⟨recoveryEvent, some (.ofFields
    [("signal_attempt_id", attempt.get "signal_attempt_id"),
      ("deployment_id", .text deploymentId),
      ("signal_id", attempt.get "signal_id"),
      ("reason", .text "fresh_shadow_recovery")])⟩

/-- `float(value or 0) > 0`; what is no number counts as zero, and a whole number beyond the largest
double raises. -/
def quantityPositive (cell : Cell) : Except Abort Bool :=
  if !cell.truthy then .ok false
  else
    match cell with
    | .bool b => .ok b
    | .int n => if 2 ^ 1024 - 2 ^ 970 ≤ |n| then .error (.other "OverflowError") else .ok (0 < n)
    | .float x => .ok (0 < x)
    | .text s => .ok (r.positiveText s)
    | _ => .ok false

/-- The outcome that a persisted plan is evidence of. -/
def planOutcome (attempt : Dict) (plan : Payload) : Except Abort LedgerRow := do
  let positive ← quantityPositive r (plan.get "quantity")
  let approved := positive && r.text (plan.get "option_symbol") ≠ "" &&
    (!(plan.get "order_id").isNone || (plan.get "dry_run").truthy)
  return outcomeRow attempt (if approved then .execution else .blocked)
    (if approved then "trade_plan_persisted" else "trade_plan_blocked")
    [("recovery", .text "persisted_trade_plan"), ("trade_id", plan.get "trade_id"),
      ("approved", .bool approved)]

/-- `attempt.get("trade_plans") or []`. -/
def tradePlans (attempt : Dict) : List Cell :=
  match attempt.get "trade_plans" with
  | .list plans => plans
  | _ => []

/-- The row that closes an attempt before any trade is looked at, if it has a persisted plan or a
consumed retry. -/
def closingRow (consumed : List String) (attempt : Dict) : Except Abort (Option LedgerRow) :=
  match (tradePlans attempt).getLast? with
  | some (.object plan) => (planOutcome r attempt plan).map some
  | some _ => (planOutcome r attempt []).map some
  | none => do
    match ← hashable (attempt.get "deployment_id") with
    | .text deploymentId =>
      return if deploymentId ∈ consumed then
          some (outcomeRow attempt .infrastructureCensored "entry_retry_abandoned_on_restart" [])
        else none
    | _ => return none

/-- The rows of the attempts that are closed at once, up to an exception, and the attempts that
remain. -/
def closePersisted (consumed : List String) :
    List Dict → List LedgerRow × Except Abort (List Dict)
  | [] => ([], .ok [])
  | attempt :: rest =>
    match closingRow r consumed attempt with
    | .error abort => ([], .error abort)
    | .ok closing =>
      let (rows, remaining) := closePersisted consumed rest
      match closing with
      | some row => (row :: rows, remaining)
      | none => (rows, remaining.map (attempt :: ·))

/-- What the recovery loop did with an attempt. -/
inductive Verdict where
  | censored
  | deferred
  | replayed
deriving DecidableEq, Repr

def recoverAttempt (startup : Startup) (existing : List String) (attempt : Dict) :
    List Effect × Verdict :=
  let deploymentId := r.text (attempt.get "deployment_id")
  let censor (outcome : TerminalOutcome) (reason : String) (details : Payload) :
      List Effect × Verdict := ([.append (outcomeRow attempt outcome reason details)], .censored)
  let startupDetails : Payload := [("recovery", .text "startup")]
  match startup.deploymentsById deploymentId with
  | none => censor .infrastructureCensored "recovery_identity_incomplete" startupDetails
  | some deployment =>
    match recoveryAction r attempt startup.now deployment.shadowOnly (deploymentId ∈ existing) with
    | (.defer, _) => ([], .deferred)
    | (.censor, reason) =>
      censor .infrastructureCensored reason
        [("recovery", .text "startup"), ("live_session", .bool startup.live)]
    | (.replay, _) =>
      if !(attempt.get "direction").truthy then
        censor .infrastructureCensored "recovery_identity_incomplete" startupDetails
      else
        match startup.replay attempt with
        | .unmarked error => censor .failure ("recovery:" ++ error) startupDetails
        | .handled rows error =>
          let handled := .append (recoveryRow attempt deploymentId) ::
            .replay (r.text (attempt.get "signal_attempt_id")) ::
            rows.map fun row => .append row.toLedgerRow
          match error with
          | none => (handled, .replayed)
          | some error =>
            (handled ++ [.append (outcomeRow attempt .failure ("recovery:" ++ error) startupDetails)],
              .censored)

structure Reconciled where
  effects : List Effect
  result : Except Abort Counts

def reconcileCartographerAttempts (startup : Startup) (events : List AttemptEvent) : Reconciled :=
  match restoreConsumedRetryIntents events startup.deploymentsById with
  | .error abort => ⟨[], .error abort⟩
  | .ok consumed =>
    let pending := unresolvedAttempts r events
    let (rows, remaining) := closePersisted r consumed pending
    let closed : List Effect := rows.map .append
    match remaining with
    | .error abort => ⟨closed, .error abort⟩
    | .ok [] => ⟨closed, .ok ⟨pending.length, 0, 0, 0⟩⟩
    | .ok remaining =>
      match startup.recentTrades with
      | .error error =>
        ⟨closed ++ remaining.map fun attempt => .append (outcomeRow attempt .infrastructureCensored
            "existing_entry_state_unavailable" [("recovery", .text "startup"), ("error", .text error)]),
          .ok ⟨remaining.length, 0, remaining.length, 0⟩⟩
      | .ok existing =>
        let recovered := remaining.map (recoverAttempt r startup existing)
        let count (verdict : Verdict) : ℕ := recovered.countP fun result => result.2 = verdict
        ⟨closed ++ recovered.flatMap Prod.fst,
          .ok ⟨remaining.length, count .replayed, count .censored, count .deferred⟩⟩

end Recovery

end Bhiksha.Attempts
