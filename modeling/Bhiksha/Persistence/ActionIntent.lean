import Bhiksha.Persistence.ExitTables

/-! The durable intents that precede every broker-affecting exit action. -/

namespace Bhiksha

open Library

variable {V : Type}

/-- The pair that the schema declares unique. -/
def ExitActionIntent.slot (intent : ExitActionIntent) : String × String :=
  (intent.tradeId, intent.actionSlot)

/-- The columns that a second preparation of a slot has to repeat. -/
structure IntentRequest where
  idempotencyKey : String
  policyHash : String
  actionKind : String
  expectedStateVersion : ℤ
  requestedQuantity : Option ℤ
  requestedStopPrice : Option ℚ
  requestedFloorR : Option ℚ
  priorStopOrderId : Option String
  priorStopPrice : Option ℚ
  handoffStage : String
deriving DecidableEq

def ExitActionIntent.request (intent : ExitActionIntent) : IntentRequest where
  idempotencyKey := intent.idempotencyKey
  policyHash := intent.policyHash
  actionKind := intent.actionKind
  expectedStateVersion := intent.expectedStateVersion
  requestedQuantity := intent.requestedQuantity
  requestedStopPrice := intent.requestedStopPrice
  requestedFloorR := intent.requestedFloorR
  priorStopOrderId := intent.priorStopOrderId
  priorStopPrice := intent.priorStopPrice
  handoffStage := intent.handoffStage

/-- The row that preparing an intent inserts. -/
def ExitActionIntent.preparedRow (intent : ExitActionIntent) (now : String) : ExitActionIntent :=
  { intent with
    status := .prepared
    brokerOrderId := none
    restoreOrderId := none
    brokerPayloadJson := none
    createdAt := some (intent.createdAt.getD now)
    updatedAt := some now }

/-- `INSERT INTO exit_action_intents`, under its primary key and `UNIQUE(trade_id, action_slot)`. -/
def insertIntent (row : ExitActionIntent) (db : ExitDb) : Except PyException (Unit × ExitDb) :=
  if h : db.intents.get? row.idempotencyKey = none ∧ ∀ r ∈ db.intents.rows, r.slot ≠ row.slot then
    .ok ((), { db with intents := db.intents.insert row h.1 })
  else .error .integrityError

def prepareActionIntentSync (intent : ExitActionIntent) (now : String) :
    Tx PyException ExitDb Unit :=
  Tx.committing do
    raiseIf (intent.status ≠ .prepared) (.valueError "new action intent must start prepared")
    let row? ← Tx.query fun db => db.runtime.get? intent.tradeId
    let runtime ← orRaise row?
      (.valueError s!"trade {Python.reprString intent.tradeId} runtime state is missing")
    raiseIf (runtime.policyHash ≠ intent.policyHash)
      (.valueError "exit action intent policy hash conflict")
    raiseIf (runtime.stateVersion ≠ intent.expectedStateVersion)
      (.valueError "exit action intent state version conflict")
    tryCatch (Tx.statement (insertIntent (intent.preparedRow now))) fun _ => do
      let existing ← Tx.query fun db => db.intents.rows.find? fun r => r.slot = intent.slot
      raiseIf (existing.map ExitActionIntent.request ≠ some intent.request)
        (.valueError (s!"trade {Python.reprString intent.tradeId} action slot " ++
          s!"{Python.reprString intent.actionSlot} already has a different intent"))

/-- The assignments of the three `UPDATE` statements. -/
def ExitActionIntent.advanceHandoff (handoffStage : String) (restoreOrderId payload : Option String)
    (now : String) (row : ExitActionIntent) : ExitActionIntent :=
  { row with
    handoffStage := handoffStage
    restoreOrderId := restoreOrderId <|> row.restoreOrderId
    brokerPayloadJson := payload <|> row.brokerPayloadJson
    updatedAt := some now }

def ExitActionIntent.bindOrder (brokerOrderId : String) (payload : Option String) (now : String)
    (row : ExitActionIntent) : ExitActionIntent :=
  { row with
    status := .submitted
    brokerOrderId := some brokerOrderId
    brokerPayloadJson := payload <|> row.brokerPayloadJson
    updatedAt := some now }

def ExitActionIntent.resolve (status : IntentStatus) (payload : Option String) (now : String)
    (row : ExitActionIntent) : ExitActionIntent :=
  { row with
    status := status
    brokerPayloadJson := payload <|> row.brokerPayloadJson
    updatedAt := some now }

/-- `UPDATE exit_action_intents SET ... WHERE idempotency_key=?`. -/
def updateIntent (key : String) (f : ExitActionIntent → ExitActionIntent)
    (hf : ∀ r, (f r).idempotencyKey = r.idempotencyKey) (db : ExitDb) : ExitDb :=
  { db with intents := db.intents.update (fun r => r.idempotencyKey = key) f hf }

def updateActionHandoffSync (codec : Codec V) (key handoffStage : String)
    (restoreOrderId : Option String) (brokerPayload : Option (JsonObject V)) (now : String) :
    Tx PyException ExitDb Unit :=
  Tx.committing do
    raiseIf (Python.isBlank handoffStage) (.valueError "handoff_stage is required")
    let payload := brokerPayload.map codec.dumpsPayload
    let row? ← Tx.query fun db => db.intents.get? key
    let row ← orRaise row?
      (.valueError s!"unknown exit action intent {Python.reprString key}")
    raiseIf (row.status ∉ [.prepared, .submitted])
      (.valueError
        s!"cannot update terminal exit action intent {Python.reprString row.status.text}")
    raiseIf
      (row.restoreOrderId ≠ none ∧ restoreOrderId ≠ none ∧ row.restoreOrderId ≠ restoreOrderId
        ∧ row.handoffStage ≠ "restore_submit_pending")
      (.valueError "exit action intent restore order identity conflict")
    Tx.execute <| updateIntent key
      (ExitActionIntent.advanceHandoff handoffStage restoreOrderId payload now) fun _ => rfl

def bindActionOrderSync (codec : Codec V) (key brokerOrderId : String)
    (brokerPayload : Option (JsonObject V)) (now : String) : Tx PyException ExitDb Unit :=
  Tx.committing do
    let payload := brokerPayload.map codec.dumpsPayload
    let row? ← Tx.query fun db => db.intents.get? key
    let row ← orRaise row?
      (.valueError s!"unknown exit action intent {Python.reprString key}")
    raiseIf (row.brokerOrderId ≠ none ∧ row.brokerOrderId ≠ some brokerOrderId)
      (.valueError "exit action intent broker order identity conflict")
    raiseIf (row.status ∉ [.prepared, .submitted])
      (.valueError
        s!"cannot bind terminal exit action intent {Python.reprString row.status.text}")
    Tx.execute <| updateIntent key (ExitActionIntent.bindOrder brokerOrderId payload now)
      fun _ => rfl

/-- The status that a text names, if `resolve_action_intent` accepts it. -/
def terminalStatus? (status : String) : Option IntentStatus :=
  [.confirmed, .failed, .abandoned].find? fun s => s.text = status

def resolveActionIntentSync (codec : Codec V) (key status : String)
    (brokerPayload : Option (JsonObject V)) (now : String) : Tx PyException ExitDb Unit :=
  Tx.committing do
    let terminal ← orRaise (terminalStatus? status)
      (.valueError "invalid terminal action intent status")
    let payload := brokerPayload.map codec.dumpsPayload
    let rowcount ← Tx.statement fun db =>
      .ok (db.intents.count fun r => r.idempotencyKey = key,
        updateIntent key (ExitActionIntent.resolve terminal payload now) (fun _ => rfl) db)
    raiseIf (rowcount ≠ 1) (.valueError s!"unknown exit action intent {Python.reprString key}")

section Raising

/-- A preparation that raises leaves every table as it was. -/
theorem prepareActionIntentSync_error {intent : ExitActionIntent} {now : String} {db : ExitDb}
    {e : PyException} (h : (Tx.run (prepareActionIntentSync intent now) db).1 = .error e) :
    (Tx.run (prepareActionIntentSync intent now) db).2 = db := by
  refine Tx.run_unchanged_of_error ?_ h
  refine Tx.keepsDisk_bind (Tx.keepsDisk_raiseIf _ _) fun _ => ?_
  refine Tx.keepsDisk_bind (Tx.keepsDisk_query _) fun _ => ?_
  refine Tx.keepsDisk_bind (Tx.keepsDisk_orRaise _ _) fun _ => ?_
  refine Tx.keepsDisk_bind (Tx.keepsDisk_raiseIf _ _) fun _ => ?_
  refine Tx.keepsDisk_bind (Tx.keepsDisk_raiseIf _ _) fun _ => ?_
  refine Tx.keepsDisk_tryCatch (Tx.keepsDisk_statement _) fun _ => ?_
  exact Tx.keepsDisk_bind (Tx.keepsDisk_query _) fun _ => Tx.keepsDisk_raiseIf _ _

theorem updateActionHandoffSync_error {codec : Codec V} {key stage now : String}
    {restore : Option String} {payload : Option (JsonObject V)} {db : ExitDb} {e : PyException}
    (h : (Tx.run (updateActionHandoffSync codec key stage restore payload now) db).1 = .error e) :
    (Tx.run (updateActionHandoffSync codec key stage restore payload now) db).2 = db := by
  refine Tx.run_unchanged_of_error ?_ h
  refine Tx.keepsDisk_bind (Tx.keepsDisk_raiseIf _ _) fun _ => ?_
  refine Tx.keepsDisk_bind (Tx.keepsDisk_query _) fun _ => ?_
  refine Tx.keepsDisk_bind (Tx.keepsDisk_orRaise _ _) fun _ => ?_
  refine Tx.keepsDisk_bind (Tx.keepsDisk_raiseIf _ _) fun _ => ?_
  exact Tx.keepsDisk_bind (Tx.keepsDisk_raiseIf _ _) fun _ => Tx.keepsDisk_execute _

theorem bindActionOrderSync_error {codec : Codec V} {key order now : String}
    {payload : Option (JsonObject V)} {db : ExitDb} {e : PyException}
    (h : (Tx.run (bindActionOrderSync codec key order payload now) db).1 = .error e) :
    (Tx.run (bindActionOrderSync codec key order payload now) db).2 = db := by
  refine Tx.run_unchanged_of_error ?_ h
  refine Tx.keepsDisk_bind (Tx.keepsDisk_query _) fun _ => ?_
  refine Tx.keepsDisk_bind (Tx.keepsDisk_orRaise _ _) fun _ => ?_
  refine Tx.keepsDisk_bind (Tx.keepsDisk_raiseIf _ _) fun _ => ?_
  exact Tx.keepsDisk_bind (Tx.keepsDisk_raiseIf _ _) fun _ => Tx.keepsDisk_execute _

theorem resolveActionIntentSync_error {codec : Codec V} {key status now : String}
    {payload : Option (JsonObject V)} {db : ExitDb} {e : PyException}
    (h : (Tx.run (resolveActionIntentSync codec key status payload now) db).1 = .error e) :
    (Tx.run (resolveActionIntentSync codec key status payload now) db).2 = db := by
  refine Tx.run_unchanged_of_error ?_ h
  refine Tx.keepsDisk_bind (Tx.keepsDisk_orRaise _ _) fun _ => ?_
  exact Tx.keepsDisk_bind (Tx.keepsDisk_statement _) fun _ => Tx.keepsDisk_raiseIf _ _

end Raising

end Bhiksha
