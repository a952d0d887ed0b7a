import Bhiksha.Persistence.ExitTables

/-! The durable row of a trade, `trade_sessions`, and the three statements that write it. -/

namespace Bhiksha.TradeStore

open Library

variable {V : Type}

/-- A SQLite value other than `NULL`. -/
inductive SqlValue where
  | integer (z : ℤ)
  | real (q : ℚ)
  | text (s : String)
deriving DecidableEq, Repr

/-- The evidence, contract, plan, session, canary and frozen-risk columns. -/
inductive FrozenColumn where
  | activePlanId
  | researchRunId
  | evidencePacketId
  | evidenceArtifactSha256
  | evidenceArtifactUri
  | experimentId
  | cohortId
  | cohortContractSha256
  | deploymentContractSha256
  | declaredOptionSelectionContractId
  | declaredOptionSelectionContractSha256
  | authorizationIdentityStatus
  | exitPolicyId
  | exitPolicySha256
  | optionSelectionSnapshotId
  | optionSelectionSnapshotPersisted
  | optionCandidateSetSha256
  | actualOptionSelectionSha256
  | canaryId
  | canaryAuthorizationSha256
  | canaryStartAt
  | canaryExpiresAt
  | planRevisionId
  | sessionId
  | factReceiptId
  | frozenEntryRiskUsd
  | frozenRoundTripCostUsd
deriving DecidableEq, Repr

/-- The columns that tell how a trade was closed. -/
inductive ExitFact where
  | exitPrice
  | exitFilledQuantity
  | exitFilledAt
  | exitOrderStatus
  | exitOrderType
  | exitBrokerPayload
  | exitRule
deriving DecidableEq, Repr

inductive ExitMode where
  | strategy
  | hardFlat
  | emergency
deriving DecidableEq, Repr

/-- The exit truth that a caller may know, in part. -/
structure ExitTruth (V : Type) where
  exitOrderId : Option String := none
  exitPrice : Option ℚ := none
  exitFilledQuantity : Option ℤ := none
  exitFilledAt : Option String := none
  exitOrderStatus : Option String := none
  exitOrderType : Option String := none
  exitBrokerPayload : Option (JsonObject V) := none
  exitRule : Option String := none

/-- The parameters that a statement binds to the columns of `ExitFact`. -/
def ExitTruth.facts (codec : Codec V) (truth : ExitTruth V) : ExitFact → Option SqlValue
  | .exitPrice => truth.exitPrice.map .real
  | .exitFilledQuantity => truth.exitFilledQuantity.map .integer
  | .exitFilledAt => truth.exitFilledAt.map .text
  | .exitOrderStatus => truth.exitOrderStatus.map .text
  | .exitOrderType => truth.exitOrderType.map .text
  | .exitBrokerPayload => truth.exitBrokerPayload.map fun payload => .text (codec.dumpsPayload payload)
  | .exitRule => truth.exitRule.map .text

/-- `TradeRecord`; the fields of `FrozenColumn` are given by column. -/
structure TradeRecord (V : Type) extends ExitTruth V where
  tradeId : String
  deploymentId : String
  symbol : String
  optionSymbol : Option String := none
  quantity : ℤ := 0
  entryPrice : Option ℚ := none
  underlyingEntryPrice : Option ℚ := none
  entryTimestamp : Option String := none
  status : String := "pending_entry"
  entryOrderId : Option String := none
  stopOrderId : Option String := none
  stopPrice : Option ℚ := none
  targetOrderId : Option String := none
  targetPrice : Option ℚ := none
  exitLimitPrice : Option ℚ := none
  exitSubmittedAt : Option String := none
  exitMode : Option ExitMode := none
  canLadder : Option Bool := none
  frozen : FrozenColumn → Option SqlValue := fun _ => none

/-- The columns of a working exit. -/
structure PendingExit where
  exitOrderId : Option String
  exitLimitPrice : Option ℚ
  exitSubmittedAt : Option String
  exitMode : Option ExitMode
deriving DecidableEq, Repr

/-- A row of `trade_sessions`. -/
structure TradeSession where
  tradeId : String
  deploymentId : String
  symbol : String
  optionSymbol : Option String
  quantity : ℤ
  entryPrice : Option ℚ
  underlyingEntryPrice : Option ℚ
  entryTimestamp : Option String
  status : String
  entryOrderId : Option String
  stopOrderId : Option String
  stopPrice : Option ℚ
  targetOrderId : Option String
  targetPrice : Option ℚ
  pendingExit : PendingExit
  facts : ExitFact → Option SqlValue
  canLadder : Option Bool
  frozen : FrozenColumn → Option SqlValue
  updatedAt : String

abbrev TradeDb := Table TradeSession.tradeId

/-- The row that `INSERT` would write. -/
def TradeRecord.row (codec : Codec V) (record : TradeRecord V) (now : String) : TradeSession where
  tradeId := record.tradeId
  deploymentId := record.deploymentId
  symbol := record.symbol
  optionSymbol := record.optionSymbol
  quantity := record.quantity
  entryPrice := record.entryPrice
  underlyingEntryPrice := record.underlyingEntryPrice
  entryTimestamp := record.entryTimestamp
  status := record.status
  entryOrderId := record.entryOrderId
  stopOrderId := record.stopOrderId
  stopPrice := record.stopPrice
  targetOrderId := record.targetOrderId
  targetPrice := record.targetPrice
  pendingExit :=
    { exitOrderId := record.exitOrderId
      exitLimitPrice := record.exitLimitPrice
      exitSubmittedAt := record.exitSubmittedAt
      exitMode := record.exitMode }
  facts := record.toExitTruth.facts codec
  canLadder := record.canLadder
  frozen := record.frozen
  updatedAt := now

/-- The `CASE` that keeps a working exit against a record that carries none. -/
def TradeSession.keepsExit (stored excluded : TradeSession) : Bool :=
  stored.status = "exit_pending"
    ∧ excluded.status ∈ ["open_protected", "open_unprotected"]
    ∧ excluded.pendingExit.exitOrderId = none
    ∧ excluded.pendingExit.exitSubmittedAt = none
    ∧ excluded.pendingExit.exitMode = none

/-- `ON CONFLICT(trade_id) DO UPDATE SET`. -/
def TradeSession.onConflict (stored excluded : TradeSession) : TradeSession where
  tradeId := stored.tradeId
  deploymentId := excluded.deploymentId
  symbol := excluded.symbol
  optionSymbol := excluded.optionSymbol
  quantity := excluded.quantity
  entryPrice := excluded.entryPrice
  underlyingEntryPrice := excluded.underlyingEntryPrice
  entryTimestamp := excluded.entryTimestamp
  status := if stored.keepsExit excluded then stored.status else excluded.status
  entryOrderId := excluded.entryOrderId
  stopOrderId := excluded.stopOrderId
  stopPrice := excluded.stopPrice
  targetOrderId := excluded.targetOrderId
  targetPrice := excluded.targetPrice
  pendingExit := if stored.keepsExit excluded then stored.pendingExit else excluded.pendingExit
  facts := fun fact => (excluded.facts fact).or (stored.facts fact)
  canLadder := excluded.canLadder.or stored.canLadder
  frozen := fun column => (stored.frozen column).or (excluded.frozen column)
  updatedAt := excluded.updatedAt

def upsertTradeSync (codec : Codec V) (record : TradeRecord V) (now : String) (db : TradeDb) :
    TradeDb :=
  db.upsert (record.row codec now) (fun stored => stored.onConflict (record.row codec now))
    fun _ => rfl

/-- The assignments of both closing statements. -/
def TradeSession.close (codec : Codec V) (truth : ExitTruth V) (now : String)
    (stored : TradeSession) : TradeSession :=
  { stored with
    status := "closed"
    pendingExit :=
      { stored.pendingExit with
        exitOrderId := truth.exitOrderId.or stored.pendingExit.exitOrderId }
    facts := fun fact => (truth.facts codec fact).or (stored.facts fact)
    updatedAt := now }

def markClosedSync (codec : Codec V) (tradeId : String) (truth : ExitTruth V) (now : String)
    (db : TradeDb) : TradeDb :=
  db.update (fun row => row.tradeId = tradeId) (TradeSession.close codec truth now) fun _ => rfl

/-- `lower(status) = 'closed'`. -/
def TradeSession.isClosed (row : TradeSession) : Bool := row.status.toLower = "closed"

def markClosedIfOpenSync (codec : Codec V) (tradeId : String) (truth : ExitTruth V) (now : String)
    (db : TradeDb) : Bool × TradeDb :=
  let target : TradeSession → Bool := fun row => row.tradeId = tradeId ∧ !row.isClosed
  (db.count target = 1, db.update target (TradeSession.close codec truth now) fun _ => rfl)

/-- A write to the trade rows, each one transaction. -/
inductive TradeWrite (V : Type) where
  | upsertTrade (record : TradeRecord V) (now : String)
  | markClosed (tradeId : String) (truth : ExitTruth V) (now : String)
  | markClosedIfOpen (tradeId : String) (truth : ExitTruth V) (now : String)

/-- The trade that a write names. -/
def TradeWrite.tradeId : TradeWrite V → String
  | .upsertTrade record _ => record.tradeId
  | .markClosed tradeId _ _ => tradeId
  | .markClosedIfOpen tradeId _ _ => tradeId

/-- A write, with what `mark_closed_if_open` returns. -/
def runTradeWrite (codec : Codec V) : TradeWrite V → TradeDb → Option Bool × TradeDb
  | .upsertTrade record now, db => (none, upsertTradeSync codec record now db)
  | .markClosed tradeId truth now, db => (none, markClosedSync codec tradeId truth now db)
  | .markClosedIfOpen tradeId truth now, db =>
    (markClosedIfOpenSync codec tradeId truth now db).map some id

/-- What a write does to the row of its trade. -/
def TradeWrite.onRow (codec : Codec V) : TradeWrite V → Option TradeSession → Option TradeSession
  | .upsertTrade record now, stored =>
    some ((stored.map fun row => row.onConflict (record.row codec now)).getD
      (record.row codec now))
  | .markClosed _ truth now, stored => stored.map (TradeSession.close codec truth now)
  | .markClosedIfOpen _ truth now, stored =>
    stored.map fun row => if row.isClosed then row else row.close codec truth now

/-- A write touches the row of its trade and no other. -/
theorem get?_runTradeWrite (codec : Codec V) (write : TradeWrite V) (db : TradeDb)
    (tradeId : String) :
    (runTradeWrite codec write db).2.get? tradeId =
      if write.tradeId = tradeId then write.onRow codec (db.get? tradeId)
      else db.get? tradeId := by
  have hkeep {stored : TradeSession} (h : db.get? tradeId = some stored) :
      stored.tradeId = tradeId := Table.key_of_get? h
  cases write with
  | upsertTrade record now => exact Table.get?_upsert db _ _ _ tradeId
  | markClosed named truth now =>
    refine (Table.get?_update db _ (TradeSession.close codec truth now) (fun _ => rfl) tradeId).trans ?_
    simp only [TradeWrite.tradeId, TradeWrite.onRow]
    cases hrow : db.get? tradeId with
    | none =>
      by_cases hnamed : named = tradeId
      · exact (if_pos hnamed).symm
      · exact (if_neg hnamed).symm
    | some stored =>
      have hid := hkeep hrow
      by_cases hnamed : named = tradeId
      · simp [hid, hnamed]
      · have hother : ¬tradeId = named := fun h => hnamed h.symm
        simp [hid, hnamed, hother]
  | markClosedIfOpen named truth now =>
    refine (Table.get?_update db _ (TradeSession.close codec truth now) (fun _ => rfl) tradeId).trans ?_
    simp only [TradeWrite.tradeId, TradeWrite.onRow]
    cases hrow : db.get? tradeId with
    | none =>
      by_cases hnamed : named = tradeId
      · exact (if_pos hnamed).symm
      · exact (if_neg hnamed).symm
    | some stored =>
      have hid := hkeep hrow
      by_cases hnamed : named = tradeId
      · cases hclosed : stored.isClosed <;> simp [hid, hnamed, hclosed]
      · have hother : ¬tradeId = named := fun h => hnamed h.symm
        simp [hid, hnamed, hother]

/-- `mark_closed_if_open` reports a close only for a row that was there and open. -/
theorem open_of_markClosedIfOpen {codec : Codec V} {tradeId : String} {truth : ExitTruth V}
    {now : String} {db : TradeDb}
    (h : (runTradeWrite codec (.markClosedIfOpen tradeId truth now) db).1 = some true) :
    ∃ row, db.get? tradeId = some row ∧ row.isClosed = false := by
  have hcount : db.count (fun row => row.tradeId = tradeId ∧ !row.isClosed) = 1 := by
    simpa [runTradeWrite, markClosedIfOpenSync] using h
  have hpos : 0 < db.count (fun row => row.tradeId = tradeId ∧ !row.isClosed) := by omega
  obtain ⟨row, hmem, hrow⟩ := List.countP_pos_iff.mp hpos
  simp only [Bool.not_eq_true', decide_eq_true_eq] at hrow
  exact ⟨row, (Table.get?_eq_some_iff db tradeId row).mpr ⟨hmem, hrow.1⟩, hrow.2⟩

end Bhiksha.TradeStore
