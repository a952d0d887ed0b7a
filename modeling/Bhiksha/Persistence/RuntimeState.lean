import Bhiksha.Persistence.ExitTables

/-! Freezing a trade's exit policy and moving its durable runtime state. -/

namespace Bhiksha

open Library

variable {V : Type}

def nonSemanticPolicyFields : List String := ["high_water_giveback_policy", "source_config_id"]

def canonicalPolicyPayload (payload : JsonObject V) : JsonObject V :=
  payload.filter fun item => item.1 ∉ nonSemanticPolicyFields

def canonicalPolicyHash (codec : Codec V) (payload : JsonObject V) : Except PyException String :=
  return codec.sha256Hex (← codec.dumpsCanonical (canonicalPolicyPayload payload))

def validateSnapshotStateIdentity (snapshot : TradeExitPolicySnapshot V)
    (state : ExitRuntimeState) : Except PyException Unit :=
  raiseIf
    (snapshot.tradeId ≠ state.tradeId
      ∨ snapshot.deploymentId ≠ state.deploymentId
      ∨ snapshot.optionSymbol ≠ state.optionSymbol
      ∨ snapshot.policyHash ≠ state.policyHash)
    (.valueError "frozen policy and runtime state identity mismatch")

def validateRuntimeState (state : ExitRuntimeState) : Except PyException Unit := do
  raiseIf (state.stateVersion < 1) (.valueError "state_version must be >= 1")
  raiseIf (state.seedEntryPremium ≤ 0 ∨ state.seedQuantity ≤ 0)
    (.valueError "entry premium and seed quantity must be positive")
  raiseIf (state.initialRiskPerContract ≤ 0)
    (.valueError "initial risk per contract must be positive")
  raiseIf (state.rawPeakPremium < state.seedEntryPremium)
    (.valueError "raw peak cannot be below seed entry premium")
  raiseIf (state.confirmedPeakR < 0) (.valueError "confirmed peak R cannot be negative")
  raiseIf (state.bankedQuantity < 0 ∨ state.bankedQuantity > state.seedQuantity)
    (.valueError "banked quantity must stay within original quantity")

/-- `current is not None and (new is None or new < current)`. -/
def regresses (current new : Option ℚ) : Bool :=
  match current, new with
  | none, _ => false
  | some _, none => true
  | some x, some y => y < x

def requireNonRegression (current state : ExitRuntimeState) : Except PyException Unit := do
  raiseIf (state.rawPeakPremium < current.rawPeakPremium)
    (.valueError "raw peak premium cannot regress")
  raiseIf (state.confirmedPeakR < current.confirmedPeakR)
    (.valueError "confirmed peak R cannot regress")
  raiseIf (regresses current.lockedFloorR state.lockedFloorR)
    (.valueError "locked floor R cannot regress")
  raiseIf (regresses current.committedStopPrice state.committedStopPrice)
    (.valueError "committed stop price cannot regress")
  raiseIf (current.target1Banked ∧ !state.target1Banked)
    (.valueError "target_1_banked cannot regress")
  raiseIf (state.bankedQuantity < current.bankedQuantity)
    (.valueError "banked quantity cannot regress")
  raiseIf (current.breakevenEmitted ∧ !state.breakevenEmitted)
    (.valueError "breakeven state cannot regress")

def TradeExitPolicySnapshot.proposedPolicy (snapshot : TradeExitPolicySnapshot V)
    (policyJson provenanceJson : String) : PolicyIdentity where
  deploymentId := snapshot.deploymentId
  optionSymbol := snapshot.optionSymbol
  activePlanId := snapshot.activePlanId
  startupConfigId := snapshot.startupConfigId
  policySchemaVersion := snapshot.policySchemaVersion
  policyId := snapshot.policyId
  policyHash := snapshot.policyHash
  canonicalPolicyJson := policyJson
  provenanceJson := provenanceJson

/-- `INSERT INTO trade_exit_policy_snapshots`. -/
def insertPolicy (row : PolicyRow) (db : ExitDb) : Except PyException (Unit × ExitDb) :=
  if h : db.policies.get? row.tradeId = none then
    .ok ((), { db with policies := db.policies.insert row h })
  else .error .integrityError

/-- `INSERT INTO trade_exit_runtime_state`. -/
def insertRuntimeRow (row : RuntimeRow) (db : ExitDb) : Except PyException (Unit × ExitDb) :=
  if h : db.runtime.get? row.key = none then
    .ok ((), { db with runtime := db.runtime.insert row h })
  else .error .integrityError

def insertState (state : ExitRuntimeState) (now : String) : Tx PyException ExitDb Unit := do
  validateRuntimeState state
  Tx.statement (insertRuntimeRow { state with updatedAt := now })

/-- The statements of a freeze on `trade_exit_policy_snapshots`. -/
def freezePolicy (tradeId : String) (proposedPolicy : PolicyIdentity) (frozenAt : String) :
    Tx PyException ExitDb Unit := do
  let existingPolicy ← Tx.query fun db => db.policies.get? tradeId
  Tx.rollbackRaiseIf (∃ row ∈ existingPolicy, row.toPolicyIdentity ≠ proposedPolicy)
    (.valueError s!"trade {Python.reprString tradeId} frozen policy identity conflict")
  if existingPolicy = none then
    Tx.statement (insertPolicy { proposedPolicy with tradeId, frozenAt })

/-- The statements of a freeze on `trade_exit_runtime_state`. -/
def initializeState (state : ExitRuntimeState) (now : String) : Tx PyException ExitDb Unit := do
  let existingState ← Tx.query fun db => db.runtime.get? state.tradeId
  Tx.rollbackRaiseIf (∃ row ∈ existingState, row.policyHash ≠ state.policyHash)
    (.valueError s!"trade {Python.reprString state.tradeId} runtime policy hash conflict")
  if existingState = none then
    insertState state now

def freezePolicyAndInitializeStateSync (codec : Codec V) (snapshot : TradeExitPolicySnapshot V)
    (state : ExitRuntimeState) (now : String) : Tx PyException ExitDb Unit :=
  Tx.committing do
    validateSnapshotStateIdentity snapshot state
    let policyHash ← canonicalPolicyHash codec snapshot.canonicalPolicy
    raiseIf (policyHash ≠ snapshot.policyHash)
      (.valueError "frozen policy hash does not match canonical policy")
    let policyJson ← codec.dumpsCanonical snapshot.canonicalPolicy
    let provenanceJson ← codec.dumpsCanonical snapshot.provenance
    freezePolicy snapshot.tradeId (snapshot.proposedPolicy policyJson provenanceJson)
      (snapshot.frozenAt.getD now)
    initializeState state now

/-- The assignments of the `UPDATE` that a transition executes. -/
def RuntimeRow.assign (row : RuntimeRow) (state : ExitRuntimeState) (now : String) :
    RuntimeRow :=
  { row with
    rawPeakPremium := state.rawPeakPremium
    confirmedPeakR := state.confirmedPeakR
    peakTimestamp := state.peakTimestamp
    lockedFloorR := state.lockedFloorR
    committedStopPrice := state.committedStopPrice
    target1Banked := state.target1Banked
    bankedQuantity := state.bankedQuantity
    breakevenEmitted := state.breakevenEmitted
    runnerState := state.runnerState
    recoveryStatus := state.recoveryStatus
    degradedReason := state.degradedReason
    lastEvaluatedAt := state.lastEvaluatedAt
    stateVersion := state.stateVersion
    updatedAt := now }

/-- `UPDATE trade_exit_runtime_state ... WHERE trade_id = ? AND state_version = ?`, with its row
count. -/
def updateRuntimeRow (state : ExitRuntimeState) (expectedVersion : ℤ) (now : String)
    (db : ExitDb) : ℕ × ExitDb :=
  let target : RuntimeRow → Bool := fun row =>
    row.tradeId = state.tradeId ∧ row.stateVersion = expectedVersion
  (db.runtime.count target,
    { db with runtime := db.runtime.update target (fun row => row.assign state now) fun _ => rfl })

def transitionRuntimeStateSync (state : ExitRuntimeState) (expectedVersion : ℤ) (now : String) :
    Tx PyException ExitDb Unit :=
  Tx.committing do
    validateRuntimeState state
    raiseIf (state.stateVersion ≠ expectedVersion + 1)
      (.valueError "state_version must increment exactly once")
    let row? ← Tx.query fun db => db.runtime.get? state.tradeId
    let current ← orRaise row?
      (.valueError s!"trade {Python.reprString state.tradeId} runtime state is missing")
    raiseIf (current.stateVersion ≠ expectedVersion)
      (.valueError (s!"trade {Python.reprString state.tradeId} state version conflict: " ++
        s!"expected {expectedVersion}, found {current.stateVersion}"))
    raiseIf
      ((current.deploymentId, current.optionSymbol, current.policyHash, current.seedEntryPremium,
          current.seedQuantity) ≠
        (state.deploymentId, state.optionSymbol, state.policyHash, state.seedEntryPremium,
          state.seedQuantity))
      (.valueError s!"trade {Python.reprString state.tradeId} runtime state identity conflict")
    requireNonRegression current.toExitRuntimeState state
    let rowcount ← Tx.statement fun db => .ok (updateRuntimeRow state expectedVersion now db)
    Tx.rollbackRaiseIf (rowcount ≠ 1)
      (.valueError s!"trade {Python.reprString state.tradeId} state transition lost race")

section Raising

theorem keepsDisk_freezePolicy (tradeId : String) (proposedPolicy : PolicyIdentity)
    (frozenAt : String) : Tx.KeepsDisk (freezePolicy tradeId proposedPolicy frozenAt) := by
  refine Tx.keepsDisk_bind (Tx.keepsDisk_query _) fun _ => ?_
  refine Tx.keepsDisk_bind (Tx.keepsDisk_rollbackRaiseIf _ _) fun _ => ?_
  split
  · exact Tx.keepsDisk_statement _
  · exact Tx.keepsDisk_pure _

theorem keepsDisk_insertState (state : ExitRuntimeState) (now : String) :
    Tx.KeepsDisk (insertState state now) :=
  Tx.keepsDisk_bind (Tx.keepsDisk_lift _) fun _ => Tx.keepsDisk_statement _

theorem keepsDisk_initializeState (state : ExitRuntimeState) (now : String) :
    Tx.KeepsDisk (initializeState state now) := by
  refine Tx.keepsDisk_bind (Tx.keepsDisk_query _) fun _ => ?_
  refine Tx.keepsDisk_bind (Tx.keepsDisk_rollbackRaiseIf _ _) fun _ => ?_
  split
  · exact keepsDisk_insertState _ _
  · exact Tx.keepsDisk_pure _

/-- A freeze that raises leaves every table as it was. -/
theorem freezePolicyAndInitializeStateSync_error {codec : Codec V}
    {snapshot : TradeExitPolicySnapshot V} {state : ExitRuntimeState} {now : String} {db : ExitDb}
    {e : PyException}
    (h : (Tx.run (freezePolicyAndInitializeStateSync codec snapshot state now) db).1 = .error e) :
    (Tx.run (freezePolicyAndInitializeStateSync codec snapshot state now) db).2 = db := by
  refine Tx.run_unchanged_of_error ?_ h
  refine Tx.keepsDisk_bind (Tx.keepsDisk_lift _) fun _ => ?_
  refine Tx.keepsDisk_bind (Tx.keepsDisk_lift _) fun _ => ?_
  refine Tx.keepsDisk_bind (Tx.keepsDisk_raiseIf _ _) fun _ => ?_
  refine Tx.keepsDisk_bind (Tx.keepsDisk_lift _) fun _ => ?_
  refine Tx.keepsDisk_bind (Tx.keepsDisk_lift _) fun _ => ?_
  exact Tx.keepsDisk_bind (keepsDisk_freezePolicy _ _ _) fun _ => keepsDisk_initializeState _ _

/-- A transition that raises leaves every table as it was. -/
theorem transitionRuntimeStateSync_error {state : ExitRuntimeState} {expectedVersion : ℤ}
    {now : String} {db : ExitDb} {e : PyException}
    (h : (Tx.run (transitionRuntimeStateSync state expectedVersion now) db).1 = .error e) :
    (Tx.run (transitionRuntimeStateSync state expectedVersion now) db).2 = db := by
  refine Tx.run_unchanged_of_error ?_ h
  refine Tx.keepsDisk_bind (Tx.keepsDisk_lift _) fun _ => ?_
  refine Tx.keepsDisk_bind (Tx.keepsDisk_raiseIf _ _) fun _ => ?_
  refine Tx.keepsDisk_bind (Tx.keepsDisk_query _) fun _ => ?_
  refine Tx.keepsDisk_bind (Tx.keepsDisk_orRaise _ _) fun _ => ?_
  refine Tx.keepsDisk_bind (Tx.keepsDisk_raiseIf _ _) fun _ => ?_
  refine Tx.keepsDisk_bind (Tx.keepsDisk_raiseIf _ _) fun _ => ?_
  refine Tx.keepsDisk_bind (Tx.keepsDisk_lift _) fun _ => ?_
  exact Tx.keepsDisk_bind (Tx.keepsDisk_statement _) fun _ => Tx.keepsDisk_rollbackRaiseIf _ _

end Raising

/-- What `_validate_runtime_state` accepts. -/
structure ExitRuntimeState.Valid (state : ExitRuntimeState) : Prop where
  version_pos : 1 ≤ state.stateVersion
  premium_pos : 0 < state.seedEntryPremium
  quantity_pos : 0 < state.seedQuantity
  risk_pos : 0 < state.initialRiskPerContract
  seed_le_peak : state.seedEntryPremium ≤ state.rawPeakPremium
  peakR_nonneg : 0 ≤ state.confirmedPeakR
  banked_nonneg : 0 ≤ state.bankedQuantity
  banked_le_seed : state.bankedQuantity ≤ state.seedQuantity

theorem validateRuntimeState_eq_ok_iff (state : ExitRuntimeState) :
    validateRuntimeState state = .ok () ↔ state.Valid := by
  simp only [validateRuntimeState, Except.bind_eq_ok_iff, raiseIf_eq_ok_iff, not_or, not_lt, not_le,
    exists_const]
  constructor
  · rintro ⟨hv, ⟨hp, hq⟩, hr, hs, hc, hb, hb'⟩
    exact ⟨hv, hp, hq, hr, hs, hc, hb, hb'⟩
  · rintro ⟨hv, hp, hq, hr, hs, hc, hb, hb'⟩
    exact ⟨hv, ⟨hp, hq⟩, hr, hs, hc, hb, hb'⟩

theorem regresses_eq_false_iff (current new : Option ℚ) :
    regresses current new = false ↔ floorLevel current ≤ floorLevel new := by
  cases current <;> cases new <;> simp [regresses, floorLevel]

/-- The quantities that `_require_non_regression` guards. -/
structure NonRegression (current state : ExitRuntimeState) : Prop where
  peak : current.rawPeakPremium ≤ state.rawPeakPremium
  peakR : current.confirmedPeakR ≤ state.confirmedPeakR
  floor : floorLevel current.lockedFloorR ≤ floorLevel state.lockedFloorR
  stop : floorLevel current.committedStopPrice ≤ floorLevel state.committedStopPrice
  target1 : current.target1Banked → state.target1Banked
  banked : current.bankedQuantity ≤ state.bankedQuantity
  breakeven : current.breakevenEmitted → state.breakevenEmitted

theorem requireNonRegression_eq_ok_iff (current state : ExitRuntimeState) :
    requireNonRegression current state = .ok () ↔ NonRegression current state := by
  simp only [requireNonRegression, Except.bind_eq_ok_iff, raiseIf_eq_ok_iff, not_lt, not_and,
    Bool.not_eq_true, regresses_eq_false_iff, exists_const, Bool.not_eq_eq_eq_not, Bool.not_true,
    Bool.not_eq_false]
  constructor
  · rintro ⟨hp, hr, hf, hs, ht, hb, he⟩
    exact ⟨hp, hr, hf, hs, ht, hb, he⟩
  · rintro ⟨hp, hr, hf, hs, ht, hb, he⟩
    exact ⟨hp, hr, hf, hs, ht, hb, he⟩

theorem NonRegression.refl (state : ExitRuntimeState) : NonRegression state state :=
  ⟨le_rfl, le_rfl, le_rfl, le_rfl, id, le_rfl, id⟩

theorem NonRegression.trans {a b c : ExitRuntimeState} (h : NonRegression a b)
    (h' : NonRegression b c) : NonRegression a c :=
  ⟨h.peak.trans h'.peak, h.peakR.trans h'.peakR, h.floor.trans h'.floor, h.stop.trans h'.stop,
    h'.target1 ∘ h.target1, h.banked.trans h'.banked, h'.breakeven ∘ h.breakeven⟩

end Bhiksha
