import Bhiksha.Library.Table
import Bhiksha.Library.Transaction
import Bhiksha.Ops.ShadowEnvelope

/-! The table of shadow states, which refuses a change of identity and a regression. -/

namespace Bhiksha.Lab

open Library

/-- A row of `exit_edge_shadow_envelope_state`. -/
structure ShadowRow extends ShadowEnvelopeState where
  updatedAt : String
deriving DecidableEq, Repr

structure ShadowKey where
  tradeId : String
  experimentId : String
  candidateId : String
deriving DecidableEq, Repr

def ShadowEnvelopeState.key (state : ShadowEnvelopeState) : ShadowKey :=
  ⟨state.tradeId, state.experimentId, state.candidateId⟩

def ShadowRow.key (row : ShadowRow) : ShadowKey := row.toShadowEnvelopeState.key

abbrev ShadowTable := Table ShadowRow.key

/-- A statement's row and the instant it is stamped with. -/
abbrev ShadowBatch := List (ShadowEnvelopeState × String)

/-- The columns that `ON CONFLICT DO UPDATE` assigns. -/
def assignState (state : ShadowEnvelopeState) (updatedAt : String) (row : ShadowRow) : ShadowRow :=
  { row with
    lockedFloorR := state.lockedFloorR
    lastEvaluatedAt := state.lastEvaluatedAt
    lastObservationId := state.lastObservationId
    stateRevision := state.stateRevision
    updatedAt := updatedAt }

theorem key_assignState (state : ShadowEnvelopeState) (updatedAt : String) (row : ShadowRow) :
    (assignState state updatedAt row).key = row.key := rfl

def upsertState (state : ShadowEnvelopeState) (updatedAt : String) (table : ShadowTable) :
    ShadowTable :=
  table.upsert { toShadowEnvelopeState := state, updatedAt } (assignState state updatedAt)
    (key_assignState state updatedAt)

/-- The checks of a state against the row that is stored for it. -/
def checkState (state : ShadowEnvelopeState) (row : ShadowRow) : Except PyException Unit := do
  raiseIf ((row.candidatePolicyId, row.candidatePolicyHash) ≠
      (state.candidatePolicyId, state.candidatePolicyHash))
    (.valueError "shadow candidate policy identity changed")
  raiseIf (row.lockedFloorR.isSome ∧ state.lockedFloorR.isNone)
    (.valueError "shadow candidate floor cannot be cleared")
  raiseIf (∃ prior ∈ row.lockedFloorR, ∃ floor ∈ state.lockedFloorR, floor < prior)
    (.valueError "shadow candidate floor regressed")
  raiseIf (state.stateRevision < row.stateRevision)
    (.valueError "shadow candidate state revision regressed")
  raiseIf (state.stateRevision = row.stateRevision ∧
      (state.lockedFloorR, state.lastEvaluatedAt, state.lastObservationId) ≠
        (row.lockedFloorR, row.lastEvaluatedAt, row.lastObservationId))
    (.valueError "shadow candidate equal revision is not idempotent")

/-- The statements for one state. -/
def persistState (entry : ShadowEnvelopeState × String) : Tx PyException ShadowTable Unit := do
  let existing ← Tx.query fun table : ShadowTable => table.get? entry.1.key
  match existing with
  | some row => liftM (checkState entry.1 row)
  | none => pure ()
  Tx.execute (upsertState entry.1 entry.2)

def persistStates : ShadowBatch → Tx PyException ShadowTable Unit
  | [] => pure ()
  | entry :: rest => do
    persistState entry
    persistStates rest

/-- `persist_shadow_envelope_states`: one transaction over the whole batch. -/
def persistShadowEnvelopeStates (readOnly : Bool) (batch : ShadowBatch) (table : ShadowTable) :
    Except PyException Unit × ShadowTable :=
  if readOnly then
    (.error (.valueError "read-only prospective repository cannot persist shadow state"), table)
  else Tx.run (Tx.committing (persistStates batch)) table

end Bhiksha.Lab
