import Mathlib.Data.Rat.Defs
import Mathlib.Order.WithBot
import Bhiksha.Python
import Bhiksha.Library.Table
import Bhiksha.Library.Transaction

/-! The durable records of Exit Engine V2 and the SQLite tables that hold them. Premiums, prices
and R multiples are finite floats, read as the rationals they denote; a `datetime` is its ISO
text. -/

namespace Bhiksha

open Library

/-- A JSON object, over the type `V` of its values. -/
abbrev JsonObject (V : Type) := List (String × V)

/-- `json.dumps` with `allow_nan=False` and with `default=str`, and SHA-256 in hexadecimal. -/
structure Codec (V : Type) where
  dumpsCanonical : JsonObject V → Except PyException String
  dumpsPayload : JsonObject V → String
  sha256Hex : String → String

structure TradeExitPolicySnapshot (V : Type) where
  tradeId : String
  deploymentId : String
  optionSymbol : Option String
  activePlanId : Option String
  startupConfigId : Option String
  policySchemaVersion : String
  policyId : String
  policyHash : String
  canonicalPolicy : JsonObject V
  provenance : JsonObject V := []
  frozenAt : Option String := none

structure ExitRuntimeState where
  tradeId : String
  deploymentId : String
  optionSymbol : Option String
  policyHash : String
  seedEntryPremium : ℚ
  seedQuantity : ℤ
  initialRiskPerContract : ℚ
  rawPeakPremium : ℚ
  confirmedPeakR : ℚ
  peakTimestamp : Option String := none
  lockedFloorR : Option ℚ := none
  committedStopPrice : Option ℚ := none
  target1Banked : Bool := false
  bankedQuantity : ℤ := 0
  breakevenEmitted : Bool := false
  runnerState : String := "pre_t1"
  recoveryStatus : String := "active"
  degradedReason : Option String := none
  lastEvaluatedAt : Option String := none
  stateVersion : ℤ := 1
deriving DecidableEq, Repr

/-- The column `status` of an action intent. -/
inductive IntentStatus where
  | prepared
  | submitted
  | confirmed
  | failed
  | abandoned
deriving DecidableEq, Repr

namespace IntentStatus

def text : IntentStatus → String
  | prepared => "prepared"
  | submitted => "submitted"
  | confirmed => "confirmed"
  | failed => "failed"
  | abandoned => "abandoned"

/-- The statuses that `resolve_action_intent` records. -/
def IsTerminal (s : IntentStatus) : Prop := s = confirmed ∨ s = failed ∨ s = abandoned

instance : DecidablePred IsTerminal := fun s =>
  inferInstanceAs (Decidable (s = confirmed ∨ s = failed ∨ s = abandoned))

end IntentStatus

structure ExitActionIntent where
  idempotencyKey : String
  tradeId : String
  policyHash : String
  actionKind : String
  actionSlot : String
  expectedStateVersion : ℤ
  requestedQuantity : Option ℤ := none
  requestedStopPrice : Option ℚ := none
  requestedFloorR : Option ℚ := none
  priorStopOrderId : Option String := none
  priorStopPrice : Option ℚ := none
  handoffStage : String := "prepared"
  status : IntentStatus := .prepared
  brokerOrderId : Option String := none
  restoreOrderId : Option String := none
  brokerPayloadJson : Option String := none
  createdAt : Option String := none
  updatedAt : Option String := none
deriving DecidableEq, Repr

/-- The columns that a second freeze of a trade has to repeat. -/
structure PolicyIdentity where
  deploymentId : String
  optionSymbol : Option String
  activePlanId : Option String
  startupConfigId : Option String
  policySchemaVersion : String
  policyId : String
  policyHash : String
  canonicalPolicyJson : String
  provenanceJson : String
deriving DecidableEq, Repr

/-- A row of `trade_exit_policy_snapshots`. -/
structure PolicyRow extends PolicyIdentity where
  tradeId : String
  frozenAt : String
deriving DecidableEq, Repr

/-- A row of `trade_exit_runtime_state`. -/
structure RuntimeRow extends ExitRuntimeState where
  updatedAt : String
deriving DecidableEq, Repr

def RuntimeRow.key (row : RuntimeRow) : String := row.tradeId

structure ExitDb where
  policies : Table PolicyRow.tradeId
  runtime : Table RuntimeRow.key
  intents : Table ExitActionIntent.idempotencyKey

def ExitDb.empty : ExitDb := ⟨Table.empty, Table.empty, Table.empty⟩

/-- An optional floor or stop price in the order in which `None` lies below every value. -/
def floorLevel : Option ℚ → WithBot ℚ
  | none => ⊥
  | some x => x

end Bhiksha
