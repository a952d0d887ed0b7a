import Bhiksha.ActivePlan.Coverage
import Bhiksha.Library.SortedBy
import Mathlib.Data.String.Basic

/-! How the exit section of a row is compiled: the section, the row's overrides, and the published exit
profile. -/

namespace Bhiksha.ActivePlan

open Library

/-! ### Values -/

namespace Cell

/-- `float(value)`. -/
def float? : Cell → Option ℚ
  | .bool b => some (if b then 1 else 0)
  | .int n => some n
  | .float x => some x
  | .text s => Python.float? s
  | _ => Option.none

/-- The exception that `float(value)` raises. -/
def floatError : Cell → RowFailure
  | .text s => .invalid ("could not convert string to float: " ++ Python.reprString s)
  | cell => .abort (.typeError ("float() argument must be a string or a real number, not " ++
      Python.reprString cell.typeName))

/-- `float(value)`, or what it raises. -/
def toFloat (cell : Cell) : Except RowFailure ℚ :=
  match cell.float? with
  | some q => .ok q
  | Option.none => .error cell.floatError

end Cell

mutual

/-- What an override leaves of one value. -/
def mergeValue (old : Option Cell) : Cell → Cell
  | .object fields =>
    match old with
    | some (.object merged) => .object (deepMerge merged fields)
    | _ => .object fields
  | value => value

/-- `_deep_merge`. -/
def deepMerge (merged : Payload) : List (String × Cell) → Payload
  | [] => merged
  | (key, value) :: rest =>
    deepMerge (merged.set key (mergeValue (merged.lookup key) value)) rest

end

/-! ### The row -/

inductive AuthorizationMode where
  | shadow
  | live
deriving DecidableEq, Repr

inductive Direction where
  | long
  | short
deriving DecidableEq, Repr

/-- The columns of a parsed row that a manual row's compilation reads. -/
structure ActivePlanSheetRow where
  rowId : String
  rowType : String := "manual"
  enabled : Bool := true
  symbol : Option String := none
  authorizationMode : AuthorizationMode := .shadow
  manualSetupType : Option String := none
  direction : Option Direction := none
  triggerPrice : Option ℚ := none
  triggerDirection : Option String := none
  afterTimeEt : Option String := none
  closeByFactor : Option ℚ := none
  endInDays : Option ℤ := none
  maxTradePremiumUsd : Option ℚ := none
  maxContracts : Option ℤ := none
  stopLossPct : Option ℚ := none
  hardFlatTimeEt : Option String := none
  useProfitTarget : Option Bool := none
  profitTargetMultiple : Option ℚ := none
  optionProfitTargetPct : Option ℚ := none
  stopToBreakevenAfterRMultiple : Option ℚ := none
  entryWindowStartEt : Option String := none
  entryWindowEndEt : Option String := none
  notes : Option String := none
  executionOverrides : Payload := []
  riskOverrides : Payload := []
  exitOverrides : Payload := []
  exitOverrides_nodup : (exitOverrides.map Prod.fst).Nodup := by decide
  exitProfileSpec : Option Payload := none
  managementExit : Option String := none
  strategyClass : Option String := none
  compareExits : List String := []
  sourceMetadata : Payload := []

namespace ActivePlanSheetRow

variable (row : ActivePlanSheetRow)

/-- The exit columns of their own that the row sets, in the order in which they are applied. -/
def exitColumns : Payload :=
  [("use_profit_target", row.useProfitTarget.map Cell.bool),
    ("profit_target_multiple", row.profitTargetMultiple.map Cell.float),
    ("option_profit_target_pct", row.optionProfitTargetPct.map Cell.float),
    ("stop_loss_pct", row.stopLossPct.map Cell.float),
    ("hard_flat_time_et", row.hardFlatTimeEt.map Cell.text),
    ("stop_to_breakeven_after_r_multiple", row.stopToBreakevenAfterRMultiple.map Cell.float)].filterMap
      fun column => column.2.map fun value => (column.1, value)

/-- `explicit_keys`. -/
def explicitKeys : List String :=
  row.exitOverrides.map Prod.fst ++ row.exitColumns.map Prod.fst

/-- `bool(row.management_exit)`. -/
def hasManagementExit : Bool :=
  match row.managementExit with
  | some name => name ≠ ""
  | none => false

end ActivePlanSheetRow

/-! ### The published profile -/

/-- `_EXIT_PROFILE_SPEC_FIELD_MAP`: the attributes of a published policy and the fields of the exit. -/
def exitProfileSpecFieldMap : List (String × String) :=
  [("policy_id", "profile_exit_id"), ("target_1_r", "target_1_r"), ("target_2_r", "target_2_r"),
    ("target_1_quantity", "target_1_quantity"), ("initial_stop_pct", "initial_stop_pct"),
    ("premium_disaster_stop_pct", "premium_disaster_stop_pct"),
    ("no_progress_seconds", "no_progress_seconds"), ("max_hold_seconds", "max_hold_seconds"),
    ("high_water_giveback_policy", "high_water_giveback_policy"),
    ("giveback_arm_r", "giveback_arm_r"),
    ("giveback_retrace_fraction", "giveback_retrace_fraction"),
    ("risk_envelope_enabled", "risk_envelope_enabled"),
    ("risk_envelope_activation_r", "risk_envelope_activation_r"),
    ("risk_envelope_initial_floor_r", "risk_envelope_initial_floor_r"),
    ("risk_envelope_curvature", "risk_envelope_curvature"),
    ("risk_envelope_floor_at_t1_r", "risk_envelope_floor_at_t1_r"),
    ("risk_envelope_ratchet_step_r", "risk_envelope_ratchet_step_r"),
    ("breakeven_after_t1", "breakeven_after_t1"), ("eod_flat", "eod_flat"),
    ("no_progress_favorable_floor_r", "no_progress_favorable_floor_r"),
    ("option_stop_fallback_pct", "stop_loss_pct"), ("hard_flat_time_et", "hard_flat_time_et")]

/-- `_BHIKSHA_LEGACY_GIVEBACK_VALUES`. -/
def legacyGivebackValues : List (String × Option (ℚ × ℚ)) :=
  [("OFF", none), ("STRICT", some (1, 33 / 100)), ("MODERATE", some (5 / 4, 1 / 2)),
    ("LOOSE", some (3 / 2, 66 / 100))]

/-- The dials of the ladder, by the attribute of a published policy and the field of the exit; the
favorable floor of the no-progress stop is apart. -/
def ladderDials : List (String × String) :=
  [("target_1_r", "target_1_r"), ("target_2_r", "target_2_r"),
    ("target_1_quantity", "target_1_quantity"), ("initial_stop_pct", "initial_stop_pct"),
    ("premium_disaster_stop_pct", "premium_disaster_stop_pct"),
    ("no_progress_seconds", "no_progress_seconds"), ("max_hold_seconds", "max_hold_seconds"),
    ("giveback_arm_r", "giveback_arm_r"),
    ("giveback_retrace_fraction", "giveback_retrace_fraction"),
    ("breakeven_after_t1", "breakeven_after_t1"), ("eod_flat", "eod_flat"),
    ("option_stop_fallback_pct", "stop_loss_pct"), ("hard_flat_time_et", "hard_flat_time_et")]

def favorableFloorKey : String := "no_progress_favorable_floor_r"

/-- The kernel's `ManagementPolicySpec`: the fields of the model, the document that it makes of a payload
that it accepts, and the hash of a document. It keeps the dials and the parameters that it is given, and no
dial of it is a document of its own. -/
structure PolicyKernel where
  fields : List String
  modelValidate : Payload → Except RowFailure Payload
  policyHash : Payload → Cell
  dials_mem : ∀ dial ∈ ladderDials, dial.1 ∈ fields
  parameters_mem : "parameters" ∈ fields
  isSome_iff : ∀ payload spec, modelValidate payload = .ok spec → ∀ key,
    (spec.lookup key).isSome ↔ key ∈ fields
  keeps : ∀ payload spec, modelValidate payload = .ok spec →
    ∀ key ∈ "parameters" :: favorableFloorKey :: ladderDials.map Prod.fst, key ∈ fields →
      ∀ value, payload.lookup key = some value → spec.lookup key = some value
  scalar : ∀ payload spec, modelValidate payload = .ok spec → ∀ dial ∈ ladderDials,
    ∀ fields, spec.lookup dial.1 ≠ some (.object fields)

variable (kernel : PolicyKernel) (repr : Cell → String)

/-- A document of an older schema under the current one, with the giveback of its policy. -/
def compatiblePayload (spec : Payload) : Except RowFailure Payload :=
  let originalPolicyId := (spec.get "policy_id").str repr
  let payload := (spec.set "policy_schema_version" (.text "exit-policy.v1")).set "policy_id"
    (.text (originalPolicyId ++ ".bhiksha.compat.v1"))
  match legacyGivebackValues.lookup ((spec.get "high_water_giveback_policy").str repr) with
  | none => .error (.abort (.other "KeyError"))
  | some none => .ok payload
  | some (some (arm, retrace)) => .ok ((payload.set "giveback_arm_r" (.float arm)).set
      "giveback_retrace_fraction" (.float retrace))

def isCurrentSchema (spec : Payload) : Bool :=
  match spec.get "policy_schema_version" with
  | .text version => version = "exit-policy.v1"
  | _ => false

/-- The fields of the exit that a document has a value for. -/
def mappedFields (spec : Payload) : Payload :=
  exitProfileSpecFieldMap.filterMap fun (specField, exitField) =>
    match spec.get specField with
    | .none => none
    | value => some (exitField, value)

/-- `_exit_spec_fields_from_management_policy_spec`. -/
def exitSpecFieldsFromManagementPolicySpec (specPayload : Payload) : Except RowFailure Payload := do
  let source ← kernel.modelValidate specPayload
  let spec ← if isCurrentSchema source then pure source
    else do kernel.modelValidate (← compatiblePayload repr source)
  let resolution := if isCurrentSchema source then "source_explicit"
    else "bhiksha_legacy_compatibility_map"
  return (mappedFields spec).merge
    [("profile_exit_id", source.get "policy_id"),
      ("exit_policy_schema_version", spec.get "policy_schema_version"),
      ("exit_policy_id", spec.get "policy_id"), ("exit_policy_hash", kernel.policyHash spec),
      ("exit_policy_snapshot", .object spec),
      ("exit_policy_provenance", .object
        [("resolution", .text resolution), ("source_policy_id", source.get "policy_id"),
          ("source_schema_version", (specPayload.lookup "policy_schema_version").getD
            (.text "management-policy.v2")),
          ("friendly_label_non_authoritative", .bool true)])]

/-- The section has a positive stop that is not the default one. -/
def hasOwnStop (section_ : Payload) : Bool :=
  match (section_.get "stop_loss_pct").float? with
  | some stop => 0 < stop ∧ 1 / 10 ^ 9 < |stop - 45 / 100|
  | none => false

/-- `protected_keys`. -/
def protectedKeys (section_ : Payload) (row : ActivePlanSheetRow) : List String :=
  if "stop_loss_pct" ∉ row.explicitKeys ∧ hasOwnStop section_ then
    row.explicitKeys ++ ["stop_loss_pct"]
  else row.explicitKeys

/-- The dials that are frozen among the parameters beside the favorable floor. -/
def frozenParameterKeys : List String :=
  ["use_profit_target", "option_profit_target_pct", "profit_target_multiple",
    "target_approach_offset_pct", "target_pullback_restore_progress_pct",
    "stop_to_breakeven_after_r_multiple"]

/-- A pass of the loop that writes the resolved fields back into the document. -/
def writeBack (updated : Payload) (payload : Payload) (field : String × String) : Payload :=
  if field.1 ≠ "policy_id" ∧ (payload.lookup field.1).isSome then
    match updated.lookup field.2 with
    | some value => payload.set field.1 value
    | none => payload
  else payload

/-- The parameters of the resolved document. -/
def resolvedParameters (updated : Payload) (parameters : Cell) : Except RowFailure Payload := do
  let parameters : Payload := match parameters with
    | .object fields => fields
    | _ => []
  let floor ← ((updated.lookup favorableFloorKey).getD (.float (1 / 4))).toFloat
  return (parameters.set favorableFloorKey (.float floor)).merge
    (frozenParameterKeys.map fun key => (key, updated.get key))

/-- The fields of a cell that is a document. -/
def documentOf : Cell → Payload
  | .object fields => fields
  | _ => []

/-- `_apply_exit_profile_spec`, on a section that the row's overrides have been applied to. -/
def applyExitProfileSpec (section_ : Payload) (row : ActivePlanSheetRow) :
    Except RowFailure Payload := do
  let specPayload := row.exitProfileSpec.getD []
  if specPayload.isEmpty then return section_
  else
    let mapped ← exitSpecFieldsFromManagementPolicySpec kernel repr specPayload
    let protected_ := protectedKeys section_ row
    let updated := Payload.merge section_ (mapped.filter fun field => field.1 ∉ protected_)
    let snapshot := documentOf (mapped.get "exit_policy_snapshot")
    let resolved := exitProfileSpecFieldMap.foldl (writeBack updated) snapshot
    let parameters ← resolvedParameters updated (resolved.get "parameters")
    let spec ← kernel.modelValidate (resolved.set "parameters" (.object parameters))
    let overrideKeys := sortedBy id
      ((exitProfileSpecFieldMap.map Prod.snd).filter fun key => key ∈ protected_)
    let provenance := (documentOf (mapped.get "exit_policy_provenance")).merge
      [("effective_override_keys", .list (overrideKeys.map Cell.text)),
        ("resolution_stage", .text "after_active_plan_precedence")]
    return updated.merge
      [("exit_policy_schema_version", spec.get "policy_schema_version"),
        ("exit_policy_id", spec.get "policy_id"), ("exit_policy_hash", kernel.policyHash spec),
        ("exit_policy_snapshot", .object spec), ("exit_policy_provenance", .object provenance)]

/-! ### The exit section -/

/-- The overrides that a management exit does not allow beside it. -/
def hasDualAuthority (row : ActivePlanSheetRow) : Bool :=
  !(row.exitProfileSpec.getD []).isEmpty ∨
    (row.exitOverrides.any fun field =>
      field.1 ∉ ["profile_exit_drives_live", "profile_exit_shadow_only"]) ∨
    !row.exitColumns.isEmpty

/-- The exit of a row with a management exit, from the catalog's documents. -/
def applyManagementExit (exitCatalog : List (String × Payload)) (section_ : Payload)
    (row : ActivePlanSheetRow) (managementExit : String) : Except RowFailure Payload := do
  let names := ((managementExit :: row.compareExits).reverse.dedup).reverse
  let documents ← names.mapM fun name =>
    match exitCatalog.lookup name with
    | some document => .ok document
    | none =>
      let field := if name = managementExit then "management_exit" else "compare_exits"
      .error (.invalid ("Unknown " ++ field ++ " profile " ++ Python.reprString name))
  if hasDualAuthority row then
    .error (.invalid "Conflicting dual exit authority: management_exit cannot be combined with legacy exit overrides")
  else
    let resolved ← documents.mapM (exitSpecFieldsFromManagementPolicySpec kernel repr)
    let cleared := section_.filter fun field => field.1 ∉ exitProfileSpecFieldMap.map Prod.snd
    let compared := !row.compareExits.isEmpty
    return Payload.merge (Payload.merge cleared (resolved.headD []))
      [("management_exit", .text managementExit),
        ("compare_exits", .list (if compared then names.map Cell.text else [])),
        ("compare_exit_policies", .list
          (if compared then resolved.map fun fields => fields.get "exit_policy_snapshot" else [])),
        ("profile_exit_drives_live", .bool (row.authorizationMode = .live)),
        ("use_profit_target", .bool false), ("profit_target_multiple", .none),
        ("option_profit_target_pct", .none), ("stop_to_breakeven_after_r_multiple", .none)]

/-- `_apply_exit_overrides`. -/
def applyExitOverrides (exitCatalog : List (String × Payload)) (section_ : Payload)
    (row : ActivePlanSheetRow) : Except RowFailure Payload :=
  if !row.compareExits.isEmpty ∧ !row.hasManagementExit then
    .error (.invalid "compare_exits requires explicit management_exit")
  else if row.hasManagementExit then
    applyManagementExit kernel repr exitCatalog section_ row (row.managementExit.getD "")
  else
    applyExitProfileSpec kernel repr ((deepMerge section_ row.exitOverrides).merge row.exitColumns) row

end Bhiksha.ActivePlan
