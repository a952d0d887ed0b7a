import Bhiksha.Execution.ProfileFields

/-! A management policy as a canonical document, and the ladder's fields that are read off it. -/

namespace Bhiksha

namespace PolicyValue

/-- `float(value)`. -/
def float : PolicyValue → Except PyException ℚ
  | number q => .ok q
  | bool b => .ok (if b then 1 else 0)
  | text s =>
    match Python.float? s with
    | some q => .ok q
    | none => .error (.valueError s!"could not convert string to float: {Python.reprString s}")
  | null => .error (.typeError "float() argument must be a string or a real number, not None")

/-- `a or b`. -/
def orElse (value other : PolicyValue) : PolicyValue := if value.truthy then value else other

end PolicyValue

/-- A `ManagementPolicySpec` document; a dial that is absent reads as null. -/
structure ManagementPolicySpec where
  policyId : Option String := none
  policySchemaVersion : Option String := none
  policyHash : Option String := none
  target1R : Option ℚ := none
  target2R : Option ℚ := none
  target1Quantity : Option ℚ := none
  initialStopPct : Option ℚ := none
  premiumDisasterStopPct : Option ℚ := none
  optionStopFallbackPct : Option ℚ := none
  targetR : Option ℚ := none
  noProgressSeconds : Option ℤ := none
  maxHoldSeconds : Option ℤ := none
  highWaterGivebackPolicy : Option String := none
  breakevenAfterT1 : Bool := true
  eodFlat : Bool := true
  hardFlatTimeEt : Option String := none
  noProgressFavorableFloorR : PolicyValue := .number (1 / 4)
  parameters : PolicyDict := []
  riskEnvelopeEnabled : PolicyValue := .null
  riskEnvelopeActivationR : PolicyValue := .null
  riskEnvelopeInitialFloorR : PolicyValue := .null
  riskEnvelopeFloorAtT1R : PolicyValue := .null
  riskEnvelopeCurvature : PolicyValue := .null
  riskEnvelopeRatchetStepR : PolicyValue := .null
  givebackArmR : Option ℚ := none
  givebackRetraceFraction : Option ℚ := none
deriving DecidableEq, Repr

namespace ManagementPolicySpec

variable (spec : ManagementPolicySpec)

/-- `get(key, default) or default`, of a text. -/
def textOr (value : Option String) (default : String) : String :=
  if value.getD "" = "" then default else value.getD ""

/-- The parameters, under the six dials of the envelope. -/
def policyFloor : PolicyDict :=
  [("risk_envelope_enabled", spec.riskEnvelopeEnabled),
    ("risk_envelope_activation_r", spec.riskEnvelopeActivationR),
    ("risk_envelope_initial_floor_r", spec.riskEnvelopeInitialFloorR),
    ("risk_envelope_floor_at_t1_r", spec.riskEnvelopeFloorAtT1R),
    ("risk_envelope_curvature", spec.riskEnvelopeCurvature),
    ("risk_envelope_ratchet_step_r", spec.riskEnvelopeRatchetStepR)] ++ spec.parameters

/-- The disaster stop is tighter than the initial one, which `__post_init__` refuses. -/
def Inverted : Prop :=
  ∃ initial ∈ spec.initialStopPct, ∃ disaster ∈ spec.premiumDisasterStopPct,
    0 < initial ∧ 0 < disaster ∧ disaster < initial

instance : Decidable spec.Inverted :=
  inferInstanceAs (Decidable (∃ initial ∈ spec.initialStopPct, _))

end ManagementPolicySpec

/-- `ProfileExitFields.from_management_spec`; `floatText` is the text of a float. -/
def ProfileExitFields.fromManagementSpec (floatText : ℚ → String) (spec : ManagementPolicySpec) :
    Except PyException ProfileExitFields := do
  let profileId := ManagementPolicySpec.textOr spec.policyId "unknown_profile"
  let favorableFloor ← ((spec.parameters.lookup "no_progress_favorable_floor_r").getD
    spec.noProgressFavorableFloorR).float
  if hinverted : spec.Inverted then
    let initial := floatText (spec.initialStopPct.getD 0)
    let disaster := floatText (spec.premiumDisasterStopPct.getD 0)
    .error (.valueError (s!"profile {Python.reprString profileId}: premium_disaster_stop_pct " ++
      s!"({disaster}) is tighter than initial_stop_pct ({initial}); the " ++
      "disaster stop must be wider (>=) than the initial stop"))
  else
    return {
      profileId
      target1R := spec.target1R
      target2R := spec.target2R
      target1Quantity := spec.target1Quantity.getD 1
      initialStopPct := spec.initialStopPct
      premiumDisasterStopPct := spec.premiumDisasterStopPct
      optionStopFallbackPct :=
        if spec.optionStopFallbackPct.getD 0 = 0 then 45 / 100 else spec.optionStopFallbackPct.getD 0
      targetR := spec.targetR.getD 0
      noProgressSeconds := spec.noProgressSeconds
      maxHoldSeconds := spec.maxHoldSeconds
      highWaterGivebackPolicy := ManagementPolicySpec.textOr spec.highWaterGivebackPolicy "OFF"
      breakevenAfterT1 := spec.breakevenAfterT1
      eodFlat := spec.eodFlat
      hardFlatTimeEt := ManagementPolicySpec.textOr spec.hardFlatTimeEt "15:55"
      noProgressFavorableFloorR := favorableFloor
      policySchemaVersion := spec.policySchemaVersion
      policyId := spec.policyId
      policyHash := spec.policyHash
      policyFloor := spec.policyFloor
      explicitGivebackArmR := spec.givebackArmR
      explicitGivebackRetraceFraction := spec.givebackRetraceFraction
      initial_le_disaster := fun initial hinitial disaster hdisaster hpos hpos' =>
        not_lt.mp fun hlt => hinverted ⟨initial, hinitial, disaster, hdisaster, hpos, hpos', hlt⟩ }

end Bhiksha
