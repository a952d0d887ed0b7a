import Bhiksha.Python

/-! The exit-profile dials and the state that the profile ladder carries from tick to tick. Premiums,
fractions and R multiples are finite floats, read as the rationals they denote. -/

namespace Bhiksha

inductive ProfileLadderRule where
  | hold
  | initialStop
  | disasterStop
  | target1Partial
  | target2Runner
  | highWaterGiveback
  | policyFloor
  | noProgress
  | maxHold
  | eodFlat
deriving DecidableEq, Repr

inductive ProfileFsmAction where
  | hold
  | squareOff
  | partialScale
  | stopToBreakeven
  | hardFlat
deriving DecidableEq, Repr

/-- A value of the free-form dictionary `policy_floor`. -/
inductive PolicyValue where
  | null
  | bool (b : Bool)
  | number (q : ℚ)
  | text (s : String)
deriving DecidableEq, Repr

namespace PolicyValue

def truthy : PolicyValue → Bool
  | null => false
  | bool b => b
  | number q => q ≠ 0
  | text s => s ≠ ""

/-- The operand of an arithmetic or order operator, where `True` and `False` are `1` and `0`. -/
def operand : PolicyValue → Except PyException ℚ
  | bool b => .ok (if b then 1 else 0)
  | number q => .ok q
  | null => .error (.unsupportedOperand "NoneType")
  | text _ => .error (.unsupportedOperand "str")

end PolicyValue

abbrev PolicyDict := List (String × PolicyValue)

/-- `d.get(key)`. -/
def PolicyDict.get (d : PolicyDict) (key : String) : PolicyValue := (d.lookup key).getD .null

/-- `d[key]`. -/
def PolicyDict.item (d : PolicyDict) (key : String) : Except PyException PolicyValue :=
  match d.lookup key with
  | some v => .ok v
  | none => .error (.keyError key)

/-- `GIVEBACK_TIERS`: the R at which a tier arms and the fraction of the peak it gives back. -/
def givebackTiers : List (String × ℚ × ℚ) :=
  [("OFF", 0, 0), ("STRICT", 1, 33 / 100), ("MODERATE", 5 / 4, 1 / 2), ("LOOSE", 3 / 2, 66 / 100)]

/-- `ProfileExitFields`; its last field is what `__post_init__` enforces. -/
structure ProfileExitFields where
  profileId : String
  target1R : Option ℚ := none
  target2R : Option ℚ := none
  target1Quantity : ℚ := 1
  initialStopPct : Option ℚ := none
  premiumDisasterStopPct : Option ℚ := none
  optionStopFallbackPct : ℚ := 45 / 100
  targetR : ℚ := 0
  noProgressSeconds : Option ℤ := none
  maxHoldSeconds : Option ℤ := none
  highWaterGivebackPolicy : String := "OFF"
  breakevenAfterT1 : Bool := true
  eodFlat : Bool := true
  hardFlatTimeEt : String := "15:55"
  noProgressFavorableFloorR : ℚ := 1 / 4
  policySchemaVersion : Option String := none
  policyId : Option String := none
  policyHash : Option String := none
  policyFloor : PolicyDict := []
  explicitGivebackArmR : Option ℚ := none
  explicitGivebackRetraceFraction : Option ℚ := none
  initial_le_disaster : ∀ initial ∈ initialStopPct, ∀ disaster ∈ premiumDisasterStopPct,
    0 < initial → 0 < disaster → initial ≤ disaster

namespace ProfileExitFields

variable (fields : ProfileExitFields)

/-- `candidate is not None and candidate > 0`. -/
def positive? (candidate : Option ℚ) : Option ℚ := candidate.filter (0 < ·)

def stopPct : ℚ :=
  ((positive? fields.initialStopPct <|> positive? fields.premiumDisasterStopPct) <|>
    positive? (some fields.optionStopFallbackPct)).getD (45 / 100)

def disasterStopPct : Option ℚ := positive? fields.premiumDisasterStopPct

def givebackArmR : Option ℚ :=
  fields.explicitGivebackArmR <|>
    positive? (some ((givebackTiers.lookup fields.highWaterGivebackPolicy.toUpper).getD (0, 0)).1)

def givebackRetraceFrac : ℚ :=
  fields.explicitGivebackRetraceFraction.getD <|
    (positive? (some
      ((givebackTiers.lookup fields.highWaterGivebackPolicy.toUpper).getD (0, 1 / 2)).2)).getD (1 / 2)

def effectiveTarget1R : Option ℚ := positive? fields.target1R

def effectiveTarget2R : Option ℚ :=
  positive? fields.target2R <|> positive? (some fields.targetR)

theorem stopPct_pos : 0 < fields.stopPct := by
  have hpos {o : Option ℚ} {q : ℚ} (h : positive? o = some q) : 0 < q := by
    simpa using (Option.filter_eq_some_iff.mp h).2
  unfold stopPct
  cases hi : positive? fields.initialStopPct with
  | some q => simpa using hpos hi
  | none =>
    cases hd : positive? fields.premiumDisasterStopPct with
    | some q => simpa using hpos hd
    | none =>
      cases hf : positive? (some fields.optionStopFallbackPct) with
      | some q => simpa using hpos hf
      | none => norm_num

end ProfileExitFields

structure ProfileExitState where
  peakPremium : ℚ
  target1Banked : Bool := false
  target1Premium : Option ℚ := none
  stopAtBreakeven : Bool := false
  bankedQuantity : ℤ := 0
  breakevenEmitted : Bool := false
  shadowAdvanced : Bool := false
  seedEntryPremium : Option ℚ := none
  seedQuantity : Option ℤ := none
deriving DecidableEq, Repr

/-- `ProfileExitState.new`. -/
def ProfileExitState.new (entryPremium : ℚ) (seedQuantity : Option ℤ) : ProfileExitState where
  peakPremium := entryPremium
  seedEntryPremium := some entryPremium
  seedQuantity := seedQuantity

/-- A time of day in microseconds since midnight. -/
abbrev ClockTime := ℕ

/-- `dt_time(hour, minute)`. -/
def clockTime (hour minute : ℕ) : ClockTime := (hour * 60 + minute) * 60000000

structure ProfileMarketView where
  currentPremium : Option ℚ
  barTimeEt : Option ClockTime := none
deriving DecidableEq, Repr

/-- A value in the diagnostics of a decision. -/
inductive FeatureValue where
  | null
  | bool (b : Bool)
  | int (z : ℤ)
  | number (q : ℚ)
deriving DecidableEq, Repr

abbrev Features := List (String × FeatureValue)

structure ProfileExitDecision where
  profileId : String
  rule : ProfileLadderRule
  fsmAction : ProfileFsmAction
  reason : String
  exit : Bool
  exitQuantity : ℤ := 0
  targetStopPrice : Option ℚ := none
  cancelProtectionOrders : Bool := false
  features : Features := []
deriving DecidableEq, Repr

def ProfileExitDecision.isPartial (decision : ProfileExitDecision) : Bool :=
  decision.fsmAction = .partialScale

/-- An exit of the whole position. -/
def ProfileExitDecision.isFull (decision : ProfileExitDecision) : Bool :=
  decision.exit && !decision.isPartial

end Bhiksha
