import Bhiksha.Python
import Bhiksha.Library.Transaction

/-! Resolution of the risk-manager knobs: operator sheet, then environment, then default. -/

namespace Bhiksha

open Library

/-- One rejected or clamped input, in place of the text that `validation_warnings` carries. -/
inductive SettingsWarning where
  | notBoolean (key raw : String)
  | notNumber (key raw : String)
  | notInteger (key raw : String)
  | outOfRange (name : String) (value replacement : ℚ)
  | flattenBelowHalt (flatten halt : ℚ)
  | minNAboveWindow (minN window : ℤ)
  | openDrawdownUnset (value : ℚ)
deriving DecidableEq, Repr

structure RiskSettings where
  railAEnabled : Bool
  railBEnabled : Bool
  maxDailyDrawdownPct : ℚ
  flattenDailyDrawdownPct : ℚ
  demoteWindow : ℤ
  demoteMinN : ℤ
  demoteThresholdUsd : ℚ
  prospectiveLossEnabled : Bool := true
  maxOpenPositionsPerCluster : ℤ := 1
  openDrawdownWarnPct : Option ℚ := none
  demoteResetAt : Option ℚ := none
  validationWarnings : List SettingsWarning := []
deriving DecidableEq, Repr

/-- Where the knobs come from; `isoInstant` reads an ISO datetime that carries a timezone. -/
structure SettingsEnvironment where
  sheet : Option (String → Option String)
  getenv : String → Option String
  isoInstant : String → Option ℚ

namespace SettingsEnvironment

variable (env : SettingsEnvironment)

def nonBlank (raw : Option String) : Option String := raw.filter fun s => !Python.isBlank s

def sheetKey (key : String) : String := (key.dropPrefix "BHIKSHA_RISK_").toString.toLower

def rawValue (key : String) : Option String :=
  (nonBlank (env.sheet.bind fun get => get (sheetKey key))).or (nonBlank (env.getenv key))

/-- One knob: the default unless the raw text parses, and a warning if it does not. -/
def resolveWith {α : Type} (parse : String → Option α) (warn : String → String → SettingsWarning)
    (key : String) (default : α) : α × List SettingsWarning :=
  match env.rawValue key with
  | none => (default, [])
  | some raw =>
    match parse raw with
    | some value => (value, [])
    | none => (default, [warn key raw])

def parseBool (raw : String) : Option Bool :=
  let normalized := (Python.strip raw).toLower
  if normalized ∈ ["1", "true", "yes", "on"] then some true
  else if normalized ∈ ["0", "false", "no", "off"] then some false
  else none

def resolveBool := env.resolveWith parseBool .notBoolean

def resolveFloat := env.resolveWith Python.float? .notNumber

def resolveOptionalFloat := env.resolveWith (fun raw => (Python.float? raw).map some) .notNumber

def resolveInt := env.resolveWith (fun raw => (Python.float? raw).map Python.truncate) .notInteger

def resolveOptionalDatetime (key : String) (altKeys : List String) :
    Except PyException (Option ℚ) := do
  let sheetValues := (env.sheet.elim [] fun get =>
    (sheetKey key :: altKeys).filterMap fun k => (nonBlank (get k)).map Python.strip).dedup
  raiseIf (1 < sheetValues.length)
    (.valueError "conflicting Rail B reset settings in operator defaults")
  let raw := (sheetValues.head?.or (env.getenv key)).or
    (altKeys.findSome? fun k => nonBlank (env.getenv s!"BHIKSHA_RISK_{k.toUpper}"))
  match raw with
  | none => return none
  | some text =>
    let instant ← orRaise (env.isoInstant (Python.strip text))
      (.valueError s!"{key} must be an ISO datetime with timezone")
    return some instant

end SettingsEnvironment

/-- The range and cross checks at the end of `resolve_risk_settings`. -/
def validateRiskSettings (s : RiskSettings) : RiskSettings :=
  let warn (p : Prop) [Decidable p] (w : SettingsWarning) : List SettingsWarning := if p then [w] else []
  let maxDd := if s.maxDailyDrawdownPct ≤ 0 then 2 else s.maxDailyDrawdownPct
  let flatten := if s.flattenDailyDrawdownPct ≤ 0 then 3 else s.flattenDailyDrawdownPct
  let window := if s.demoteWindow < 1 then 10 else s.demoteWindow
  let minN := if s.demoteMinN < 1 then 10 else s.demoteMinN
  let cluster := if s.maxOpenPositionsPerCluster < 0 then 1 else s.maxOpenPositionsPerCluster
  { s with
    maxDailyDrawdownPct := maxDd
    flattenDailyDrawdownPct := if flatten < maxDd then maxDd else flatten
    demoteWindow := window
    demoteMinN := if window < minN then window else minN
    maxOpenPositionsPerCluster := cluster
    openDrawdownWarnPct := s.openDrawdownWarnPct.filter (0 < ·)
    validationWarnings := s.validationWarnings ++
      warn (s.maxDailyDrawdownPct ≤ 0)
        (.outOfRange "max_daily_drawdown_pct" s.maxDailyDrawdownPct 2) ++
      warn (s.flattenDailyDrawdownPct ≤ 0)
        (.outOfRange "flatten_daily_drawdown_pct" s.flattenDailyDrawdownPct 3) ++
      warn (flatten < maxDd) (.flattenBelowHalt flatten maxDd) ++
      warn (s.demoteWindow < 1) (.outOfRange "demote_window" s.demoteWindow 10) ++
      warn (s.demoteMinN < 1) (.outOfRange "demote_min_n" s.demoteMinN 10) ++
      warn (window < minN) (.minNAboveWindow minN window) ++
      warn (s.maxOpenPositionsPerCluster < 0)
        (.outOfRange "max_open_positions_per_cluster" s.maxOpenPositionsPerCluster 1) ++
      (s.openDrawdownWarnPct.filter (· ≤ 0)).toList.map .openDrawdownUnset }

def resolveRiskSettings (env : SettingsEnvironment) : Except PyException RiskSettings := do
  let railA := env.resolveBool "BHIKSHA_RISK_RAIL_A_ENABLED" true
  let railB := env.resolveBool "BHIKSHA_RISK_RAIL_B_ENABLED" true
  let maxDd := env.resolveFloat "BHIKSHA_RISK_MAX_DAILY_DRAWDOWN_PCT" 2
  let flattenDd := env.resolveFloat "BHIKSHA_RISK_FLATTEN_DAILY_DRAWDOWN_PCT" 3
  let window := env.resolveInt "BHIKSHA_RISK_DEMOTE_WINDOW" 10
  let minN := env.resolveInt "BHIKSHA_RISK_DEMOTE_MIN_N" 10
  let threshold := env.resolveFloat "BHIKSHA_RISK_DEMOTE_THRESHOLD_USD" 0
  let prospective := env.resolveBool "BHIKSHA_RISK_PROSPECTIVE_LOSS_ENABLED" true
  let cluster := env.resolveInt "BHIKSHA_RISK_MAX_OPEN_POSITIONS_PER_CLUSTER" 1
  let warnPct := env.resolveOptionalFloat "BHIKSHA_RISK_OPEN_DRAWDOWN_WARN_PCT" none
  let resetAt ← env.resolveOptionalDatetime "BHIKSHA_RISK_DEMOTE_RESET_AT"
    ["rail_b_reset_at", "demote_reset_at"]
  return validateRiskSettings {
    railAEnabled := railA.1
    railBEnabled := railB.1
    maxDailyDrawdownPct := maxDd.1
    flattenDailyDrawdownPct := flattenDd.1
    demoteWindow := window.1
    demoteMinN := minN.1
    demoteThresholdUsd := threshold.1
    prospectiveLossEnabled := prospective.1
    maxOpenPositionsPerCluster := cluster.1
    openDrawdownWarnPct := warnPct.1
    demoteResetAt := resetAt
    validationWarnings := railA.2 ++ railB.2 ++ maxDd.2 ++ flattenDd.2 ++ window.2 ++ minN.2 ++
      threshold.2 ++ prospective.2 ++ cluster.2 ++ warnPct.2 }

/-- The invariants that the resolver promises. -/
structure RiskSettings.Valid (s : RiskSettings) : Prop where
  max_pos : 0 < s.maxDailyDrawdownPct
  max_le_flatten : s.maxDailyDrawdownPct ≤ s.flattenDailyDrawdownPct
  minN_pos : 1 ≤ s.demoteMinN
  minN_le_window : s.demoteMinN ≤ s.demoteWindow
  cluster_nonneg : 0 ≤ s.maxOpenPositionsPerCluster
  warn_pos : ∀ pct ∈ s.openDrawdownWarnPct, 0 < pct

theorem validateRiskSettings_valid (s : RiskSettings) : (validateRiskSettings s).Valid where
  max_pos := by
    simp only [validateRiskSettings]
    split_ifs <;> linarith
  max_le_flatten := by
    simp only [validateRiskSettings]
    split_ifs <;> linarith
  minN_pos := by
    simp only [validateRiskSettings]
    split_ifs <;> omega
  minN_le_window := by
    simp only [validateRiskSettings]
    split_ifs <;> omega
  cluster_nonneg := by
    simp only [validateRiskSettings]
    split_ifs <;> omega
  warn_pos := by
    intro pct h
    simpa using (Option.filter_eq_some_iff.mp h).2

theorem resolveRiskSettings_valid {env : SettingsEnvironment} {settings : RiskSettings}
    (h : resolveRiskSettings env = .ok settings) : settings.Valid := by
  obtain ⟨resetAt, -, h⟩ := Except.bind_eq_ok_iff.mp h
  obtain rfl := Except.ok.inj h
  exact validateRiskSettings_valid _

end Bhiksha
