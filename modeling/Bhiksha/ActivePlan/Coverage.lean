import Bhiksha.ActivePlan.SheetRows
import Bhiksha.Library.Transaction
import Mathlib.Data.Finset.Card

/-! How the rows of an export become deployments, and how the plan accounts for them. -/

namespace Bhiksha.ActivePlan

/-- The two fields of a deployment that the coverage reads. -/
structure Deployment where
  deploymentId : String
  enabled : Bool
deriving DecidableEq, Repr

/-- A row that does not compile; a policy gate is kept apart from every other refusal. -/
inductive RowFailure where
  | policyGate (reason : String)
  | invalid (reason : String)
  | abort (exc : Abort)
deriving DecidableEq, Repr

/-- What the row compilers check, and the reserved deployments of the weekly route. -/
structure RowCompilers (R : Type) where
  strategyRow : SheetRow R → Except RowFailure Unit
  cartographerManualTriggerRow : SheetRow R → Except RowFailure Unit
  manualTriggerRow : SheetRow R → Except RowFailure Unit
  manualBreakoutRow : SheetRow R → Except RowFailure Unit
  frozenDeployment : SheetRow R → Option Deployment

/-- A row of the strategy catalog that its own schema refused. -/
structure CatalogRefusal where
  reason : String
  payload : Payload
  raw : Payload

/-- What is compiled: a file that the operator exported, or the Google sheets with the weekly rows. -/
inductive SheetExport (R : Type) where
  | csv (fileName : String) (rows : List Payload)
  | json (fileName : String) (payload : Cell)
  | google (strategySheet manualSheet : String) (strategyRows manualRows : List Payload)
    (weeklyRows : List (SheetRow R)) (catalogRefusals : List CatalogRefusal)

section Compile

variable {R : Type}

namespace SheetRow

variable (row : SheetRow R)

def sourceOwner : Cell := row.sourceMetadata.get "source_owner"

/-- The deployment that a row compiler builds carries the row's own id and its own switch. -/
def deployment : Deployment := ⟨row.rowId, row.enabled⟩

end SheetRow

variable (compilers : RowCompilers R)

/-- `_compile_manual_trigger_row`; on the weekly route a reserved deployment stands in for the row's. -/
def compileManualTriggerRow (row : SheetRow R) : Except RowFailure Deployment := do
  compilers.manualTriggerRow row
  match row.sourceOwner with
  | .text "cartographer_weekly" => return (compilers.frozenDeployment row).getD row.deployment
  | _ => return row.deployment

/-- `_compile_row`. -/
def compileRow (repr : Cell → String) (row : SheetRow R) : Except RowFailure Deployment := do
  match row.rowType with
  | .strategy =>
    compilers.strategyRow row
    return row.deployment
  | .manual =>
    let setup ← (normalizedManualSetupType (row.manualSetupType.elim .none .text)).mapError .abort
    if setup = "manual_trigger" then
      let owner := row.sourceOwner
      if (if owner.truthy then owner.str repr else "") = "market_cartographer" then
        compilers.cartographerManualTriggerRow row
        return row.deployment
      else compileManualTriggerRow compilers row
    else
      compilers.manualBreakoutRow row
      return row.deployment

/-- What became of a parsed row in the compilation. -/
inductive Fate where
  | duplicate
  | policyGate (reason : String)
  | refused (reason : String)
  | compiled (deployment : Deployment)
deriving DecidableEq, Repr

/-- The attempt on one row, and which of its exceptions are caught. -/
def fateOf (repr : Cell → String) (row : SheetRow R) : Except Abort Fate :=
  match compileRow compilers repr row with
  | .ok deployment => .ok (.compiled deployment)
  | .error (.policyGate reason) => .ok (.policyGate reason)
  | .error (.invalid reason) => .ok (.refused reason)
  | .error (.abort exc) => .error exc

/-- The rows in order, each with its fate; only the first row of an id is compiled. -/
def compileRows (repr : Cell → String) :
    List String → List (SheetRow R) → Except Abort (List (SheetRow R × Fate))
  | _, [] => .ok []
  | seen, row :: rows =>
    if row.rowId ∈ seen then do
      let rest ← compileRows repr seen rows
      return (row, .duplicate) :: rest
    else do
      let fate ← fateOf compilers repr row
      let rest ← compileRows repr (row.rowId :: seen) rows
      return (row, fate) :: rest

def Fate.deployment? : Fate → Option Deployment
  | .compiled deployment => some deployment
  | _ => none

/-- `_suppressed_row` of a parsed row. -/
def suppressedRow (row : SheetRow R) (reason : String) (suppressionClass : Option String) :
    SuppressedRow where
  reason := reason
  rowId := .text row.rowId
  rowIndex := row.sourceMetadata.get "row_index"
  rowType := .text (match row.rowType with
    | .strategy => "strategy"
    | .manual => "manual")
  sheetName := row.sourceMetadata.get "sheet_name"
  suppressionClass := suppressionClass

def Fate.suppressed? (row : SheetRow R) : Fate → Option SuppressedRow
  | .duplicate => some (suppressedRow row ("Duplicate row_id in active-plan sheet: " ++ row.rowId) none)
  | .policyGate reason => some (suppressedRow row reason (some "policy_gate"))
  | .refused reason => some (suppressedRow row reason none)
  | .compiled _ => none

def deploymentsOf (fates : List (SheetRow R × Fate)) : List Deployment :=
  fates.filterMap fun entry => entry.2.deployment?

def suppressedOf (fates : List (SheetRow R × Fate)) : List SuppressedRow :=
  fates.filterMap fun entry => entry.2.suppressed? entry.1

end Compile

section Coverage

/-- The `coverage` entry of the summary. -/
structure Coverage where
  expectedEnabledRowCount : ℕ
  preObservationCompiledCount : ℕ
  finalLoadedCount : ℕ
  intentionalPreObservationSuppressionCount : ℕ
  policyGateSuppressionCount : ℕ
  unexpectedCoverageLossCount : ℕ
  coverageAccountingGap : ℤ
  intentionalPreObservationSuppressedRowIds : Finset String
  policyGateSuppressedRowIds : Finset String
  unexpectedCoverageLossDeploymentIds : Finset String
  releaseSafe : Bool

/-- The ids of the enabled deployments. -/
def loadedDeploymentIds (deployments : List Deployment) : Finset String :=
  ((deployments.filter fun deployment => deployment.enabled).map Deployment.deploymentId).toFinset

/-- The ids of the suppressed rows that a policy gate suppressed. -/
def policyGateRowIds (repr : Cell → String) (suppressed : List SuppressedRow) : Finset String :=
  ((suppressed.filter fun item => item.rowId.truthy &&
    decide (item.suppressionClass = some "policy_gate")).map fun item => item.rowId.str repr).toFinset

/-- The coverage summary of a compilation. -/
def coverageOf (repr : Cell → String) (expectedEnabledRowIds : List String)
    (deployments : List Deployment) (suppressed : List SuppressedRow) : Coverage :=
  let loaded := loadedDeploymentIds deployments
  let missing := expectedEnabledRowIds.toFinset \ loaded
  let intentional := missing ∩ policyGateRowIds repr suppressed
  let unexpected := missing \ intentional
  let gap : ℤ := (expectedEnabledRowIds.length : ℤ) - (loaded.card + intentional.card + unexpected.card)
  { expectedEnabledRowCount := expectedEnabledRowIds.length
    preObservationCompiledCount := loaded.card
    finalLoadedCount := loaded.card
    intentionalPreObservationSuppressionCount := intentional.card
    policyGateSuppressionCount := intentional.card
    unexpectedCoverageLossCount := unexpected.card + gap.natAbs
    coverageAccountingGap := gap
    intentionalPreObservationSuppressedRowIds := intentional
    policyGateSuppressedRowIds := intentional
    unexpectedCoverageLossDeploymentIds := unexpected
    releaseSafe := decide (unexpected = ∅) && decide (gap = 0) }

/-- The entries of a plan's summary that say how it was compiled. -/
structure Summary where
  rowCount : ℕ
  deploymentCount : ℕ
  enabledDeploymentCount : ℕ
  suppressedCount : ℕ
  coverage : Option Coverage

def requireReleaseSafeCoverage (summary : Summary) : Except PyException Unit :=
  match summary.coverage with
  | none => .error (.valueError "active-plan candidate is missing the required coverage invariant")
  | some coverage =>
    if coverage.releaseSafe = false ∨ coverage.unexpectedCoverageLossCount ≠ 0 then
      .error (.valueError ("active-plan candidate failed coverage gate: " ++
        "unexpected_coverage_loss_count=" ++ toString coverage.unexpectedCoverageLossCount ++
        "; previous active plan preserved"))
    else .ok ()

end Coverage

section Plan

variable {R : Type}

/-- A compiled plan, with the fate of every row it was compiled from. -/
structure CompiledActivePlan (R : Type) where
  fates : List (SheetRow R × Fate)
  deployments : List Deployment
  suppressed : List SuppressedRow
  summary : Summary

/-- The rows that a loader parsed. -/
def parsedRows (records : List (Loaded R)) : List (SheetRow R) :=
  records.filterMap fun
    | .parsed row => some row
    | _ => none

/-- The records that a loader refused. -/
def refusedRows (records : List (Loaded R)) : List SuppressedRow :=
  records.filterMap fun
    | .refused row => some row
    | _ => none

/-- The ids that the loaders expect: those of the enabled rows, and of the refused records that have
one. -/
def expectedEnabledRowIds (repr : Cell → String) (records : List (Loaded R)) : List String :=
  ((parsedRows records).filter fun row => row.enabled).map (fun row => row.rowId) ++
    ((refusedRows records).filter fun item => item.rowId.truthy).map fun item => item.rowId.str repr

variable (compilers : RowCompilers R) (validatePlan : List Deployment → Except Abort Unit)

/-- `compile_active_plan_from_rows`. -/
def compileActivePlanFromRows (repr : Cell → String) (rows : List (SheetRow R))
    (suppressed : List SuppressedRow) (expectedIds : List String) :
    Except Abort (CompiledActivePlan R) := do
  let fates ← compileRows compilers repr [] rows
  let deployments := deploymentsOf fates
  let suppressedRows := suppressed ++ suppressedOf fates
  validatePlan deployments
  return {
    fates := fates
    deployments := deployments
    suppressed := suppressedRows
    summary :=
      { rowCount := rows.length
        deploymentCount := deployments.length
        enabledDeploymentCount := (deployments.filter fun deployment => deployment.enabled).length
        suppressedCount := suppressedRows.length
        coverage := some (coverageOf repr expectedIds deployments suppressedRows) } }

variable (schema : Payload → Except RowError (RowColumns R)) (codec : TextCodec)

/-- The records of an export as the loaders read them, and what the catalog suppressed. -/
structure LoadedExport (R : Type) where
  records : List (Loaded R)
  catalogSuppressed : List SuppressedRow

def CatalogRefusal.suppressedRow (refusal : CatalogRefusal) : SuppressedRow :=
  { suppressedPayload refusal.reason refusal.payload refusal.raw with rowType := .text "catalog" }

/-- `load_sheet_rows_with_report`, and the loading part of `compile_active_plan_from_google_sheets`. -/
def loadExport : SheetExport R → Except Abort (LoadedExport R)
  | .csv fileName rows => do return ⟨← loadCsvRows schema codec fileName rows, []⟩
  | .json fileName (.list items) => do return ⟨← loadJsonRows schema codec fileName items, []⟩
  | .json _ _ => .error (.other "ValueError")
  | .google strategySheet manualSheet strategyRows manualRows weeklyRows catalogRefusals => do
    let strategy ← loadRowsFromSheetRecords schema codec .strategy (some strategySheet) strategyRows
    let manual ← loadRowsFromSheetRecords schema codec .manual (some manualSheet) manualRows
    return ⟨strategy ++ manual ++ weeklyRows.map .parsed,
      catalogRefusals.map CatalogRefusal.suppressedRow⟩

/-- `compile_active_plan_from_sheet`, and the rest of `compile_active_plan_from_google_sheets`: what
the catalog suppressed is reported and not expected. -/
def compileActivePlan (repr : Cell → String) (loaded : LoadedExport R) :
    Except Abort (CompiledActivePlan R) :=
  compileActivePlanFromRows compilers validatePlan repr (parsedRows loaded.records)
    (loaded.catalogSuppressed ++ refusedRows loaded.records)
    (expectedEnabledRowIds repr loaded.records)

end Plan

end Bhiksha.ActivePlan
