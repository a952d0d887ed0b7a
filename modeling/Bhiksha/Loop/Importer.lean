import Mathlib.Logic.Function.Basic
import Bhiksha.ActivePlan.SheetRows

/-! The refresh of the generated deployments from the loop's exports. -/

namespace Bhiksha.Loop

open ActivePlan (Cell Payload)

/-- An exception of the import, by its class. -/
inductive ImportError where
  | valueError (message : String)
  | keyError (key : String)
  | typeError (message : String)
  | attributeError (message : String)
  | other (name : String)
deriving DecidableEq, Repr

/-- What the import takes from outside: the texts of values that are no texts, the instant that a text
denotes, the clock, the text of rounded hours, the validation of a manifest and its YAML text. -/
structure ImportPlatform where
  repr : Cell → String
  instant : String → Option ℚ
  now : String → ℚ
  hoursText : ℚ → String
  modelValidate : Cell → Except ImportError Unit
  safeDump : Cell → String

structure BiasSelection where
  symbol : String
  biasTemplate : String
  horizon : String := "intraday"
  enabled : Bool := true
  maxActiveCandidates : ℤ := 1
deriving DecidableEq, Repr

/-- The inputs of a refresh besides the generated directory. Human-managed files are those under the
deployments directory, by their paths from it. -/
structure RefreshInputs where
  deploymentCandidates : Except ImportError Cell
  playbookCatalog : Except ImportError Cell
  biasInputs : Except ImportError (List BiasSelection)
  maxExportAgeHours : ℤ := 36
  deploymentFiles : List (List String × Except ImportError Cell)

/-- The files of the generated directory, by their paths from it. -/
abbrev GeneratedDir := String → Option String

structure GeneratedDeployment where
  deploymentId : String
  candidateId : Cell
  path : String
  biasTemplate : Cell
  horizon : Cell
  symbol : Cell
  direction : Cell

structure ImportReport where
  generatedDeployments : List GeneratedDeployment
  manualResearchCandidates : List Payload
  issues : List String
  safeForLiveReview : Bool

/-! ### JSON values -/

section Json

variable (platform : ImportPlatform)

def startsWith (start s : String) : Bool := start.toList.isPrefixOf s.toList

/-- `payload[key]`. -/
def item (payload : Payload) (key : String) : Except ImportError Cell :=
  match payload.lookup key with
  | some value => .ok value
  | none => .error (.keyError key)

def getOr (payload : Payload) (key : String) (default : Cell) : Cell :=
  (payload.lookup key).getD default

/-- A method of dictionaries is looked up on a value. -/
def asDict (value : Cell) (method : String) : Except ImportError Payload :=
  match value with
  | .object fields => .ok fields
  | _ => .error (.attributeError (Python.reprString value.typeName ++ " object has no attribute " ++
      Python.reprString method))

/-- `for entry in value`. -/
def iterate : Cell → Except ImportError (List Cell)
  | .list cells => .ok cells
  | .object fields => .ok (fields.map fun field => .text field.1)
  | .text s => .ok (s.toList.map fun c => .text c.toString)
  | value => .error (.typeError (Python.reprString value.typeName ++ " object is not iterable"))

def isText (value : Cell) (expected : String) : Bool :=
  match value with
  | .text s => s = expected
  | _ => false

/-- `value != 2`, negated. -/
def isSchemaVersion : Cell → Bool
  | .int n => n = 2
  | .float x => x = 2
  | _ => false

def candidateIdOf (payload : Payload) : String :=
  Python.strip ((getOr payload "candidate_id" (.text "")).str platform.repr)

end Json

/-! ### Before the directory is touched -/

section Prepare

variable (platform : ImportPlatform)

def loadJson : Except ImportError Cell → Except ImportError Payload
  | .error e => .error e
  | .ok (.object fields) => .ok fields
  | .ok _ => .error (.valueError "Expected JSON object")

def validateContractMetadata (payload : Payload) (expectedContractName : String) :
    Except ImportError Unit :=
  if !isText (payload.get "contract_name") expectedContractName then
    .error (.valueError ("Unexpected contract_name; expected " ++ Python.reprString expectedContractName))
  else if !isSchemaVersion (payload.get "schema_version") then
    .error (.valueError "Unsupported schema_version; expected 2")
  else .ok ()

def allowedPlaybookCoverageStatuses : List String :=
  ["researched_with_survivors", "researched_no_survivors", "not_covered_by_enabled_family"]

def validateContext (key : String) (context : Cell) : Except ImportError Unit :=
  match context with
  | .object fields =>
    match Payload.get fields "coverage_status" with
    | .list _ => .error (.typeError ("unhashable type: " ++ Python.reprString "list"))
    | .object _ => .error (.typeError ("unhashable type: " ++ Python.reprString "dict"))
    | status =>
      if !allowedPlaybookCoverageStatuses.any (isText status) then
        .error (.valueError
          ("Playbook context " ++ Python.reprString key ++ " has invalid coverage_status"))
      else
        match Payload.get fields "covered_by_strategy_families" with
        | .list _ => .ok ()
        | _ => .error (.valueError ("Playbook context " ++ Python.reprString key ++
            " must include covered_by_strategy_families"))
  | _ => .error (.valueError ("Playbook context " ++ Python.reprString key ++ " must be an object"))

def validatePlaybookContexts : Cell → Except ImportError Unit
  | .object contexts => contexts.forM fun (key, context) => validateContext key context
  | _ => .error (.valueError "playbook contexts must be a JSON object")

def stalenessIssues (payload : Payload) (label : String) (maxExportAgeHours : ℤ) : List String :=
  let raw := payload.get "generated_at"
  if !raw.truthy then ["stale_" ++ label ++ ":missing_generated_at"]
  else
    match platform.instant (raw.str platform.repr) with
    | none => ["stale_" ++ label ++ ":invalid_generated_at"]
    | some generatedAt =>
      let age := platform.now label - generatedAt
      if maxExportAgeHours * 3600 < age then
        ["stale_" ++ label ++ ":age_hours=" ++ platform.hoursText (age / 3600)]
      else []

/-- `_candidate_index`, from the candidates that come next. -/
def indexCandidates (indexed : List (String × Payload)) :
    List Cell → Except ImportError (List (String × Payload))
  | [] => .ok indexed
  | .object raw :: rest =>
    let candidateId := candidateIdOf platform raw
    if candidateId = "" then indexCandidates indexed rest
    else if (indexed.lookup candidateId).isSome then
      .error (.valueError ("Duplicate candidate_id in export: " ++ candidateId))
    else indexCandidates (indexed ++ [(candidateId, raw)]) rest
  | _ :: rest => indexCandidates indexed rest

def candidateIndex (candidates : Cell) : Except ImportError (List (String × Payload)) := do
  indexCandidates platform [] (← iterate candidates)

def contextKey (selection : BiasSelection) : String :=
  selection.symbol ++ "|" ++ selection.biasTemplate ++ "|" ++ selection.horizon

/-- The candidates that are selected so far, and the issues. -/
abbrev Selected := List Payload × List String

/-- The loop of `_select_supported_candidates` and of `_select_manual_candidates`: the surface that an
entry's candidate must have, and whether it must be ready. -/
def selectCandidates (candidateById : List (String × Payload)) (surface : String) (ready : Bool)
    (maxActive : ℤ) : List Cell → Selected → Selected
  | [], state => state
  | entry :: rest, (selected, issues) =>
    if maxActive ≤ selected.length then (selected, issues)
    else
      match entry with
      | .object fields =>
        let candidateId := candidateIdOf platform fields
        match candidateById.lookup candidateId with
        | none => selectCandidates candidateById surface ready maxActive rest
            (selected, issues ++ ["playbook_candidate_missing:" ++ candidateId])
        | some candidate =>
          if !isText (candidate.get "surface_class") surface then
            selectCandidates candidateById surface ready maxActive rest
              (selected, issues ++ ["playbook_" ++ surface ++ "_surface_mismatch:" ++ candidateId])
          else if ready ∧ !isText (candidate.get "automation_status") "shadow_ready" then
            selectCandidates candidateById surface ready maxActive rest (selected, issues)
          else
            selectCandidates candidateById surface ready maxActive rest (selected ++ [candidate], issues)
      | _ => selectCandidates candidateById surface ready maxActive rest (selected, issues)

def selectSupportedCandidates (candidateById : List (String × Payload)) (context : Payload)
    (selection : BiasSelection) (issues : List String) : Except ImportError Selected := do
  let entries ← iterate (getOr context "supported_candidates" (.list []))
  return selectCandidates platform candidateById "supported" true selection.maxActiveCandidates entries
    ([], issues)

def selectManualCandidates (candidateById : List (String × Payload)) (context : Payload)
    (selection : BiasSelection) (issues : List String) : Except ImportError Selected := do
  let entries ← iterate (getOr context "proposed_candidates" (.list []))
  return selectCandidates platform candidateById "proposed" false selection.maxActiveCandidates entries
    ([], issues)

/-- What is known before the directory is touched. -/
structure Prepared where
  selectedCandidates : List Payload := []
  manualCandidates : List Payload := []
  issues : List String
  humanIds : List String := []

/-- A pass of the loop over the enabled selections. -/
def selectFor (candidateById : List (String × Payload)) (contexts : Payload) (prepared : Prepared)
    (selection : BiasSelection) : Except ImportError Prepared :=
  let key := contextKey selection
  match contexts.get key with
  | .object context =>
    let coverageStatus := (Payload.get context "coverage_status").str platform.repr
    if coverageStatus = "not_covered_by_enabled_family" then
      .ok { prepared with issues := prepared.issues ++ ["playbook_context_uncovered:" ++ key] }
    else do
      let (supported, issues) ←
        selectSupportedCandidates platform candidateById context selection prepared.issues
      let (manual, issues) ← selectManualCandidates platform candidateById context selection issues
      return { prepared with
        selectedCandidates := prepared.selectedCandidates ++ supported
        manualCandidates := prepared.manualCandidates ++ manual
        issues := issues }
  | _ => .ok { prepared with issues := prepared.issues ++ ["missing_playbook_context:" ++ key] }

/-- `_dedupe_candidates`: the first candidate of each id. -/
def dedupeCandidates (candidates : List Payload) : List Payload :=
  candidates.foldl (fun deduped candidate =>
    let candidateId (candidate : Payload) := (candidate.get "candidate_id").str platform.repr
    if deduped.any fun other => candidateId other = candidateId candidate then deduped
    else deduped ++ [candidate]) []

/-- The file's path, as a text, starts with that of the generated directory. -/
def skippedAsGenerated (path : List String) : Bool := startsWith "generated" ("/".intercalate path)

/-- `_human_managed_deployment_ids`, over the files in the order of their paths. -/
def humanManagedDeploymentIds :
    List (List String × Except ImportError Cell) → Except ImportError (List String)
  | [] => .ok []
  | (path, payload) :: rest =>
    if skippedAsGenerated path then humanManagedDeploymentIds rest
    else do
      let payload ← payload
      let ids ← humanManagedDeploymentIds rest
      match payload with
      | .object fields =>
        match fields.lookup "deployment_id" with
        | some id => return id.str platform.repr :: ids
        | none => return ids
      | _ => return ids

def prepare (inputs : RefreshInputs) : Except ImportError Prepared := do
  let candidatesPayload ← loadJson inputs.deploymentCandidates
  let playbookPayload ← loadJson inputs.playbookCatalog
  validateContractMetadata candidatesPayload "deployment_candidates"
  validateContractMetadata playbookPayload "playbook_catalog"
  let contexts := getOr playbookPayload "contexts" (.object [])
  validatePlaybookContexts contexts
  let biasInputs ← inputs.biasInputs
  let stale := stalenessIssues platform candidatesPayload "deployment_candidates"
      inputs.maxExportAgeHours ++
    stalenessIssues platform playbookPayload "playbook_catalog" inputs.maxExportAgeHours
  let enabled := biasInputs.filter BiasSelection.enabled
  let issues := if enabled.isEmpty then stale ++ ["empty_bias_selection"] else stale
  let candidateById ← candidateIndex platform (getOr candidatesPayload "candidates" (.list []))
  let contextFields ← asDict contexts "get"
  let prepared ← enabled.foldlM (selectFor platform candidateById contextFields) { issues := issues }
  let humanIds ← humanManagedDeploymentIds platform inputs.deploymentFiles
  return { prepared with
    selectedCandidates := dedupeCandidates platform prepared.selectedCandidates
    manualCandidates := dedupeCandidates platform prepared.manualCandidates
    humanIds := humanIds }

/-- `blocked_generation`. -/
def blockedGeneration (issues : List String) : Bool :=
  ["empty_bias_selection", "stale_", "missing_playbook_context"].any fun start =>
    issues.any (startsWith start)

end Prepare

/-! ### The directory -/

section Generate

variable (platform : ImportPlatform)

/-- `payload.setdefault(key, {})`, with the value that is there then. -/
def setDefaultDict (payload : Payload) (key : String) : Payload × Cell :=
  match payload.lookup key with
  | some value => (payload, value)
  | none => (payload.set key (.object []), .object [])

/-- `value[key] = ...` on a dictionary. -/
def setItem (value : Cell) (key : String) (field : Cell) : Except ImportError Cell :=
  match value with
  | .object fields => .ok (.object (Payload.set fields key field))
  | _ => .error (.typeError (Python.reprString value.typeName ++
      " object does not support item assignment"))

/-- `_build_generated_manifest`. -/
def buildGeneratedManifest (candidate : Payload) : Except ImportError Payload := do
  let manifest ← asDict (← item candidate "manifest") "setdefault"
  let (manifest, execution) := setDefaultDict manifest "execution"
  let execution ← setItem execution "shadow_only" (.bool true)
  let manifest := manifest.set "execution" execution
  let (manifest, source) := setDefaultDict manifest "source"
  let source ← asDict source "setdefault"
  let (source, metadata) := setDefaultDict source "metadata"
  let metadata ← asDict metadata "update"
  let candidateId ← item candidate "candidate_id"
  let surfaceClass ← item candidate "surface_class"
  let automationStatus ← item candidate "automation_status"
  let biasTemplate ← item candidate "bias_template"
  let horizon ← item candidate "horizon"
  let metadata := metadata.merge
    [("candidate_id", candidateId), ("surface_class", surfaceClass),
      ("automation_status", automationStatus), ("bias_template", biasTemplate),
      ("horizon", horizon), ("automation_lane", .text "automated_shadow")]
  let source := source.set "metadata" (.object metadata)
  return manifest.set "source" (.object source)

/-- `str(manifest["deployment_id"])`. -/
def deploymentIdOf (manifest : Payload) : Except ImportError String := do
  return (← item manifest "deployment_id").str platform.repr

def fileName (deploymentId : String) : String := deploymentId ++ ".yaml"

/-- The entry of a written deployment in the report. -/
def reportEntry (candidate : Payload) (deploymentId : String) :
    Except ImportError GeneratedDeployment := do
  return {
    deploymentId := deploymentId
    candidateId := ← item candidate "candidate_id"
    path := fileName deploymentId
    biasTemplate := ← item candidate "bias_template"
    horizon := ← item candidate "horizon"
    symbol := ← item candidate "symbol"
    direction := ← item candidate "direction" }

/-- The file is one that `glob("*.yaml")` finds in the directory itself. -/
def isYamlFile (path : String) : Bool :=
  '/' ∉ path.toList ∧ ".yaml".toList.isSuffixOf path.toList

/-- The YAML files of the directory are unlinked. -/
def unlinkYaml (dir : GeneratedDir) : GeneratedDir := fun path =>
  if isYamlFile path then none else dir path

/-- Where the loop that writes the deployments stands. -/
structure Generation where
  dir : GeneratedDir
  issues : List String
  generated : List GeneratedDeployment := []

/-- A pass of the loop, with the exception that it raises. -/
def generateOne (humanIds : List String) (candidate : Payload) (state : Generation) :
    Except ImportError Unit × Generation :=
  match buildGeneratedManifest candidate with
  | .error e => (.error e, state)
  | .ok manifest =>
    match deploymentIdOf platform manifest with
    | .error e => (.error e, state)
    | .ok deploymentId =>
      if deploymentId ∈ humanIds then
        (.ok (), { state with
          issues := state.issues ++ ["deployment_id_collision:" ++ deploymentId] })
      else
        match platform.modelValidate (.object manifest) with
        | .error e => (.error e, state)
        | .ok () =>
          let dir := Function.update state.dir (fileName deploymentId)
            (some (platform.safeDump (.object manifest)))
          match reportEntry candidate deploymentId with
          | .error e => (.error e, { state with dir := dir })
          | .ok entry => (.ok (), { state with dir := dir, generated := state.generated ++ [entry] })

def generateAll (humanIds : List String) :
    List Payload → Generation → Except ImportError Unit × Generation
  | [], state => (.ok (), state)
  | candidate :: rest, state =>
    match generateOne platform humanIds candidate state with
    | (.error e, state) => (.error e, state)
    | (.ok (), state) => generateAll humanIds rest state

end Generate

/-! ### The board and the report -/

section Report

/-- `value.get(key, {})`. -/
def getDict (value : Cell) (key : String) : Except ImportError Cell := do
  return getOr (← asDict value "get") key (.object [])

/-- `", ".join(values)` succeeds. -/
def joinable (value : Cell) : Except ImportError Unit := do
  (← iterate value).forM fun
    | .text _ => .ok ()
    | _ => .error (.typeError "sequence item: expected str instance")

/-- `_manual_candidate_entry`, as far as it can raise, with the required capabilities. -/
def manualCandidateEntry (candidate : Payload) : Except ImportError Cell := do
  let summary ← getDict (← getDict (getOr candidate "evidence" (.object [])) "holdout") "summary"
  let monteCarlo ← getDict (getOr candidate "evidence" (.object [])) "monte_carlo"
  let metadata ← getDict (← getDict (getOr candidate "manifest" (.object [])) "source") "metadata"
  let _ ← asDict (getOr candidate "source" (.object [])) "get"
  let metadata ← asDict metadata "get"
  let _ ← asDict monteCarlo "get"
  let _ ← asDict summary "get"
  return getOr metadata "required_bhiksha_capabilities" (.list [])

/-- `_write_manual_board`: the JSON file is written once each entry is there, the other one line by
line. -/
def writeManualBoard (candidates : List Payload) : Except ImportError Unit := do
  let capabilities ← candidates.mapM manualCandidateEntry
  capabilities.forM joinable

/-- The lines of `_report_markdown` about a manual candidate. -/
def reportLine (candidate : Payload) : Except ImportError Unit :=
  ["candidate_id", "symbol", "direction", "bias_template"].forM fun key => do
    let _ ← item candidate key
    return ()

def writeReport (candidates : List Payload) : Except ImportError Unit := do
  writeManualBoard candidates
  candidates.forM reportLine

end Report

/-- The report, once the board and the report have been written. -/
def finish (prepared : Prepared) (issues : List String) (generated : List GeneratedDeployment) :
    Except ImportError ImportReport := do
  writeReport prepared.manualCandidates
  return {
    generatedDeployments := generated
    manualResearchCandidates := prepared.manualCandidates
    issues := issues
    safeForLiveReview := issues.isEmpty ∧ !generated.isEmpty }

/-- `refresh_generated_deployments`, with the generated directory that it leaves. -/
def refreshGeneratedDeployments (platform : ImportPlatform) (inputs : RefreshInputs)
    (dir : GeneratedDir) : Except ImportError ImportReport × GeneratedDir :=
  match prepare platform inputs with
  | .error e => (.error e, dir)
  | .ok prepared =>
    if blockedGeneration prepared.issues then
      (finish prepared (prepared.issues ++ ["generated_deployments_skipped"]) [], dir)
    else
      match generateAll platform prepared.humanIds prepared.selectedCandidates
          { dir := unlinkYaml dir, issues := prepared.issues } with
      | (.error e, state) => (.error e, state.dir)
      | (.ok (), state) => (finish prepared state.issues state.generated, state.dir)

end Bhiksha.Loop
