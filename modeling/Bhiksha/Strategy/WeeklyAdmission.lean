import Mathlib.Data.List.Pairwise
import Mathlib.Data.List.Nodup
import Bhiksha.Library.Table
import Bhiksha.Library.Trace
import Bhiksha.Strategy.WeeklyChart

/-! The admission of weekly publications: what an import makes of the admitted plans, and the arms that
are executed. -/

namespace Bhiksha.Weekly

open Library

section Source

structure RawCondition where
  rule : Option String
  confirmationTimeframe : Option String
  anchorId : Option String
  /-- The count, if it is an integer. -/
  minimumCompletedBars : Option ℤ
deriving DecidableEq, Repr

/-- What `float` is given for the price of an anchor. -/
inductive RawPrice where
  | number (value : ℚ)
  | notFinite
  | text (raw : String)
  | other (typeName : String)
deriving DecidableEq, Repr

structure RawAnchor where
  anchorId : Option String
  price : Option RawPrice
deriving DecidableEq, Repr

structure Candidate where
  symbol : String
  whatIfAnchors : Option (List RawAnchor)
deriving DecidableEq, Repr

structure Branch where
  id : String
  hasPrerequisite : Bool := false
  bias : Option String
  trigger : Option RawCondition
  tacticalInvalidation : Option RawCondition
  structuralInvalidation : Option RawCondition
  expiresAt : Option String
deriving DecidableEq, Repr

structure Scenario where
  scenarioId : String
  symbol : String
  disposition : Option String
  managementProfile : Option String
  setupType : Option String
  thesis : String := ""
  branches : List Branch
deriving DecidableEq, Repr

structure Book where
  packId : String
  scenarios : List Scenario
deriving DecidableEq, Repr

structure Provenance where
  publicationHash : String
  publishedAt : ℚ
  runId : String
  sourcePath : String
deriving DecidableEq, Repr

/-- What `load_publication` returns. -/
structure Publication where
  book : Book
  candidates : List Candidate
  provenance : Provenance
deriving DecidableEq, Repr

end Source

section Plans

/-- A resolved condition; a structural one may wait for a weekly close. -/
structure PlanCondition (τ : Type) where
  rule : CloseRule
  timeframe : τ
  count : ℕ
  price : ℚ
  anchorId : String
deriving DecidableEq, Repr

inductive StructuralTimeframe where
  | within (timeframe : Timeframe)
  | weekly
deriving DecidableEq, Repr

/-- What all branches of a scenario share. -/
structure PlanSource extends Provenance where
  packId : String
  scenarioId : String
  symbol : String
  authorProfile : Option String
  setupType : Option String
  thesis : String
  admittedAt : ℚ
  scenarioKey : String
deriving DecidableEq, Repr

structure Plan extends PlanSource where
  branchId : String
  deploymentId : String
  trigger : PlanCondition Timeframe
  tacticalInvalidation : PlanCondition Timeframe
  structuralInvalidation : PlanCondition StructuralTimeframe
  direction : String
  validThrough : ℚ
  admissionBlock : Option String := none
  earlyAdmittedAt : Option ℚ := none
deriving DecidableEq, Repr

structure Unsupported where
  source : PlanSource
  deploymentId : Option String := none
  reason : String
deriving DecidableEq, Repr

/-- `str(exc)` of what a branch raises. -/
def reasonText : PyException → String
  | .valueError message | .typeError message => message
  | .keyError key => Python.reprString key
  -- nothing that resolves a branch raises the others
  | _ => ""

def profileMap : List (String × String) :=
  [("TREND_CONTINUATION", "trend_continuation_balanced"),
    ("FLASH_REVERSAL", "flash_reversal_fast_snap"),
    ("EXHAUSTION_REVERSAL", "exhaustion_reversal_climax"),
    ("RANGE_EXPANSION", "trend_continuation_balanced")]

end Plans

section Resolve

/-- A key that has to be there. -/
def item {α : Type} (key : String) (value : Option α) : Except PyException α :=
  value.elim (.error (.keyError key)) .ok

def check (condition : Bool) (message : String) : Except PyException Unit :=
  if condition then .ok () else .error (.valueError message)

def closeRule? : String → Option CloseRule
  | "close_above" => some .closeAbove
  | "close_below" => some .closeBelow
  | _ => none

def timeframe? : String → Option Timeframe
  | "5m" => some (.minutes 5)
  | "39m" => some (.minutes 39)
  | "daily" => some .daily
  | _ => none

def structuralTimeframe? (name : String) : Option StructuralTimeframe :=
  if name = "weekly" then some .weekly else (timeframe? name).map .within

/-- `float(anchor["price"])`; `none` where it is not finite. -/
def anchorPrice : RawPrice → Except PyException (Option ℚ)
  | .number value => .ok (some value)
  | .notFinite => .ok none
  | .text raw =>
    match Python.float? raw with
    | some value => .ok (some value)
    | none => .error (.valueError ("could not convert string to float: " ++ Python.reprString raw))
  | .other typeName =>
    .error (.typeError ("float() argument must be a string or a real number, not " ++
      Python.reprString typeName))

def resolveCondition {τ : Type} (parseTimeframe : String → Option τ) (raw : RawCondition)
    (anchors : List RawAnchor) : Except PyException (PlanCondition τ) :=
  match raw.rule.bind closeRule? with
  | none => .error (.valueError "unsupported confirmation rule")
  | some rule =>
    match raw.confirmationTimeframe.bind parseTimeframe with
    | none => .error (.valueError "unsupported confirmation timeframe")
    | some timeframe => do
      let anchorId ← item "anchor_id" raw.anchorId
      -- the last anchor under an id is the one in the mapping
      let anchor ← item anchorId (anchors.reverse.find? fun a => a.anchorId = some anchorId)
      match ← anchorPrice (← item "price" anchor.price), raw.minimumCompletedBars with
      | some price, some count =>
        if 0 < price ∧ 1 ≤ count ∧ count ≤ 3 then
          return ⟨rule, timeframe, count.toNat, price, anchorId⟩
        else .error (.valueError "invalid source price/confirmation count")
      | _, _ => .error (.valueError "invalid source price/confirmation count")

/-- `{a["anchor_id"]: a for a in candidates[symbol]["what_if_anchors"]}`. -/
def anchorsOf (candidates : List Candidate) (symbol : String) :
    Except PyException (List RawAnchor) := do
  let candidate ← item symbol (candidates.reverse.find? fun c => c.symbol = symbol)
  let anchors ← item "what_if_anchors" candidate.whatIfAnchors
  if anchors.all fun a => a.anchorId.isSome then return anchors
  else .error (.keyError "anchor_id")

variable (stamp : String → Except PyException ℚ)

/-- The body of the `try` of a branch. -/
def resolveBranch (candidates : List Candidate) (scenario : Scenario) (branch : Branch)
    (source : PlanSource) (deploymentId : String) : Except PyException Plan := do
  check (!branch.hasPrerequisite) "prerequisite/retest requires an explicit supported state machine"
  check (branch.bias ∈ [some "bull", some "bear"])
    "neutral branch is not a single-leg directional plan"
  check (scenario.managementProfile.any fun p => (profileMap.lookup p).isSome)
    "unsupported author management profile"
  let anchors ← anchorsOf candidates scenario.symbol
  let trigger ← resolveCondition timeframe? (← item "trigger" branch.trigger) anchors
  let tactical ← resolveCondition timeframe?
    (← item "tactical_invalidation" branch.tacticalInvalidation) anchors
  let structural ← resolveCondition structuralTimeframe?
    (← item "structural_invalidation" branch.structuralInvalidation) anchors
  let direction := if branch.bias = some "bull" then "long" else "short"
  check (trigger.rule = if direction = "long" then CloseRule.closeAbove else CloseRule.closeBelow)
    "branch direction disagrees with trigger"
  check (tactical.rule ≠ trigger.rule) "tactical invalidation must oppose the directional trigger"
  let validThrough ← stamp (← item "expires_at" branch.expiresAt)
  check (source.admittedAt < validThrough) "source branch expired before admission"
  return {
    toPlanSource := source
    branchId := branch.id
    deploymentId := deploymentId
    trigger := trigger
    tacticalInvalidation := tactical
    structuralInvalidation := structural
    direction := direction
    validThrough := validThrough }

/-- The lower-case hexadecimal text of a SHA-256. -/
structure HexDigest where
  chars : List Char
  length_eq : chars.length = 64
  hex : ∀ c ∈ chars, c ∈ "0123456789abcdef".toList

def HexDigest.take (hash : HexDigest) (n : ℕ) : String := String.ofList (hash.chars.take n)

/-- What is digested to name a scenario and a branch. -/
inductive Digested where
  | scenario (packId scenarioId symbol : String)
  | branch (id : String)
deriving DecidableEq, Repr

variable (digest : Digested → HexDigest)

def scenarioKey (packId : String) (scenario : Scenario) : String :=
  "cw-" ++ (digest (.scenario packId scenario.scenarioId scenario.symbol)).take 20

def branchDeploymentId (packId : String) (scenario : Scenario) (branch : Branch) : String :=
  scenarioKey digest packId scenario ++ "-" ++ (digest (.branch branch.id)).take 8

def planSource (publication : Publication) (scenario : Scenario) (admittedAt : ℚ) : PlanSource where
  toProvenance := publication.provenance
  packId := publication.book.packId
  scenarioId := scenario.scenarioId
  symbol := scenario.symbol
  authorProfile := scenario.managementProfile
  setupType := scenario.setupType
  thesis := scenario.thesis
  admittedAt := admittedAt
  scenarioKey := scenarioKey digest publication.book.packId scenario

/-- What a scenario yields: a plan or a reason for each branch, or one reason. -/
def resolveScenario (publication : Publication) (admittedAt : ℚ) (scenario : Scenario) :
    List (Plan ⊕ Unsupported) :=
  let source := planSource digest publication scenario admittedAt
  if scenario.disposition ≠ some "scenario" ∨ scenario.branches = [] then
    [.inr ⟨source, none, "no_executable_directional_branch"⟩]
  else scenario.branches.map fun branch =>
    let deploymentId := branchDeploymentId digest publication.book.packId scenario branch
    match resolveBranch stamp publication.candidates scenario branch source deploymentId with
    | .ok plan => .inl plan
    | .error exc => .inr ⟨source, some deploymentId, reasonText exc⟩

def resolvePlans (publication : Publication) (admittedAt : ℚ) : List Plan × List Unsupported :=
  let rows := publication.book.scenarios.flatMap (resolveScenario stamp digest publication admittedAt)
  (rows.filterMap Sum.getLeft?, rows.filterMap Sum.getRight?)

end Resolve

section Import

def revisionBlock : String := "weekly_source_revision_requires_readmission"

def Plan.block (plan : Plan) : Plan := { plan with admissionBlock := some revisionBlock }

/-- The truth value of `plan.get("admission_block")`. -/
def Plan.blocked (plan : Plan) : Bool := plan.admissionBlock.any (· ≠ "")

structure TimingPolicy where
  mode : String
  entryTimingComparison : String
deriving DecidableEq, Repr

structure ImportCall where
  publication : Publication
  now : ℚ
  policy : Option TimingPolicy := none
deriving DecidableEq, Repr

/-- `admissions.json`. -/
structure Admissions where
  plans : Table Plan.deploymentId
  unsupported : List Unsupported := []
  checkedAt : Option ℚ := none
  source : Option Provenance := none

def Admissions.none : Admissions := { plans := Table.empty }

/-- What stays of a plan that is published again. -/
def Plan.keep (plan previous : Plan) : Plan :=
  if previous.publicationHash = plan.publicationHash then previous else previous.block

theorem Plan.keep_deploymentId (plan previous : Plan) :
    (plan.keep previous).deploymentId = previous.deploymentId := by
  unfold Plan.keep
  split <;> rfl

/-- One round of the loop over the resolved plans. -/
def admitPlan (old : Table Plan.deploymentId × List Unsupported) (plan : Plan) :
    Table Plan.deploymentId × List Unsupported :=
  (old.1.upsert plan plan.keep plan.keep_deploymentId,
    if (old.1.get? plan.deploymentId).any fun p => p.publicationHash ≠ plan.publicationHash then
      old.2 ++ [⟨plan.toPlanSource, some plan.deploymentId,
        "revision_after_admission_retained_frozen_plan"⟩]
    else old.2)

/-- Another publication of the pack is now the current one. -/
def Plan.superseded (publication : Publication) (plan : Plan) : Bool :=
  plan.packId = publication.book.packId &&
    plan.publicationHash ≠ publication.provenance.publicationHash

def Plan.admitEarly (now : ℚ) (plan : Plan) : Plan :=
  { plan with earlyAdmittedAt := plan.earlyAdmittedAt.or (some now) }

def pairedShadow (policy : Option TimingPolicy) : Bool :=
  policy.any fun p => p.mode = "SHADOW" && p.entryTimingComparison = "PAIRED"

/-- The sweep that blocks what the publication supersedes. -/
def blockSuperseded (publication : Publication) (plans : Table Plan.deploymentId) :
    Table Plan.deploymentId :=
  plans.update (Plan.superseded publication) Plan.block fun _ => rfl

/-- Under the paired comparison the plans that may still be entered get their early arm. -/
def admitEarlyArms (call : ImportCall) (plans : Table Plan.deploymentId) :
    Table Plan.deploymentId :=
  plans.update
    (fun plan => pairedShadow call.policy && !plan.blocked && call.now < plan.validThrough)
    (Plan.admitEarly call.now) fun _ => rfl

variable (stamp : String → Except PyException ℚ) (digest : Digested → HexDigest)

/-- `import_publication`: the health that it writes and the admissions. -/
def importPublication (call : ImportCall) (prior : Admissions) : SourceHealth × Admissions :=
  let (plans, unsupported) := resolvePlans stamp digest call.publication call.now
  let (old, unsupported) := plans.foldl admitPlan (prior.plans, unsupported)
  let old := admitEarlyArms call (blockSuperseded call.publication old)
  (⟨call.now, true, (old.rows.filter Plan.blocked).map Plan.deploymentId⟩,
    ⟨old, unsupported, some call.now, some call.publication.provenance⟩)

/-- The admissions after some imports into an empty root. -/
def admissionsAfter (calls : List ImportCall) : Admissions :=
  finish (importPublication stamp digest) Admissions.none calls

end Import

section Arms

def earlySuffix : String := "-early1m"

def armForId (deploymentId : String) : String :=
  if deploymentId.endsWith earlySuffix then "early_1m" else "baseline"

structure ExecutionPlan extends Plan where
  baseDeploymentId : String
  entryArm : String
  authorTrigger : PlanCondition Timeframe
deriving DecidableEq, Repr

def Plan.baseline (plan : Plan) : ExecutionPlan where
  toPlan := plan
  baseDeploymentId := plan.deploymentId
  entryArm := "baseline"
  authorTrigger := plan.trigger

def Plan.early (plan : Plan) (admittedAt : ℚ) : ExecutionPlan :=
  { plan.baseline with
    deploymentId := plan.deploymentId ++ earlySuffix
    entryArm := "early_1m"
    admittedAt := admittedAt
    trigger := { plan.trigger with timeframe := .minutes 1, count := 1 } }

def Plan.arms (plan : Plan) : List ExecutionPlan :=
  plan.baseline :: (plan.earlyAdmittedAt.map plan.early).toList

def PlanCondition.condition (condition : PlanCondition Timeframe) : Condition :=
  ⟨condition.timeframe, condition.rule, condition.price, condition.count⟩

/-- The parameters that `build_rows` gives a deployment. -/
def ExecutionPlan.params (execution : ExecutionPlan) (controls : WeeklyControls) : WeeklyParams where
  deploymentId := execution.deploymentId
  scenarioKey := execution.scenarioKey
  entryArm := execution.entryArm
  controls := controls
  admissionBlock := execution.admissionBlock
  baseDeploymentId := some execution.baseDeploymentId
  validThrough := execution.validThrough
  publishedAt := execution.publishedAt
  admittedAt := execution.admittedAt
  trigger := execution.trigger.condition
  tacticalInvalidation := execution.tacticalInvalidation.condition
  executionWindowStartEt := some (9, 35)

def executionPlans (admissions : Admissions) : List ExecutionPlan :=
  admissions.plans.rows.flatMap Plan.arms

end Arms

end Bhiksha.Weekly
