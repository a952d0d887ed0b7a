import Mathlib.Data.List.Sort
import Bhiksha.Risk.RealizedPnl

/-! Rail B recovery: one live probe of a demoted lane against a fresh sample of shadow cases. The
comparison of the cases is the exit edge lab's, and nothing is assumed of it. -/

namespace Bhiksha

/-- The opt-in of a lane, with the bounds that its validation enforces. -/
structure RailBRecoveryPolicy where
  minShadowTrades : ℕ
  minSessions : ℕ
  maxAgeDays : ℕ
  minMeanNetR : ℚ
  roundTripCostPerContractUsd : ℚ
  premiumCapFraction : ℚ
  enoughTrades : 20 ≤ minShadowTrades
  enoughSessions : 5 ≤ minSessions
  ageInRange : 5 ≤ maxAgeDays ∧ maxAgeDays ≤ 60
  meanPositive : 0 < minMeanNetR
  costPositive : 0 < roundTripCostPerContractUsd
  capInRange : 0 < premiumCapFraction ∧ premiumCapFraction ≤ 1 / 4

/-- A shadow case, with the profiles `P` of its experiment. -/
structure ExitEdgeCase (P : Type) where
  tradeId : String
  deploymentId : String
  entryTimestamp : ℚ
  quantity : ℤ
  entryFillKind : Option String
  namedProfiles : Option (List P)

/-- A row of the lab's analysis. -/
structure AnalyzedCase where
  tradeId : String
  status : String
  namedExitOutcomes : List (String × ℚ)
  managementExit : String
  commonEntryRiskUsd : ℚ

/-- Why a consult was decided as it was. -/
inductive RecoveryReason where
  | laneNotAuthorized
  | liveProbeOrPositionAlreadyOpen
  | noClosedLiveEvidence
  | recoveryEvidenceUnavailable
  | insufficientFreshShadowTrades
  | duplicateTradeIdentity
  | incompleteOrCensoredComparisons
  | insufficientIndependentSessions
  | netShadowPerformanceBelowRecoveryFloor
  | reducedRiskProbe
deriving DecidableEq, Repr

/-- The receipt of a consult; `trade_ids` are those of the sample. -/
structure RecoveryReceipt (P : Type) where
  eligible : Bool
  reason : RecoveryReason
  sampleCount : Option ℕ := none
  sample : List (ExitEdgeCase P) := []
  sessionCount : Option ℕ := none
  meanSessionNetR : Option ℚ := none
  evidenceAfter : Option ℚ := none

/-- The comparison, the policy hash and the New York date of an instant. -/
structure ExitEdgeLab (P : Type) where
  analyzeCases : List (ExitEdgeCase P) → Except PyException (List AnalyzedCase)
  canonicalPolicyHash : P → String
  newYorkDate : ℚ → ℤ

def secondsPerDay : ℚ := 86400

def fmean (values : List ℚ) : Except PyException ℚ :=
  if values.isEmpty then .error (.valueError "fmean requires at least one data point")
  else .ok (values.sum / values.length)

variable {P : Type}

section Sample

variable (lab : ExitEdgeLab P) (deploymentId policyHash : String) (since now : ℚ)
  (policy : RailBRecoveryPolicy)

/-- The condition of the comprehension, its conjuncts tried in order. -/
def isEligibleCase (c : ExitEdgeCase P) : Except PyException Bool :=
  if c.deploymentId = deploymentId ∧
      max since (now - policy.maxAgeDays * secondsPerDay) < c.entryTimestamp ∧
      c.entryTimestamp ≤ now ∧ c.entryFillKind = some "modeled_ask_touch" then
    match c.namedProfiles with
    | none => .ok false
    | some [] => .error (.valueError "list index out of range")
    | some (primary :: _) => .ok (lab.canonicalPolicyHash primary = policyHash)
  else .ok false

def eligibleCases : List (ExitEdgeCase P) → Except PyException (List (ExitEdgeCase P))
  | [] => .ok []
  | c :: cases => do
    let keep ← isEligibleCase lab deploymentId policyHash since now policy c
    let rest ← eligibleCases cases
    return if keep then c :: rest else rest

/-- The later entry first, and of two at one instant the greater trade id. -/
def laterFirst (a b : ExitEdgeCase P) : Prop :=
  b.entryTimestamp < a.entryTimestamp ∨
    a.entryTimestamp = b.entryTimestamp ∧ b.tradeId ≤ a.tradeId

instance : DecidableRel (laterFirst (P := P)) := fun _ _ =>
  inferInstanceAs (Decidable (_ ∨ _ ∧ _))

/-- The newest eligible cases. -/
def freshSample (cases : List (ExitEdgeCase P)) : Except PyException (List (ExitEdgeCase P)) := do
  let eligible ← eligibleCases lab deploymentId policyHash since now policy cases
  return (eligible.insertionSort laterFirst).take policy.minShadowTrades

/-- The net result in units of entry risk, under the date of the case; `none` when not paired. -/
def netR (sample : List (ExitEdgeCase P)) (row : AnalyzedCase) :
    Except PyException (Option (ℤ × ℚ)) :=
  if row.status ≠ "paired" then .ok none
  else
    match sample.find? (fun c => c.tradeId = row.tradeId), row.namedExitOutcomes.lookup row.managementExit with
    | none, _ => .error (.keyError row.tradeId)
    | _, none => .error (.keyError row.managementExit)
    | some c, some realizedPnlUsd =>
      if row.commonEntryRiskUsd = 0 then .error .zeroDivisionError
      else
        let net := realizedPnlUsd - policy.roundTripCostPerContractUsd * c.quantity
        .ok (some (lab.newYorkDate c.entryTimestamp, net / row.commonEntryRiskUsd))

/-- The values of all rows, or `none` at the first row that is not paired. -/
def dailyValues (sample : List (ExitEdgeCase P)) :
    List AnalyzedCase → Except PyException (Option (List (ℤ × ℚ)))
  | [] => .ok (some [])
  | row :: rows => do
    match ← netR lab policy sample row with
    | none => return none
    | some value => return (← dailyValues sample rows).map (value :: ·)

/-- The mean of every date, in the order in which the dates first occur. -/
def sessionMeans (values : List (ℤ × ℚ)) : Except PyException (List ℚ) :=
  (values.map Prod.fst).eraseDups.mapM fun date =>
    fmean ((values.filter fun value => value.1 = date).map Prod.snd)

def RecoveryReceipt.refused (reason : RecoveryReason) (sampleCount : Option ℕ) :
    RecoveryReceipt P :=
  { eligible := false, reason := reason, sampleCount := sampleCount }

/-- Complete, fresh, modelled fills for the unchanged primary policy. -/
def assessSample (cases : List (ExitEdgeCase P)) : Except PyException (RecoveryReceipt P) := do
  let sample ← freshSample lab deploymentId policyHash since now policy cases
  if sample.length < policy.minShadowTrades then
    return .refused .insufficientFreshShadowTrades (some sample.length)
  if (sample.map ExitEdgeCase.tradeId).eraseDups.length ≠ sample.length then
    return .refused .duplicateTradeIdentity (some sample.length)
  let rows ← lab.analyzeCases sample
  match ← dailyValues lab policy sample rows with
  | none => return .refused .incompleteOrCensoredComparisons (some sample.length)
  | some values =>
    let means ← sessionMeans values
    let mean ← fmean means
    let receipt : RecoveryReceipt P :=
      { eligible := false
        reason := .insufficientIndependentSessions
        sampleCount := some sample.length
        sample := sample
        sessionCount := some means.length
        meanSessionNetR := some mean
        evidenceAfter := some since }
    if means.length < policy.minSessions then return receipt
    else if (∃ value ∈ means, value < 0) ∨ mean < policy.minMeanNetR then
      return { receipt with reason := .netShadowPerformanceBelowRecoveryFloor }
    else return { receipt with eligible := true, reason := .reducedRiskProbe }

end Sample

/-- The fields of a deployment that a consult reads or overrides. -/
structure LaneDeployment where
  deploymentId : String
  railBRecovery : Option RailBRecoveryPolicy
  shadowOnly : Bool
  runtimeMode : String
  managementExit : Option String
  exitPolicyHash : Option String
  maxTradePremiumUsd : Option ℚ
  maxContracts : Option ℤ

/-- What the trade rows, the tape and the clock answer during one consult. -/
structure RecoveryReads (P : Type) where
  now : ℚ
  demoteResetAt : Option ℚ
  closedTrades : Except PyException (List TradeRecord)
  openTrades : Except PyException (List TradeRecord)
  cases : Except PyException (List (ExitEdgeCase P))

section Candidate

variable (lab : ExitEdgeLab P)

/-- The lane may run a named live exit. -/
def LaneDeployment.authorized (deployment : LaneDeployment) : Bool :=
  !deployment.shadowOnly && deployment.runtimeMode = "live_approval_gated" &&
    isTruthy deployment.managementExit && isTruthy deployment.exitPolicyHash

/-- The exit times of the closed live trades. -/
def liveExits (closed : List TradeRecord) : List ℚ :=
  (closed.filter fun t => isLiveTrade t && isTruthy t.entryOrderId).filterMap
    TradeRecord.exitFilledAt

/-- The instant after which a case is fresh: the last live exit, or a later reset. -/
def evidenceBoundary (demoteResetAt : Option ℚ) (firstExit : ℚ) (exits : List ℚ) : ℚ :=
  let since := exits.foldl max firstExit
  demoteResetAt.elim since (max since)

def assessLane (deployment : LaneDeployment) (policy : RailBRecoveryPolicy)
    (reads : RecoveryReads P) : Except PyException (RecoveryReceipt P) := do
  let closed ← reads.closedTrades
  let openTrades ← reads.openTrades
  if openTrades.any fun t => t.deploymentId = deployment.deploymentId && isLiveTrade t then
    return .refused .liveProbeOrPositionAlreadyOpen none
  match liveExits closed with
  | [] => return .refused .noClosedLiveEvidence none
  | firstExit :: exits =>
    let since := evidenceBoundary reads.demoteResetAt firstExit exits
    let cases ← reads.cases
    assessSample lab deployment.deploymentId (deployment.exitPolicyHash.getD "") since reads.now
      policy cases

/-- The receipt of a consult. -/
def recoveryReceipt (deployment : LaneDeployment) (policy : RailBRecoveryPolicy)
    (reads : RecoveryReads P) : RecoveryReceipt P :=
  if deployment.authorized then
    match assessLane lab deployment policy reads with
    | .ok receipt => receipt
    | .error _ => .refused .recoveryEvidenceUnavailable none
  else .refused .laneNotAuthorized none

/-- The deployment with which a probe runs, and the receipt that was appended. -/
def recoveryCandidate (deployment : LaneDeployment) (reads : RecoveryReads P) :
    Option LaneDeployment × Option (RecoveryReceipt P) :=
  match deployment.railBRecovery with
  | none => (none, none)
  | some policy =>
    let receipt := recoveryReceipt lab deployment policy reads
    let candidate :=
      match deployment.maxTradePremiumUsd with
      | none => none
      | some cap =>
        if !receipt.eligible || cap ≤ 0 then none
        else some
          { deployment with
            maxTradePremiumUsd := some (cap * policy.premiumCapFraction)
            maxContracts := some 1 }
    (candidate, some receipt)

end Candidate

end Bhiksha
