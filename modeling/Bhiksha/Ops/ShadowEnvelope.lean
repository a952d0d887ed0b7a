import Bhiksha.Ops.ControlObservations

/-! The replay of one candidate arm, with a protective floor of its own. -/

namespace Bhiksha.Lab

/-- What the kernel's `advance_locked_floor` answers. -/
structure AdvancedFloor where
  wouldRatchet : Bool
  lockedFloorR : ℚ
deriving DecidableEq, Repr

/-- The floor arithmetic of the kernel package. -/
structure FloorKernel where
  evaluateGivebackFloor : (peakR armR retraceFraction : ℚ) → Except PyException (Option ℚ)
  /-- The candidate floor of `compose_protective_floor`. -/
  composeProtectiveFloor : (initialFloorR previousLockedFloorR : ℚ) →
    (envelopeFloorR givebackFloorR : Option ℚ) → Except PyException ℚ
  advanceLockedFloor : (previousLockedFloorR candidateFloorR ratchetStepR : ℚ) →
    Except PyException AdvancedFloor

structure ShadowEnvelopeState where
  tradeId : String
  experimentId : String
  candidateId : String
  candidatePolicyId : String
  candidatePolicyHash : String
  lockedFloorR : Option ℚ
  lastEvaluatedAt : Option String
  lastObservationId : Option String
  stateRevision : ℤ
deriving DecidableEq, Repr

/-- The loop's variables. -/
structure CandidateState where
  ladder : ProfileExitState
  book : Book
  pending : Option PendingExit := none
  outcome : Option PolicyOutcome := none
  rawPeakR : ℚ := 0
  confirmedPeakR : ℚ := 0
  lockedFloorR : ℚ
  revision : ℤ := 1
  lastEvaluatedAt : Option String := none
  lastObservationId : Option String := none
  observations : List EnvelopeObservation := []
deriving DecidableEq, Repr

/-- The rows of the control arm, by the sequence of their quote. -/
abbrev ControlRows := ℤ → Option EnvelopeObservation

/-- `control_observations[quote.sequence]["control_decision"]`. -/
def controlAt (control : ControlRows) (quote : QuoteTapeMark) : Except PyException ControlDecision :=
  match control quote.sequence with
  | some row => .ok row.controlDecision
  | none => .error (.keyError (toString quote.sequence))

section Candidate

variable (lab : LabPlatform) (kernel : FloorKernel) (case : ExitEdgeCase) (arm : EnvelopeArm)
  (experimentId : String) (control : ControlRows)

def record (state : CandidateState) (quote : QuoteTapeMark) (reading : ArmReading)
    (decided : ControlDecision) : CandidateState :=
  { state with
    observations := state.observations ++
      [envelopeObservation lab case experimentId arm quote reading decided] }

/-- A quote after the candidate's outcome. -/
def closedTurn (state : CandidateState) (quote : QuoteTapeMark) (currentR : ℚ) :
    Except PyException CandidateState := do
  let decided ← controlAt control quote
  return record lab case arm experimentId state quote
    { currentR
      rawPeakR := state.rawPeakR
      confirmedPeakR := state.confirmedPeakR
      lockedFloorR := some state.lockedFloorR
      candidateActive := false } decided

/-- A quote while an exit is pending: its fill, or nothing. -/
def candidateFillTurn (latencyMs maxFreshnessMs : ℚ) (state : CandidateState)
    (pending : PendingExit) (quote : QuoteTapeMark) (bid currentR : ℚ) :
    Except PyException CandidateState := do
  let after :=
    if fills latencyMs maxFreshnessMs pending quote then
      let book := fillAt lab case pending quote bid state.book
      { state with
        book
        pending := none
        outcome :=
          if book.remaining ≤ 0 ∨ ¬ pending.scales then
            some (outcomeOf lab case arm.candidateId pending.rule quote book)
          else none }
    else state
  let decided ← controlAt control quote
  return record lab case arm experimentId after quote
    { currentR
      rawPeakR := state.rawPeakR
      confirmedPeakR := state.confirmedPeakR
      lockedFloorR := some state.lockedFloorR
      hypotheticalStopPremium :=
        some (case.entryPremium + state.lockedFloorR * (case.profile.stopPct * case.entryPremium))
      candidateActive := after.outcome.isNone } decided

/-- The envelope's floor at this peak, where the arm's policy enables it. -/
def envelopeFloorR (peakR : ℚ) : Except PyException (Option ℚ) := do
  let policy := arm.canonicalPolicy
  if policy.riskEnvelopeEnabled.truthy then
    let activationR ← policy.riskEnvelopeActivationR.float
    let target1R ← ((policy.target1R.map PolicyValue.number).getD .null).float
    let initialFloorR ← policy.riskEnvelopeInitialFloorR.float
    let floorAtT1R ← policy.riskEnvelopeFloorAtT1R.float
    let curvature ← policy.riskEnvelopeCurvature.float
    let floorR ← evaluateRiskEnvelope lab.toPlatform peakR (.number activationR) (.number target1R)
      (.number initialFloorR) (.number floorAtT1R) (.number curvature)
    return some floorR
  else return none

/-- The floor of the arm's own giveback, where its overlay overrides it. -/
def givebackFloorR (peakR : ℚ) : Except PyException (Option ℚ) := do
  let overlay := arm.candidateOverlay
  if overlay.get "giveback_mode" = .text "override" then
    let armR ← (← overlay.item "giveback_arm_r").float
    let retraceFraction ← (← overlay.item "giveback_retrace_fraction").float
    kernel.evaluateGivebackFloor peakR armR retraceFraction
  else return none

/-- `overlay.get("ratchet_step_r") or policy.get("risk_envelope_ratchet_step_r") or 0.1`. -/
def ratchetStepR : Except PyException ℚ :=
  ((arm.candidateOverlay.get "ratchet_step_r").orElse
    (arm.canonicalPolicy.riskEnvelopeRatchetStepR.orElse (.number (1 / 10)))).float

/-- A quote that the candidate's ladder and floor decide on. -/
def candidateDecideTurn (fields : ProfileExitFields) (state : CandidateState)
    (quote : QuoteTapeMark) (bid currentR : ℚ) : Except PyException CandidateState := do
  let policy := arm.canonicalPolicy
  let rawPeakR := max state.rawPeakR currentR
  let confirmedPeakR := max state.confirmedPeakR rawPeakR
  let envelopeFloor ← envelopeFloorR lab arm confirmedPeakR
  let givebackFloor ← givebackFloorR kernel arm confirmedPeakR
  let candidateFloorR ← kernel.composeProtectiveFloor (-1) state.lockedFloorR envelopeFloor givebackFloor
  let step ← ratchetStepR arm
  let advanced ← kernel.advanceLockedFloor state.lockedFloorR candidateFloorR step
  let target1R ← ((policy.target1R.map PolicyValue.number).getD .null).float
  let wouldBreach := decide (confirmedPeakR < target1R ∧ currentR ≤ advanced.lockedFloorR)
  let decided ← controlAt control quote
  let evaluated :=
    { state with
      rawPeakR
      confirmedPeakR
      lockedFloorR := advanced.lockedFloorR
      -- every evaluated quote is a new revision, even where the floor stays as it was
      revision := state.revision + 1
      lastEvaluatedAt := some (lab.isoformat quote.receivedAt)
      lastObservationId := some (observationId case quote arm) }
  let recorded := record lab case arm experimentId evaluated quote
    { currentR
      rawPeakR
      confirmedPeakR
      candidateFloorR := some candidateFloorR
      lockedFloorR := some advanced.lockedFloorR
      hypotheticalStopPremium :=
        some (case.entryPremium + advanced.lockedFloorR * (case.profile.stopPct * case.entryPremium))
      wouldRatchet := advanced.wouldRatchet
      wouldBreach
      candidateActive := true } decided
  let (decision, ladder) ← evaluateQuote lab case fields quote bid state.ladder
  return { recorded with
    ladder
    pending :=
      if wouldBreach then
        some
          { trigger := quote
            rule :=
              if policy.riskEnvelopeEnabled.truthy then s!"risk_envelope_{arm.candidateId}"
              else s!"shadow_floor_{arm.candidateId}"
            quantity := state.book.remaining
            scales := false }
      else pendingOf quote decision state.book.remaining }

def candidateTurn (latencyMs maxFreshnessMs : ℚ) (fields : ProfileExitFields)
    (state : CandidateState) (quote : QuoteTapeMark) : Except PyException CandidateState := do
  let bid ← floatBid quote
  let currentR ← currentROf case bid
  if state.outcome.isSome then closedTurn lab case arm experimentId control state quote currentR
  else
    match state.pending with
    | some pending =>
      candidateFillTurn lab case arm experimentId control latencyMs maxFreshnessMs state pending quote
        bid currentR
    | none => candidateDecideTurn lab kernel case arm experimentId control fields state quote bid currentR

def CandidateState.new : Except PyException CandidateState := do
  let policy := arm.canonicalPolicy
  let lockedFloorR ←
    if policy.riskEnvelopeEnabled.truthy then policy.riskEnvelopeInitialFloorR.float else .ok (-1)
  return {
    ladder := ProfileExitState.new case.entryPremium (some case.quantity)
    book := { remaining := case.quantity }
    lockedFloorR }

def shadowStateOf (state : CandidateState) : ShadowEnvelopeState where
  tradeId := case.tradeId
  experimentId := experimentId
  candidateId := arm.candidateId
  candidatePolicyId := arm.candidatePolicyId
  candidatePolicyHash := arm.candidatePolicyHash
  lockedFloorR := some state.lockedFloorR
  lastEvaluatedAt := state.lastEvaluatedAt
  lastObservationId := state.lastObservationId
  stateRevision := state.revision

end Candidate

/-- `_replay_envelope_candidate`. -/
def replayEnvelopeCandidate (lab : LabPlatform) (kernel : FloorKernel) (latencyMs maxFreshnessMs : ℚ)
    (case : ExitEdgeCase) (arm : EnvelopeArm) (control : ControlRows) :
    Except PyException (Option PolicyOutcome × List EnvelopeObservation × ShadowEnvelopeState) := do
  let experiment ← riskEnvelope case
  let fields ← ProfileExitFields.fromManagementSpec lab.floatText arm.canonicalPolicy
  let start ← CandidateState.new case arm
  let state ← case.quotes.foldlM
    (candidateTurn lab kernel case arm experiment.experimentId control latencyMs maxFreshnessMs fields)
    start
  return (state.outcome, state.observations, shadowStateOf case arm experiment.experimentId state)

end Bhiksha.Lab
