import Bhiksha.Ops.PairedReplay

/-! The rows of evidence of a risk-envelope experiment, and those of its control arm. -/

namespace Bhiksha.Lab

structure ControlDecision where
  rule : String
  action : String
deriving DecidableEq, Repr

/-- What `_envelope_observation` records of one arm at one quote. -/
structure EnvelopeObservation where
  observationId : String
  tradeId : String
  deploymentId : String
  experimentId : String
  candidateId : String
  candidateType : String
  candidatePolicyId : String
  candidatePolicyHash : String
  sequence : ℤ
  quoteSource : String
  quoteFeed : String
  quoteAt : String
  receivedAt : String
  quoteAgeMs : ℚ
  bid : Option ℚ
  ask : Option ℚ
  spread : Option ℚ
  executableExitReferencePremium : Option ℚ
  currentR : ℚ
  rawPeakR : ℚ
  confirmedPeakR : ℚ
  candidateFloorR : Option ℚ
  lockedFloorR : Option ℚ
  hypotheticalStopPremium : Option ℚ
  wouldRatchet : Bool
  wouldBreach : Bool
  candidateActive : Bool
  controlDecision : ControlDecision
deriving DecidableEq, Repr

/-- What an arm hands to `_envelope_observation` beside the case and the quote. -/
structure ArmReading where
  currentR : ℚ
  rawPeakR : ℚ
  confirmedPeakR : ℚ
  candidateFloorR : Option ℚ := none
  lockedFloorR : Option ℚ := none
  hypotheticalStopPremium : Option ℚ := none
  wouldRatchet : Bool := false
  wouldBreach : Bool := false
  candidateActive : Bool

def observationId (case : ExitEdgeCase) (quote : QuoteTapeMark) (arm : EnvelopeArm) : String :=
  s!"{case.tradeId}:{quote.sequence}:{arm.candidateId}"

def envelopeObservation (lab : LabPlatform) (case : ExitEdgeCase) (experimentId : String)
    (arm : EnvelopeArm) (quote : QuoteTapeMark) (reading : ArmReading) (control : ControlDecision) :
    EnvelopeObservation where
  observationId := observationId case quote arm
  tradeId := case.tradeId
  deploymentId := case.deploymentId
  experimentId := experimentId
  candidateId := arm.candidateId
  candidateType := ManagementPolicySpec.textOr arm.candidateType "dynamic_envelope"
  candidatePolicyId := arm.candidatePolicyId
  candidatePolicyHash := arm.candidatePolicyHash
  sequence := quote.sequence
  quoteSource := quote.source
  quoteFeed := quote.feed
  quoteAt := lab.isoformat quote.quoteAt
  receivedAt := lab.isoformat quote.receivedAt
  quoteAgeMs := quote.ageMs
  bid := quote.bid
  ask := quote.ask
  spread := match quote.ask, quote.bid with
    | some ask, some bid => some (ask - bid)
    | _, _ => none
  executableExitReferencePremium := quote.bid
  currentR := reading.currentR
  rawPeakR := reading.rawPeakR
  confirmedPeakR := reading.confirmedPeakR
  candidateFloorR := reading.candidateFloorR
  lockedFloorR := reading.lockedFloorR
  hypotheticalStopPremium := reading.hypotheticalStopPremium
  wouldRatchet := reading.wouldRatchet
  wouldBreach := reading.wouldBreach
  candidateActive := reading.candidateActive
  controlDecision := control

/-- The experiment of a case whose `risk_envelope` is present. -/
def riskEnvelope (case : ExitEdgeCase) : Except PyException RiskEnvelopeExperiment :=
  match case.experiment.riskEnvelope with
  | some experiment => .ok experiment
  | none => .error (.keyError "risk_envelope")

/-- `(float(quote.bid) - entry_premium) / risk`, where `risk` is not zero. -/
def currentROf (case : ExitEdgeCase) (bid : ℚ) : Except PyException ℚ :=
  let risk := case.profile.stopPct * case.entryPremium
  if risk = 0 then .error .zeroDivisionError else .ok ((bid - case.entryPremium) / risk)

/-- The control loop's variables; the rows come in the order of the tape. -/
structure ControlState where
  ladder : ProfileExitState
  peakR : ℚ := 0
  terminal : Bool := false
  observations : List EnvelopeObservation := []
deriving DecidableEq, Repr

/-- What the control ladder decides on a quote, and what it is afterwards. After its first full exit it
decides nothing more. -/
def controlDecide (lab : LabPlatform) (case : ExitEdgeCase) (quote : QuoteTapeMark) (bid : ℚ)
    (state : ControlState) : Except PyException (ControlDecision × ProfileExitState × Bool) := do
  if state.terminal then return (⟨"terminal", "terminal"⟩, state.ladder, true)
  else
    let (decision, ladder) ← evaluateQuote lab case case.profile quote bid state.ladder
    return (⟨decision.rule.text, decision.fsmAction.text⟩, ladder,
      decision.exit ∧ decision.fsmAction ∈ [.squareOff, .hardFlat])

def controlTurn (lab : LabPlatform) (case : ExitEdgeCase) (arm : EnvelopeArm) (state : ControlState)
    (quote : QuoteTapeMark) : Except PyException ControlState := do
  let bid ← floatBid quote
  let currentR ← currentROf case bid
  let peakR := max state.peakR currentR
  let (control, ladder, terminal) ← controlDecide lab case quote bid state
  let experiment ← riskEnvelope case
  let reading : ArmReading :=
    { currentR, rawPeakR := peakR, confirmedPeakR := peakR, candidateActive := ¬ terminal }
  return {
    ladder
    peakR
    terminal
    observations := state.observations ++
      [envelopeObservation lab case experiment.experimentId arm quote reading control] }

/-- `_control_observations`, as the list of its rows; each stands under the sequence of its quote. -/
def controlObservations (lab : LabPlatform) (case : ExitEdgeCase) (controlArm : EnvelopeArm) :
    Except PyException (List EnvelopeObservation) := do
  let state ← case.quotes.foldlM (controlTurn lab case controlArm)
    { ladder := ProfileExitState.new case.entryPremium (some case.quantity) }
  return state.observations

end Bhiksha.Lab
