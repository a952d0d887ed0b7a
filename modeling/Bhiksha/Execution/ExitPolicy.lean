import Mathlib.Analysis.SpecialFunctions.Pow.Real
import Bhiksha.Execution.ProfileExit
import Bhiksha.Execution.StopRatchet

/-! The dynamic risk envelope and the floor of the safety stack, over any ordered field with a power. -/

namespace Bhiksha.ExitPolicy

/-- The parameters of the envelope, all of them finite numbers. -/
structure EnvelopeParams (K : Type) where
  activationR : K
  target1R : K
  initialFloorR : K
  floorAtT1R : K
  curvature : K

/-- The parameters of `compose_safety_stack_floor_r` beside the target, with its defaults. -/
structure SafetyStack (K : Type) [Field K] where
  envelopeActivationR : K := 1 / 4
  envelopeCurvature : K := 3 / 2
  envelopeInitialFloorR : K := -1
  envelopeFloorAtT1R : K := 0
  givebackArmR : K := 3 / 4
  givebackRetraceFraction : K := 3 / 5

/-- The candidates that a floor was composed from. -/
structure FloorParts (K : Type) where
  existingFloorR : K
  envelopeFloorR : K
  givebackFloorR : Option K

section Definitions

variable {K : Type} [Field K] [LinearOrder K] (pow : K → K → K)

def evaluateRiskEnvelope (p : EnvelopeParams K) (peakR : K) : Except PyException K := do
  if p.target1R ≤ p.activationR then
    throw (.valueError "target_1_r must be greater than activation_r")
  if p.curvature ≤ 0 then
    throw (.valueError "curvature must be greater than zero")
  if p.floorAtT1R < p.initialFloorR then
    throw (.valueError "floor_at_t1_r must not be below initial_floor_r")
  if p.target1R < p.floorAtT1R then
    throw (.valueError "floor_at_t1_r must not exceed target_1_r")
  if peakR ≤ p.activationR then
    return p.initialFloorR
  if p.target1R ≤ peakR then
    return p.floorAtT1R
  let progress := (peakR - p.activationR) / (p.target1R - p.activationR)
  let candidate := p.initialFloorR + (p.floorAtT1R - p.initialFloorR) * pow progress p.curvature
  return min p.floorAtT1R (max p.initialFloorR candidate)

def SafetyStack.envelope (stack : SafetyStack K) (target1R : K) : EnvelopeParams K where
  activationR := stack.envelopeActivationR
  target1R := target1R
  initialFloorR := stack.envelopeInitialFloorR
  floorAtT1R := stack.envelopeFloorAtT1R
  curvature := stack.envelopeCurvature

/-- The part of the peak that the giveback leaves, once the peak has come to the arm. -/
def SafetyStack.givebackFloorR (stack : SafetyStack K) (confirmedPeakR : K) : Option K :=
  if stack.givebackArmR ≤ confirmedPeakR then
    some (confirmedPeakR * (1 - stack.givebackRetraceFraction))
  else none

def composeSafetyStackFloorR (stack : SafetyStack K) (target1R confirmedPeakR existingFloorR : K) :
    Except PyException (K × FloorParts K) := do
  let envelopeFloor ← evaluateRiskEnvelope pow (stack.envelope target1R) confirmedPeakR
  let givebackFloor := stack.givebackFloorR confirmedPeakR
  let floor := givebackFloor.elim (max existingFloorR envelopeFloor)
    (max (max existingFloorR envelopeFloor))
  return (floor, ⟨existingFloorR, envelopeFloor, givebackFloor⟩)

/-- The envelope cut down to whole steps above the initial floor, as the profile ladder takes it. -/
def dynamicEnvelopeFloorR [FloorRing K] (p : EnvelopeParams K) (step peakR : K) :
    Except PyException K := do
  let raw ← evaluateRiskEnvelope pow p peakR
  if step = 0 then
    throw .zeroDivisionError
  return p.initialFloorR + ⌊(raw - p.initialFloorR) / step + 1 / 10 ^ 10⌋ * step

/-- The floors of a run, each of which is the existing floor of the next peak. -/
def floorRun (stack : SafetyStack K) (target1R : K) : K → List K → Except PyException (List K)
  | _, [] => .ok []
  | existing, peak :: peaks => do
    let (floor, _) ← composeSafetyStackFloorR pow stack target1R peak existing
    let floors ← floorRun stack target1R floor peaks
    return floor :: floors

end Definitions

section Envelope

variable {K : Type} [Field K] [LinearOrder K] {pow : K → K → K} {p : EnvelopeParams K}
  {peakR peakR' floorR floorR' : K}

/-- The parameters pass the checks of the envelope. -/
structure EnvelopeParams.Accepted (p : EnvelopeParams K) : Prop where
  activation_lt : p.activationR < p.target1R
  curvature_pos : 0 < p.curvature
  initial_le : p.initialFloorR ≤ p.floorAtT1R
  floor_le : p.floorAtT1R ≤ p.target1R

/-- The value of the envelope at parameters that it accepts. -/
def EnvelopeParams.value (pow : K → K → K) (p : EnvelopeParams K) (peakR : K) : K :=
  if peakR ≤ p.activationR then p.initialFloorR
  else if p.target1R ≤ peakR then p.floorAtT1R
  else
    min p.floorAtT1R (max p.initialFloorR (p.initialFloorR + (p.floorAtT1R - p.initialFloorR) *
      pow ((peakR - p.activationR) / (p.target1R - p.activationR)) p.curvature))

theorem evaluateRiskEnvelope_of_accepted (h : p.Accepted) (peakR : K) :
    evaluateRiskEnvelope pow p peakR = .ok (p.value pow peakR) := by
  unfold evaluateRiskEnvelope EnvelopeParams.value
  rw [if_neg h.activation_lt.not_ge, if_neg h.curvature_pos.not_ge, if_neg h.initial_le.not_gt,
    if_neg h.floor_le.not_gt]
  dsimp only
  split
  · rfl
  split
  · rfl
  · rfl

theorem accepted_of_evaluateRiskEnvelope (h : evaluateRiskEnvelope pow p peakR = .ok floorR) :
    p.Accepted := by
  unfold evaluateRiskEnvelope at h
  by_cases hactivation : p.target1R ≤ p.activationR
  · rw [if_pos hactivation] at h
    cases h
  by_cases hcurvature : p.curvature ≤ 0
  · rw [if_neg hactivation, if_pos hcurvature] at h
    cases h
  by_cases hinitial : p.floorAtT1R < p.initialFloorR
  · rw [if_neg hactivation, if_neg hcurvature, if_pos hinitial] at h
    cases h
  by_cases hfloor : p.target1R < p.floorAtT1R
  · rw [if_neg hactivation, if_neg hcurvature, if_neg hinitial, if_pos hfloor] at h
    cases h
  exact ⟨not_le.mp hactivation, not_le.mp hcurvature, not_lt.mp hinitial, not_lt.mp hfloor⟩

/-- Whether the envelope has a value does not depend on the peak. -/
theorem evaluateRiskEnvelope_eq_ok_iff :
    evaluateRiskEnvelope pow p peakR = .ok floorR ↔ p.Accepted ∧ floorR = p.value pow peakR := by
  constructor
  · intro h
    have haccepted := accepted_of_evaluateRiskEnvelope h
    rw [evaluateRiskEnvelope_of_accepted haccepted] at h
    exact ⟨haccepted, (Except.ok.inj h).symm⟩
  · rintro ⟨haccepted, rfl⟩
    exact evaluateRiskEnvelope_of_accepted haccepted peakR

end Envelope

section Power

variable {K : Type} [Field K] [LinearOrder K] {pow : K → K → K} {p : EnvelopeParams K}
  {peakR peakR' : K}

/-- What is asked of the power: it grows with its base between zero and one. -/
def PowerLaw (pow : K → K → K) : Prop :=
  ∀ c, 0 < c → MonotoneOn (pow · c) (Set.Icc 0 1)

theorem powerLaw_rpow : PowerLaw fun x y : ℝ => x ^ y :=
  fun _ hc _ hx _ _ hxy => Real.rpow_le_rpow hx.1 hxy hc.le

theorem value_range (h : p.Accepted) (peakR : K) :
    p.initialFloorR ≤ p.value pow peakR ∧ p.value pow peakR ≤ p.floorAtT1R := by
  unfold EnvelopeParams.value
  split
  · exact ⟨le_rfl, h.initial_le⟩
  split
  · exact ⟨h.initial_le, le_rfl⟩
  · exact ⟨le_min h.initial_le (le_max_left _ _), min_le_left _ _⟩

variable [IsStrictOrderedRing K]

/-- The way from the activation to the target, as a part of the whole. -/
theorem progress_mem (hlow : p.activationR ≤ peakR) (hhigh : peakR ≤ p.target1R)
    (h : p.activationR < p.target1R) :
    (peakR - p.activationR) / (p.target1R - p.activationR) ∈ Set.Icc (0 : K) 1 := by
  have hspan : 0 < p.target1R - p.activationR := sub_pos.mpr h
  constructor
  · exact div_nonneg (sub_nonneg.mpr hlow) hspan.le
  · rw [div_le_one hspan]
    exact sub_le_sub_right hhigh _

theorem value_mono (hpow : PowerLaw pow) (h : p.Accepted) (hle : peakR ≤ peakR') :
    p.value pow peakR ≤ p.value pow peakR' := by
  -- at a plateau of either peak the range of the envelope decides
  by_cases hlow : peakR ≤ p.activationR
  · have hplateau : p.value pow peakR = p.initialFloorR := if_pos hlow
    rw [hplateau]
    exact (value_range h peakR').1
  by_cases hhigh : p.target1R ≤ peakR'
  · have hplateau : p.value pow peakR' = p.floorAtT1R := by
      unfold EnvelopeParams.value
      rw [if_neg (h.activation_lt.trans_le hhigh).not_ge, if_pos hhigh]
    rw [hplateau]
    exact (value_range h peakR).2
  -- otherwise both lie on the curve
  rw [not_le] at hlow hhigh
  have hcurve : pow ((peakR - p.activationR) / (p.target1R - p.activationR)) p.curvature ≤
      pow ((peakR' - p.activationR) / (p.target1R - p.activationR)) p.curvature := by
    have hbase := progress_mem hlow.le (hle.trans hhigh.le) h.activation_lt
    have hbase' := progress_mem (hlow.le.trans hle) hhigh.le h.activation_lt
    have hspan : 0 ≤ p.target1R - p.activationR := (sub_pos.mpr h.activation_lt).le
    exact hpow p.curvature h.curvature_pos hbase hbase'
      (div_le_div_of_nonneg_right (sub_le_sub_right hle _) hspan)
  unfold EnvelopeParams.value
  rw [if_neg hlow.not_ge, if_neg (hle.trans_lt hhigh).not_ge, if_neg (hlow.trans_le hle).not_ge,
    if_neg hhigh.not_ge]
  have hrise : 0 ≤ p.floorAtT1R - p.initialFloorR := sub_nonneg.mpr h.initial_le
  gcongr

end Power

section Stack

variable {K : Type} [Field K] [LinearOrder K] {pow : K → K → K} {stack : SafetyStack K}
  {target1R peakR peakR' existingR existingR' floorR floorR' : K}

/-- The composed floor at parameters that the envelope accepts. -/
def SafetyStack.value (pow : K → K → K) (stack : SafetyStack K) (target1R peakR existingR : K) : K :=
  (stack.givebackFloorR peakR).elim (max existingR ((stack.envelope target1R).value pow peakR))
    (max (max existingR ((stack.envelope target1R).value pow peakR)))

theorem composeSafetyStackFloorR_eq_ok_iff {parts : FloorParts K} :
    composeSafetyStackFloorR pow stack target1R peakR existingR = .ok (floorR, parts) ↔
      (stack.envelope target1R).Accepted ∧ floorR = stack.value pow target1R peakR existingR ∧
        parts = ⟨existingR, (stack.envelope target1R).value pow peakR, stack.givebackFloorR peakR⟩ := by
  unfold composeSafetyStackFloorR
  cases henvelope : evaluateRiskEnvelope pow (stack.envelope target1R) peakR with
  | error e =>
    refine iff_of_false nofun fun h => ?_
    rw [evaluateRiskEnvelope_of_accepted h.1] at henvelope
    cases henvelope
  | ok envelopeFloor =>
    obtain ⟨haccepted, rfl⟩ := evaluateRiskEnvelope_eq_ok_iff.mp henvelope
    constructor
    · intro h
      obtain ⟨rfl, rfl⟩ := Prod.mk.inj (Except.ok.inj h)
      exact ⟨haccepted, rfl, rfl⟩
    · rintro ⟨-, rfl, rfl⟩
      rfl

theorem existing_le_value (pow : K → K → K) (stack : SafetyStack K) (target1R peakR existingR : K) :
    existingR ≤ stack.value pow target1R peakR existingR := by
  have hbase := le_max_left existingR ((stack.envelope target1R).value pow peakR)
  unfold SafetyStack.value
  cases stack.givebackFloorR peakR with
  | none => exact hbase
  | some giveback => exact hbase.trans (le_max_left _ _)

variable [IsStrictOrderedRing K]

/-- The giveback floor appears once, and from then on it grows with the peak. -/
theorem stackValue_mono (hpow : PowerLaw pow) (h : (stack.envelope target1R).Accepted)
    (hfraction : stack.givebackRetraceFraction ≤ 1) (hpeak : peakR ≤ peakR')
    (hexisting : existingR ≤ existingR') :
    stack.value pow target1R peakR existingR ≤ stack.value pow target1R peakR' existingR' := by
  have hbase : max existingR ((stack.envelope target1R).value pow peakR) ≤
      max existingR' ((stack.envelope target1R).value pow peakR') :=
    max_le_max hexisting (value_mono hpow h hpeak)
  unfold SafetyStack.value SafetyStack.givebackFloorR
  by_cases harmed : stack.givebackArmR ≤ peakR
  · rw [if_pos harmed, if_pos (harmed.trans hpeak)]
    have hkept : 0 ≤ 1 - stack.givebackRetraceFraction := sub_nonneg.mpr hfraction
    exact max_le_max hbase (mul_le_mul_of_nonneg_right hpeak hkept)
  · rw [if_neg harmed]
    split
    · exact hbase.trans (le_max_left _ _)
    · exact hbase

end Stack

section Steps

variable {K : Type} [Field K] [LinearOrder K] [FloorRing K] {pow : K → K → K}
  {p : EnvelopeParams K} {step peakR peakR' floorR floorR' : K}

theorem dynamicEnvelopeFloorR_of_accepted (h : p.Accepted) (peakR : K) :
    dynamicEnvelopeFloorR pow p step peakR = if step = 0 then .error .zeroDivisionError
      else .ok (p.initialFloorR +
        ⌊(p.value pow peakR - p.initialFloorR) / step + 1 / 10 ^ 10⌋ * step) := by
  unfold dynamicEnvelopeFloorR
  rw [evaluateRiskEnvelope_of_accepted h]
  simp only [bind, Except.bind]
  split <;> rfl

theorem dynamicEnvelopeFloorR_eq_ok_iff : dynamicEnvelopeFloorR pow p step peakR = .ok floorR ↔
    p.Accepted ∧ step ≠ 0 ∧ p.initialFloorR +
      ⌊(p.value pow peakR - p.initialFloorR) / step + 1 / 10 ^ 10⌋ * step = floorR := by
  by_cases haccepted : p.Accepted
  · rw [dynamicEnvelopeFloorR_of_accepted haccepted]
    split <;> simp [*]
  · refine iff_of_false (fun h => haccepted ?_) fun h => haccepted h.1
    unfold dynamicEnvelopeFloorR at h
    cases henvelope : evaluateRiskEnvelope pow p peakR with
    | error e =>
      rw [henvelope] at h
      cases h
    | ok raw => exact accepted_of_evaluateRiskEnvelope henvelope

variable [IsStrictOrderedRing K]

/-- Cutting down to steps keeps the order, whichever way the step points. -/
theorem floor_step_mono (base slack : K) {raw raw' : K} (step : K) (h : raw ≤ raw') :
    base + ⌊(raw - base) / step + slack⌋ * step ≤ base + ⌊(raw' - base) / step + slack⌋ * step := by
  have hsub : raw - base ≤ raw' - base := sub_le_sub_right h base
  rcases le_total 0 step with hpos | hneg
  · have hfloor : ⌊(raw - base) / step + slack⌋ ≤ ⌊(raw' - base) / step + slack⌋ :=
      Int.floor_le_floor (by gcongr)
    gcongr
  · have hquotient : (raw' - base) / step + slack ≤ (raw - base) / step + slack := by
      have hdiv := div_le_div_of_nonpos_of_le hneg hsub
      gcongr
    have hfloor : (⌊(raw' - base) / step + slack⌋ : K) ≤ ⌊(raw - base) / step + slack⌋ :=
      Int.cast_le.mpr (Int.floor_le_floor hquotient)
    have hproduct := mul_le_mul_of_nonpos_right hfloor hneg
    gcongr

theorem dynamicEnvelopeFloorR_mono (hpow : PowerLaw pow)
    (h : dynamicEnvelopeFloorR pow p step peakR = .ok floorR)
    (h' : dynamicEnvelopeFloorR pow p step peakR' = .ok floorR') (hle : peakR ≤ peakR') :
    floorR ≤ floorR' := by
  obtain ⟨haccepted, -, rfl⟩ := dynamicEnvelopeFloorR_eq_ok_iff.mp h
  obtain ⟨-, -, rfl⟩ := dynamicEnvelopeFloorR_eq_ok_iff.mp h'
  exact floor_step_mono p.initialFloorR (1 / 10 ^ 10) step (value_mono hpow haccepted hle)

end Steps

section Run

variable {K : Type} [Field K] [LinearOrder K] {pow : K → K → K} {stack : SafetyStack K}
  {target1R : K}

theorem composeSafetyStackFloorR_of_accepted (h : (stack.envelope target1R).Accepted)
    (peakR existingR : K) :
    composeSafetyStackFloorR pow stack target1R peakR existingR =
      .ok (stack.value pow target1R peakR existingR, ⟨existingR,
        (stack.envelope target1R).value pow peakR, stack.givebackFloorR peakR⟩) :=
  composeSafetyStackFloorR_eq_ok_iff.mpr ⟨h, rfl, rfl⟩

/-- No floor of the run is below the one that it was composed on. -/
theorem floorRun_isChain (h : (stack.envelope target1R).Accepted) (existingR : K) (peaks : List K) :
    ∃ floors, floorRun pow stack target1R existingR peaks = .ok floors ∧
      (existingR :: floors).IsChain (· ≤ ·) := by
  induction peaks generalizing existingR with
  | nil => exact ⟨[], rfl, .singleton existingR⟩
  | cons peak peaks ih =>
    obtain ⟨floors, hrun, hchain⟩ := ih (stack.value pow target1R peak existingR)
    refine ⟨stack.value pow target1R peak existingR :: floors, ?_, ?_⟩
    · unfold floorRun
      rw [composeSafetyStackFloorR_of_accepted h]
      simp only [bind, Except.bind, hrun]
      rfl
    · exact .cons_cons (existing_le_value pow stack target1R peak existingR) hchain

end Run

section Ratchet

variable {K : Type} [Field K] [LinearOrder K] [FloorRing K]

/-- The envelope stays in its range, every floor grows with the peak, and a composed floor is never
below the existing one, so that no run of compositions loosens it. -/
structure FloorRatchet (pow : K → K → K) : Prop where
  envelope_range : ∀ p peakR floorR, evaluateRiskEnvelope pow p peakR = .ok floorR →
    p.initialFloorR ≤ floorR ∧ floorR ≤ p.floorAtT1R
  envelope_mono : ∀ p peakR peakR' floorR floorR', peakR ≤ peakR' →
    evaluateRiskEnvelope pow p peakR = .ok floorR →
      evaluateRiskEnvelope pow p peakR' = .ok floorR' → floorR ≤ floorR'
  compose_existing : ∀ stack target1R peakR existingR floorR parts,
    composeSafetyStackFloorR pow stack target1R peakR existingR = .ok (floorR, parts) →
      existingR ≤ floorR
  compose_mono : ∀ stack target1R peakR peakR' existingR existingR' floorR floorR' parts parts',
    stack.givebackRetraceFraction ≤ 1 → peakR ≤ peakR' → existingR ≤ existingR' →
      composeSafetyStackFloorR pow stack target1R peakR existingR = .ok (floorR, parts) →
        composeSafetyStackFloorR pow stack target1R peakR' existingR' = .ok (floorR', parts') →
          floorR ≤ floorR'
  steps_mono : ∀ p step peakR peakR' floorR floorR', peakR ≤ peakR' →
    dynamicEnvelopeFloorR pow p step peakR = .ok floorR →
      dynamicEnvelopeFloorR pow p step peakR' = .ok floorR' → floorR ≤ floorR'
  /-- The envelope accepts the parameters at every peak or at none. -/
  run : ∀ stack target1R firstPeakR firstFloorR,
    evaluateRiskEnvelope pow (stack.envelope target1R) firstPeakR = .ok firstFloorR →
      ∀ existingR peaks, ∃ floors, floorRun pow stack target1R existingR peaks = .ok floors ∧
        (existingR :: floors).Pairwise (· ≤ ·)

theorem floorRatchet_of_powerLaw [IsStrictOrderedRing K] {pow : K → K → K} (hpow : PowerLaw pow) :
    FloorRatchet pow where
  envelope_range p peakR floorR h := by
    obtain ⟨haccepted, rfl⟩ := evaluateRiskEnvelope_eq_ok_iff.mp h
    exact value_range haccepted peakR
  envelope_mono p peakR peakR' floorR floorR' hle h h' := by
    obtain ⟨haccepted, rfl⟩ := evaluateRiskEnvelope_eq_ok_iff.mp h
    obtain ⟨-, rfl⟩ := evaluateRiskEnvelope_eq_ok_iff.mp h'
    exact value_mono hpow haccepted hle
  compose_existing stack target1R peakR existingR floorR parts h := by
    obtain ⟨-, rfl, -⟩ := composeSafetyStackFloorR_eq_ok_iff.mp h
    exact existing_le_value pow stack target1R peakR existingR
  compose_mono stack target1R peakR peakR' existingR existingR' floorR floorR' parts parts'
      hfraction hpeak hexisting h h' := by
    obtain ⟨haccepted, rfl, -⟩ := composeSafetyStackFloorR_eq_ok_iff.mp h
    obtain ⟨-, rfl, -⟩ := composeSafetyStackFloorR_eq_ok_iff.mp h'
    exact stackValue_mono hpow haccepted hfraction hpeak hexisting
  steps_mono p step peakR peakR' floorR floorR' hle h h' := dynamicEnvelopeFloorR_mono hpow h h' hle
  run stack target1R firstPeakR firstFloorR h existingR peaks := by
    obtain ⟨floors, hrun, hchain⟩ :=
      floorRun_isChain (accepted_of_evaluateRiskEnvelope h) existingR peaks
    exact ⟨floors, hrun, List.isChain_iff_pairwise.mp hchain⟩

theorem safety_stack_floor_is_a_ratchet : FloorRatchet fun x y : ℝ => x ^ y :=
  floorRatchet_of_powerLaw powerLaw_rpow

end Ratchet

section Code

variable {V : Type}

/-- The profile ladder evaluates this envelope, at the power of its platform. -/
theorem evaluateRiskEnvelope_eq (platform : Platform) (p : EnvelopeParams ℚ) (peakR : ℚ) :
    Bhiksha.evaluateRiskEnvelope platform peakR (.number p.activationR) (.number p.target1R)
        (.number p.initialFloorR) (.number p.floorAtT1R) (.number p.curvature) =
      evaluateRiskEnvelope platform.pow p peakR := rfl

/-- What the floor of the dynamic family is made of. -/
structure DynamicEnvelope (fields : ProfileExitFields) (p : EnvelopeParams ℚ) (step : ℚ) : Prop where
  family : fields.policyFloor.get "exit_family" = .text "dynamic_envelope"
  enabled : (fields.policyFloor.get "risk_envelope_enabled").truthy
  activation : fields.policyFloor.item "risk_envelope_activation_r" = .ok (.number p.activationR)
  initial : fields.policyFloor.item "risk_envelope_initial_floor_r" = .ok (.number p.initialFloorR)
  floorAtT1 : fields.policyFloor.item "risk_envelope_floor_at_t1_r" = .ok (.number p.floorAtT1R)
  curvature : fields.policyFloor.item "risk_envelope_curvature" = .ok (.number p.curvature)
  step : fields.policyFloor.item "risk_envelope_ratchet_step_r" = .ok (.number step)
  target : fields.effectiveTarget1R = some p.target1R

theorem policyFloorR_eq {fields : ProfileExitFields} {p : EnvelopeParams ℚ} {step : ℚ}
    (h : DynamicEnvelope fields p step) (platform : Platform) (peakR : ℚ) :
    policyFloorR platform fields peakR =
      (dynamicEnvelopeFloorR platform.pow p step peakR).map .number := by
  unfold policyFloorR dynamicEnvelopeFloorR
  dsimp only
  rw [h.family, if_neg (by decide), if_pos ⟨rfl, h.enabled⟩]
  simp only [h.activation, h.initial, h.floorAtT1, h.curvature, h.step, h.target, bind, Except.bind,
    PolicyValue.operand, Option.map_some, Option.getD_some, evaluateRiskEnvelope_eq]
  cases evaluateRiskEnvelope platform.pow p peakR with
  | error e => rfl
  | ok raw =>
    dsimp only
    split <;> rfl

/-- The stop ratchet composes its floor with the default stack. -/
theorem composeSafetyStackFloorR_eq (ctx : Live.RatchetContext V) (peakR target1R existingR : ℚ) :
    Live.composeSafetyStackFloorR ctx peakR target1R existingR =
      (composeSafetyStackFloorR (fun x _ => ctx.power x) {} target1R peakR existingR).map Prod.fst := by
  by_cases htarget : target1R ≤ 1 / 4
  · unfold Live.composeSafetyStackFloorR Live.evaluateRiskEnvelope composeSafetyStackFloorR
      evaluateRiskEnvelope
    have htarget' : (SafetyStack.envelope {} target1R).target1R ≤
        (SafetyStack.envelope {} target1R).activationR := htarget
    rw [if_pos htarget, if_pos htarget']
    rfl
  · have haccepted : (SafetyStack.envelope {} target1R).Accepted := by
      rw [not_le] at htarget
      refine ⟨htarget, ?_, ?_, ?_⟩
      all_goals simp only [SafetyStack.envelope]; linarith
    rw [composeSafetyStackFloorR_of_accepted haccepted]
    have henvelope : Live.evaluateRiskEnvelope ctx peakR target1R =
        .ok ((SafetyStack.envelope {} target1R).value (fun x _ => ctx.power x) peakR) := by
      unfold Live.evaluateRiskEnvelope EnvelopeParams.value
      rw [if_neg htarget]
      simp only [SafetyStack.envelope, zero_sub, neg_neg, one_mul]
      split
      · rfl
      split <;> rfl
    unfold Live.composeSafetyStackFloorR
    rw [henvelope]
    simp only [bind, Except.bind, pure, Except.pure, Except.map, SafetyStack.value,
      SafetyStack.givebackFloorR]
    split <;> rfl

theorem eq_ok_of_map_number {floor : Except PyException ℚ} {q : ℚ}
    (h : floor.map PolicyValue.number = .ok (.number q)) : floor = .ok q := by
  cases floor with
  | error e => cases h
  | ok x =>
    cases h
    rfl

/-- Over the ladder's state: the policy floor grows with the recorded peak. -/
theorem policyFloorR_mono {fields : ProfileExitFields} {p : EnvelopeParams ℚ} {step : ℚ}
    (h : DynamicEnvelope fields p step) {platform : Platform} (hpow : PowerLaw platform.pow)
    {view : LadderView} (hrisk : 0 < view.risk) {peakPremium floorR floorR' : ℚ}
    (hpeak : view.peakPremium ≤ peakPremium)
    (hfloor : policyFloorR platform fields view.peakR = .ok (.number floorR))
    (hfloor' : policyFloorR platform fields { view with peakPremium := peakPremium }.peakR =
      .ok (.number floorR')) : floorR ≤ floorR' := by
  have hpeakR : view.peakR ≤ { view with peakPremium := peakPremium }.peakR := by
    unfold LadderView.peakR
    dsimp only
    split
    · next habove =>
      have habove' : 0 < peakPremium - view.entryPremium := by linarith
      rw [if_pos habove']
      gcongr
    · split
      · next habove => exact (div_pos habove hrisk).le
      · exact le_rfl
  rw [policyFloorR_eq h] at hfloor hfloor'
  exact dynamicEnvelopeFloorR_mono hpow (eq_ok_of_map_number hfloor) (eq_ok_of_map_number hfloor')
    hpeakR

end Code

end Bhiksha.ExitPolicy
