import Mathlib.Algebra.BigOperators.Group.List.Basic
import Mathlib.Algebra.Order.Ring.Rat
import Bhiksha.Execution.ProfileFields

/-! The profile ladder: one evaluation of the exit rules on the live option premium. -/

namespace Bhiksha

/-- What an evaluation takes from outside: the float power `x ** y`, the New York date of an instant
and the regular session of a date. Instants are seconds, dates are day numbers. -/
structure Platform where
  pow : ℚ → ℚ → ℚ
  newYorkDate : ℚ → ℤ
  session : ℤ → Option (ℚ × ℚ)

def elapsedSeconds (entryTime : Option ℚ) (now : ℚ) : Option ℚ :=
  entryTime.map fun entry => max (now - entry) 0

def elapsedRegularSessionSeconds (platform : Platform) (entryTime : Option ℚ) (now : ℚ) :
    Option ℚ :=
  entryTime.map fun entry =>
    if now ≤ entry then 0
    else
      let first := platform.newYorkDate entry
      let last := platform.newYorkDate now
      ((List.range (last - first + 1).toNat).map fun n =>
        match platform.session (first + n) with
        | some (opened, closed) => max 0 (min now closed - max entry opened)
        | none => 0).sum

/-- `_parse_time`, which falls back to 15:55. -/
def parseTime (value : String) : ℕ × ℕ :=
  match (value.splitOn ":").map Python.int? with
  | some hour :: some minute :: _ =>
    if 0 ≤ hour ∧ hour < 24 ∧ 0 ≤ minute ∧ minute < 60 then (hour.toNat, minute.toNat)
    else (15, 55)
  | _ => (15, 55)

/-- `strftime("%H%M")`. -/
def hhmm (time : ℕ × ℕ) : String :=
  let two (n : ℕ) : String := if n < 10 then s!"0{n}" else s!"{n}"
  two time.1 ++ two time.2

def remainingQuantity (quantity : ℤ) (state : ProfileExitState) : ℤ :=
  if 0 < quantity - state.bankedQuantity then quantity - state.bankedQuantity else quantity

def partialQuantity (quantity : ℤ) (fraction : ℚ) : ℤ :=
  if 1 ≤ fraction then quantity
  else if 1 < quantity then max 1 (min (Python.roundHalfEven (quantity * fraction)) (quantity - 1))
  else quantity

/-- The checks and the curve of `evaluate_risk_envelope`. -/
def evaluateRiskEnvelope (platform : Platform) (peakR : ℚ)
    (activationR target1R initialFloorR floorAtT1R curvature : PolicyValue) :
    Except PyException ℚ := do
  let finiteNumber (name : String) : PolicyValue → Except PyException ℚ
    | .number q => .ok q
    | _ => .error (.typeError s!"{name} must be a finite real number")
  let activationR ← finiteNumber "activation_r" activationR
  let target1R ← finiteNumber "target_1_r" target1R
  let initialFloorR ← finiteNumber "initial_floor_r" initialFloorR
  let floorAtT1R ← finiteNumber "floor_at_t1_r" floorAtT1R
  let curvature ← finiteNumber "curvature" curvature
  if target1R ≤ activationR then
    throw (.valueError "target_1_r must be greater than activation_r")
  if curvature ≤ 0 then
    throw (.valueError "curvature must be greater than zero")
  if floorAtT1R < initialFloorR then
    throw (.valueError "floor_at_t1_r must not be below initial_floor_r")
  if target1R < floorAtT1R then
    throw (.valueError "floor_at_t1_r must not exceed target_1_r")
  if peakR ≤ activationR then
    return initialFloorR
  if target1R ≤ peakR then
    return floorAtT1R
  let progress := (peakR - activationR) / (target1R - activationR)
  let candidate := initialFloorR + (floorAtT1R - initialFloorR) * platform.pow progress curvature
  return min floorAtT1R (max initialFloorR candidate)

/-- The floor that a named exit family sets at the prior peak. -/
def policyFloorR (platform : Platform) (fields : ProfileExitFields) (peakR : ℚ) :
    Except PyException PolicyValue := do
  let p := fields.policyFloor
  if p.get "exit_family" = .text "profit_preservation_ratchet" then
    let armR ← (← p.item "profit_lock_arm_r").operand
    if armR ≤ peakR then p.item "profit_lock_floor_r" else return .null
  else if p.get "exit_family" = .text "dynamic_envelope" ∧ (p.get "risk_envelope_enabled").truthy then
    let activationR ← p.item "risk_envelope_activation_r"
    let initialFloorR ← p.item "risk_envelope_initial_floor_r"
    let floorAtT1R ← p.item "risk_envelope_floor_at_t1_r"
    let curvature ← p.item "risk_envelope_curvature"
    let target1R := (fields.effectiveTarget1R.map PolicyValue.number).getD .null
    let raw ← evaluateRiskEnvelope platform peakR activationR target1R initialFloorR floorAtT1R
      curvature
    let initial ← initialFloorR.operand
    let step ← (← p.item "risk_envelope_ratchet_step_r").operand
    if step = 0 then
      throw .zeroDivisionError
    return .number (initial + ⌊(raw - initial) / step + 1 / 10 ^ 10⌋ * step)
  else return .null

/-- The fired floor, if `floor is not None and current_r <= floor`. -/
def firedPolicyFloor (platform : Platform) (fields : ProfileExitFields) (peakR currentR : ℚ) :
    Except PyException (Option ℚ) := do
  match ← policyFloorR platform fields peakR with
  | .null => return none
  | floor =>
    let floorR ← floor.operand
    return if currentR ≤ floorR then some floorR else none

/-- The quantities that one evaluation computes before it walks the rungs. -/
structure LadderView where
  entryPremium : ℚ
  quantity : ℤ
  risk : ℚ
  elapsed : Option ℚ
  current : Option ℚ
  peakPremium : ℚ
  target1Banked : Bool
  remaining : ℤ

namespace LadderView

variable (view : LadderView)

/-- The prior peak in R, measured before this tick's premium is recorded. -/
def peakR : ℚ :=
  if 0 < view.peakPremium - view.entryPremium then
    (view.peakPremium - view.entryPremium) / view.risk
  else 0

def currentR (current : ℚ) : ℚ := (current - view.entryPremium) / view.risk

/-- `_diag`. -/
def diag : Features :=
  let round4 (q : ℚ) : FeatureValue := .number (Python.roundTo 4 q)
  let orNull (o : Option FeatureValue) : FeatureValue := o.getD .null
  [("entry_premium", round4 view.entryPremium),
    ("current_premium", orNull (view.current.map round4)),
    ("risk_per_contract", round4 view.risk),
    ("current_r", orNull ((view.current.filter fun _ => 0 < view.risk).map
      fun current => round4 (view.currentR current))),
    ("peak_premium", round4 view.peakPremium),
    ("target_1_banked", .bool view.target1Banked),
    ("elapsed_seconds", orNull (view.elapsed.map fun s => .number (Python.roundTo 1 s)))]

end LadderView

section Rungs

variable (fields : ProfileExitFields) (view : LadderView)

def holdDecision (reason : String) (features : Features) : ProfileExitDecision where
  profileId := fields.profileId
  rule := .hold
  fsmAction := .hold
  reason := reason
  exit := false
  features := features

def fullExit (rule : ProfileLadderRule) (fsmAction : ProfileFsmAction) (reason : String)
    (quantity : ℤ) (extra : Features) : ProfileExitDecision where
  profileId := fields.profileId
  rule := rule
  fsmAction := fsmAction
  reason := reason
  exit := true
  exitQuantity := quantity
  cancelProtectionOrders := true
  features := view.diag ++ extra

/-- A rung that squares off when `p` holds. -/
def squareOffIf (p : Prop) [Decidable p] (rule : ProfileLadderRule) (reason : String)
    (extra : Features) : Option ProfileExitDecision :=
  if p then some (fullExit fields view rule .squareOff reason view.remaining extra) else none

/-- `eod_flat` is on, the caller insists on a bar clock, and there is none. -/
def barClockMissing (market : ProfileMarketView) (requireBarTimeForEod : Bool) : Bool :=
  fields.eodFlat && market.barTimeEt.isNone && requireBarTimeForEod

def eodFlatRung (market : ProfileMarketView) : Option ProfileExitDecision :=
  let eod := parseTime fields.hardFlatTimeEt
  if fields.eodFlat ∧ ∃ barTime ∈ market.barTimeEt, clockTime eod.1 eod.2 ≤ barTime then
    some (fullExit fields view .eodFlat .hardFlat s!"profile_eod_flat:{hhmm eod}" view.remaining [])
  else none

def disasterRung (current : ℚ) : Option ProfileExitDecision :=
  fields.disasterStopPct.bind fun pct =>
    squareOffIf fields view (current ≤ view.entryPremium * (1 - pct)) .disasterStop
      "profile_premium_disaster_stop" []

/-- Breakeven after a banked T1, else the initial premium stop. -/
def protectiveStopRung (current : ℚ) : Option ProfileExitDecision :=
  if view.target1Banked && fields.breakevenAfterT1 then
    squareOffIf fields view (current ≤ view.entryPremium) .initialStop "profile_breakeven_stop" []
  else
    squareOffIf fields view (current ≤ view.entryPremium - view.risk) .initialStop
      "profile_initial_stop" []

def policyFloorExit (floorR : ℚ) : ProfileExitDecision :=
  fullExit fields view .policyFloor .squareOff "profile_policy_floor" view.remaining
    [("floor_r", .number floorR)]

/-- The premium at which T1 fires, while T1 is enabled and not banked. -/
def target1Price : Option ℚ :=
  if ¬view.target1Banked ∧ 0 < fields.target1Quantity then
    fields.effectiveTarget1R.map fun r => view.entryPremium + r * view.risk
  else none

/-- The tick reaches T1. -/
def ReachesTarget1 (current : ℚ) : Prop := ∃ price ∈ target1Price fields view, price ≤ current

instance (current : ℚ) : Decidable (ReachesTarget1 fields view current) :=
  inferInstanceAs (Decidable (∃ price ∈ target1Price fields view, price ≤ current))

def target2Rung (current : ℚ) : Option ProfileExitDecision :=
  if view.target1Banked ∨ fields.effectiveTarget1R = none ∨ fields.target1Quantity ≤ 0 then
    fields.effectiveTarget2R.bind fun r =>
      squareOffIf fields view (view.entryPremium + r * view.risk ≤ current) .target2Runner
        "profile_target_2_runner" []
  else none

def givebackRung (current : ℚ) : Option ProfileExitDecision :=
  fields.givebackArmR.bind fun armR =>
    let floorR := view.peakR * (1 - fields.givebackRetraceFrac)
    squareOffIf fields view (armR ≤ view.peakR ∧ view.currentR current ≤ floorR) .highWaterGiveback
      s!"profile_high_water_giveback:{fields.highWaterGivebackPolicy.toUpper}"
      [("peak_r", .number (Python.roundTo 4 view.peakR)),
        ("floor_r", .number (Python.roundTo 4 floorR))]

def maxHoldRung : Option ProfileExitDecision :=
  view.elapsed.bind fun elapsed => fields.maxHoldSeconds.bind fun limit =>
    squareOffIf fields view (limit ≤ elapsed) .maxHold s!"profile_max_hold:{limit}s" []

def noProgressRung : Option ProfileExitDecision :=
  view.elapsed.bind fun elapsed => fields.noProgressSeconds.bind fun limit =>
    squareOffIf fields view (limit ≤ elapsed ∧ view.peakR < fields.noProgressFavorableFloorR)
      .noProgress s!"profile_no_progress:{limit}s"
      [("peak_r", .number (Python.roundTo 4 view.peakR))]

/-- The stops above T1. -/
def stopRungs (current : ℚ) : Option ProfileExitDecision :=
  (disasterRung fields view current).or (protectiveStopRung fields view current)

/-- The full exits below T1, in the order of the ladder. -/
def runnerRungs (current : ℚ) : Option ProfileExitDecision :=
  (target2Rung fields view current).or <| (givebackRung fields view current).or <|
    (maxHoldRung fields view).or (noProgressRung fields view)

/-- T1 banks a part of the position, or closes it when the part is the whole. -/
def bankTarget1 (current : ℚ) (state : ProfileExitState) : ProfileExitDecision × ProfileExitState :=
  let bankQty := partialQuantity view.quantity fields.target1Quantity
  let banked := { state with target1Banked := true, target1Premium := some current }
  -- `_diag` runs after the flag is set
  let after := { view with target1Banked := true }
  if view.quantity ≤ bankQty ∨ 1 ≤ fields.target1Quantity then
    (fullExit fields after .target1Partial .squareOff "profile_target_1_full" view.quantity [],
      { banked with bankedQuantity := view.quantity })
  else
    ({ profileId := fields.profileId
       rule := .target1Partial
       fsmAction := .partialScale
       reason := "profile_target_1_partial"
       exit := true
       exitQuantity := bankQty
       cancelProtectionOrders := true
       features := after.diag ++ [("bank_quantity", .int bankQty),
         ("remaining_quantity", .int (view.quantity - bankQty)),
         ("arms_breakeven", .bool fields.breakevenAfterT1)] },
      { banked with
        bankedQuantity := bankQty
        stopAtBreakeven := state.stopAtBreakeven || fields.breakevenAfterT1 })

def stopToBreakeven : ProfileExitDecision where
  profileId := fields.profileId
  rule := .target1Partial
  fsmAction := .stopToBreakeven
  reason := "profile_stop_to_breakeven"
  exit := false
  targetStopPrice := some view.entryPremium
  features := view.diag

/-- The last rung: move the stop to breakeven once, else record the premium and hold. -/
def bottomRung (current : ℚ) (state : ProfileExitState) : ProfileExitDecision × ProfileExitState :=
  if state.stopAtBreakeven && !state.breakevenEmitted then
    (stopToBreakeven fields view, { state with breakevenEmitted := true })
  else
    (holdDecision fields "profile_hold"
        { view with peakPremium := max state.peakPremium current }.diag,
      { state with peakPremium := max state.peakPremium current })

/-- The rungs that need a premium. -/
def walkLadder (platform : Platform) (current : ℚ) (state : ProfileExitState) :
    Except PyException (ProfileExitDecision × ProfileExitState) :=
  match stopRungs fields view current with
  | some decision => .ok (decision, state)
  | none =>
    match firedPolicyFloor platform fields view.peakR (view.currentR current) with
    | .error e => .error e
    | .ok (some floorR) => .ok (policyFloorExit fields view floorR, state)
    | .ok none =>
      if ReachesTarget1 fields view current then .ok (bankTarget1 fields view current state)
      else
        match runnerRungs fields view current with
        | some decision => .ok (decision, state)
        | none => .ok (bottomRung fields view current state)

end Rungs

section FiredRungs

variable {fields : ProfileExitFields} {view : LadderView} {decision : ProfileExitDecision}

theorem eq_hardFlat_of_eodFlatRung {market : ProfileMarketView}
    (h : eodFlatRung fields view market = some decision) :
    ∃ reason, decision = fullExit fields view .eodFlat .hardFlat reason view.remaining [] := by
  unfold eodFlatRung at h
  simp only at h
  split at h
  · exact ⟨_, (Option.some.inj h).symm⟩
  · cases h

/-- Every other rung short of T1 and of the last one squares the remaining position off. -/
def SquaresOff (fields : ProfileExitFields) (view : LadderView) (decision : ProfileExitDecision) :
    Prop :=
  ∃ rule reason extra, decision = fullExit fields view rule .squareOff reason view.remaining extra

theorem eq_squareOff_of_squareOffIf {p : Prop} [Decidable p] {rule : ProfileLadderRule}
    {reason : String} {extra : Features}
    (h : squareOffIf fields view p rule reason extra = some decision) :
    SquaresOff fields view decision := by
  unfold squareOffIf at h
  split at h
  · exact ⟨rule, reason, extra, (Option.some.inj h).symm⟩
  · cases h

theorem eq_squareOff_of_stopRungs {current : ℚ}
    (h : stopRungs fields view current = some decision) : SquaresOff fields view decision := by
  rcases Option.or_eq_some_iff.mp h with hd | ⟨-, hp⟩
  · obtain ⟨pct, -, hd⟩ := Option.bind_eq_some_iff.mp hd
    exact eq_squareOff_of_squareOffIf hd
  · unfold protectiveStopRung at hp
    split at hp
    · exact eq_squareOff_of_squareOffIf hp
    · exact eq_squareOff_of_squareOffIf hp

theorem eq_squareOff_of_runnerRungs {current : ℚ}
    (h : runnerRungs fields view current = some decision) : SquaresOff fields view decision := by
  rcases Option.or_eq_some_iff.mp h with ht | ⟨-, h⟩
  · unfold target2Rung at ht
    split at ht
    · obtain ⟨r, -, ht⟩ := Option.bind_eq_some_iff.mp ht
      exact eq_squareOff_of_squareOffIf ht
    · cases ht
  rcases Option.or_eq_some_iff.mp h with hg | ⟨-, h⟩
  · obtain ⟨armR, -, hg⟩ := Option.bind_eq_some_iff.mp hg
    exact eq_squareOff_of_squareOffIf hg
  rcases Option.or_eq_some_iff.mp h with hm | ⟨-, hn⟩
  · obtain ⟨elapsed, -, hm⟩ := Option.bind_eq_some_iff.mp hm
    obtain ⟨limit, -, hm⟩ := Option.bind_eq_some_iff.mp hm
    exact eq_squareOff_of_squareOffIf hm
  · obtain ⟨elapsed, -, hn⟩ := Option.bind_eq_some_iff.mp hn
    obtain ⟨limit, -, hn⟩ := Option.bind_eq_some_iff.mp hn
    exact eq_squareOff_of_squareOffIf hn

end FiredRungs

/-- What an evaluation sees. -/
def ladderView (platform : Platform) (fields : ProfileExitFields) (entryPremium : ℚ) (quantity : ℤ)
    (market : ProfileMarketView) (entryTime : Option ℚ) (now : ℚ) (state : ProfileExitState) :
    LadderView where
  entryPremium := entryPremium
  quantity := quantity
  risk := fields.stopPct * entryPremium
  elapsed :=
    if fields.eodFlat then elapsedSeconds entryTime now
    else elapsedRegularSessionSeconds platform entryTime now
  current := market.currentPremium
  peakPremium := state.peakPremium
  target1Banked := state.target1Banked
  remaining := remainingQuantity quantity state

def evaluateProfileExit (platform : Platform) (fields : ProfileExitFields) (entryPremium : ℚ)
    (quantity : ℤ) (market : ProfileMarketView) (entryTime : Option ℚ) (now : ℚ)
    (state : ProfileExitState) (requireBarTimeForEod : Bool) :
    Except PyException (ProfileExitDecision × ProfileExitState) :=
  let view := ladderView platform fields entryPremium quantity market entryTime now state
  if entryPremium ≤ 0 ∨ quantity ≤ 0 then
    .ok (holdDecision fields "profile_no_position" [], state)
  else if view.risk ≤ 0 then
    .ok (holdDecision fields "profile_no_risk" [], state)
  else if barClockMissing fields market requireBarTimeForEod then
    .error (.valueError (s!"profile {Python.reprString fields.profileId}: eod_flat is enabled but " ++
      "no bar_time_et was supplied; EOD hard-flat cannot be evaluated without a bar clock (source " ++
      "it from the supervisor's _bar_time_et helper)"))
  else
    match eodFlatRung fields view market with
    | some decision => .ok (decision, state)
    | none =>
      match market.currentPremium with
      | none => .ok (holdDecision fields "profile_premium_unavailable" [], state)
      | some current => walkLadder fields view platform current state

/-- What one evaluation of an open position can come to, by the rung that decides it. -/
inductive LadderOutcome (platform : Platform) (fields : ProfileExitFields) (view : LadderView)
    (market : ProfileMarketView) (requireBarTimeForEod : Bool) (state : ProfileExitState) :
    Except PyException (ProfileExitDecision × ProfileExitState) → Prop where
  | barClock (e : PyException) (missing : barClockMissing fields market requireBarTimeForEod) :
    LadderOutcome platform fields view market requireBarTimeForEod state (.error e)
  | eodFlat (decision : ProfileExitDecision) (fired : eodFlatRung fields view market = some decision) :
    LadderOutcome platform fields view market requireBarTimeForEod state (.ok (decision, state))
  | noPremium (decision : ProfileExitDecision) (unavailable : market.currentPremium = none) :
    LadderOutcome platform fields view market requireBarTimeForEod state (.ok (decision, state))
  | stop (current : ℚ) (decision : ProfileExitDecision)
    (premium : market.currentPremium = some current)
    (fired : stopRungs fields view current = some decision) :
    LadderOutcome platform fields view market requireBarTimeForEod state (.ok (decision, state))
  | floorError (current : ℚ) (e : PyException) (premium : market.currentPremium = some current)
    (raised : firedPolicyFloor platform fields view.peakR (view.currentR current) = .error e) :
    LadderOutcome platform fields view market requireBarTimeForEod state (.error e)
  | policyFloor (current floorR : ℚ) (premium : market.currentPremium = some current)
    (fired : firedPolicyFloor platform fields view.peakR (view.currentR current) = .ok (some floorR)) :
    LadderOutcome platform fields view market requireBarTimeForEod state
      (.ok (policyFloorExit fields view floorR, state))
  | target1 (current : ℚ) (premium : market.currentPremium = some current)
    (reached : ReachesTarget1 fields view current) :
    LadderOutcome platform fields view market requireBarTimeForEod state
      (.ok (bankTarget1 fields view current state))
  | runner (current : ℚ) (decision : ProfileExitDecision)
    (premium : market.currentPremium = some current)
    (fired : runnerRungs fields view current = some decision) :
    LadderOutcome platform fields view market requireBarTimeForEod state (.ok (decision, state))
  | bottom (current : ℚ) (premium : market.currentPremium = some current)
    (clock : ¬barClockMissing fields market requireBarTimeForEod)
    (floor : firedPolicyFloor platform fields view.peakR (view.currentR current) = .ok none)
    (below : ¬ReachesTarget1 fields view current) :
    LadderOutcome platform fields view market requireBarTimeForEod state
      (.ok (bottomRung fields view current state))

theorem evaluateProfileExit_outcome (platform : Platform) (fields : ProfileExitFields)
    {entryPremium : ℚ} {quantity : ℤ} (market : ProfileMarketView) (entryTime : Option ℚ) (now : ℚ)
    (state : ProfileExitState) (requireBarTimeForEod : Bool) (hentry : 0 < entryPremium)
    (hquantity : 0 < quantity) :
    LadderOutcome platform fields
      (ladderView platform fields entryPremium quantity market entryTime now state) market
      requireBarTimeForEod state
      (evaluateProfileExit platform fields entryPremium quantity market entryTime now state
        requireBarTimeForEod) := by
  have hposition : ¬(entryPremium ≤ 0 ∨ quantity ≤ 0) := by
    rintro (h | h)
    · exact absurd hentry h.not_gt
    · omega
  have hrisk : ¬(ladderView platform fields entryPremium quantity market entryTime now state).risk
      ≤ 0 := (mul_pos fields.stopPct_pos hentry).not_ge
  unfold evaluateProfileExit
  simp only [if_neg hposition, if_neg hrisk]
  split
  · next hclock => exact .barClock _ hclock
  next hclock =>
  split
  · next decision heod => exact .eodFlat decision heod
  split
  · next hnone => exact .noPremium _ hnone
  next current hcurrent =>
  unfold walkLadder
  split
  · next decision hstop => exact .stop current decision hcurrent hstop
  split
  · next e hfloor => exact .floorError current e hcurrent hfloor
  · next floorR hfloor => exact .policyFloor current floorR hcurrent hfloor
  next hfloor =>
  split
  · next hreached => exact .target1 current hcurrent hreached
  next hbelow =>
  split
  · next decision hrunner => exact .runner current decision hcurrent hrunner
  · exact .bottom current hcurrent hclock hfloor hbelow

end Bhiksha
