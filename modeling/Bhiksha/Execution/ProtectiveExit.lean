import Bhiksha.Execution.ProfileExit

/-! The protective rungs of the profile ladder are downward closed: what closes the position at one
premium closes it at every lower one. -/

namespace Bhiksha

/-- A full exit by a rung other than the two profit targets. -/
def ProfileExitDecision.isProtective (decision : ProfileExitDecision) : Bool :=
  decision.isFull && decision.rule ≠ .target1Partial && decision.rule ≠ .target2Runner

/-- The same tick at another premium. -/
def LadderView.at (view : LadderView) (current : ℚ) : LadderView :=
  { view with current := some current }

section Rungs

variable (fields : ProfileExitFields) (view : LadderView)

/-- The full exits below the two targets. -/
def lateRungs (current : ℚ) : Option ProfileExitDecision :=
  (givebackRung fields view current).or <| (maxHoldRung fields view).or (noProgressRung fields view)

/-- The tick is closed by a rung other than the profit targets. -/
inductive Protects (platform : Platform) (current : ℚ) : Prop where
  | stop (fired : (stopRungs fields view current).isSome)
  | floor (floorR : ℚ)
    (fired : firedPolicyFloor platform fields view.peakR (view.currentR current) = .ok (some floorR))
  | late (floor : firedPolicyFloor platform fields view.peakR (view.currentR current) = .ok none)
    (belowTarget1 : ¬ReachesTarget1 fields view current)
    (belowTarget2 : target2Rung fields view current = none)
    (fired : (lateRungs fields view current).isSome)

end Rungs

section Fired

variable {fields : ProfileExitFields} {view : LadderView} {decision : ProfileExitDecision}
  {current : ℚ}

@[simp] theorem squareOffIf_isSome {p : Prop} [Decidable p] {rule : ProfileLadderRule}
    {reason : String} {extra : Features} :
    (squareOffIf fields view p rule reason extra).isSome ↔ p := by
  unfold squareOffIf
  split <;> simp [*]

theorem rule_of_squareOffIf {p : Prop} [Decidable p] {rule : ProfileLadderRule} {reason : String}
    {extra : Features} (h : squareOffIf fields view p rule reason extra = some decision) :
    decision.isFull ∧ decision.rule = rule := by
  unfold squareOffIf at h
  split at h
  · obtain rfl := Option.some.inj h
    exact ⟨rfl, rfl⟩
  · cases h

theorem isProtective_of_rule {rule : ProfileLadderRule}
    (h : decision.isFull ∧ decision.rule = rule) (h1 : rule ≠ .target1Partial)
    (h2 : rule ≠ .target2Runner) : decision.isProtective := by
  simp [ProfileExitDecision.isProtective, h.1, h.2, h1, h2]

theorem isProtective_of_stopRungs (h : stopRungs fields view current = some decision) :
    decision.isProtective := by
  rcases Option.or_eq_some_iff.mp h with hd | ⟨-, hp⟩
  · obtain ⟨pct, -, hd⟩ := Option.bind_eq_some_iff.mp hd
    exact isProtective_of_rule (rule_of_squareOffIf hd) (by decide) (by decide)
  · unfold protectiveStopRung at hp
    split at hp
    · exact isProtective_of_rule (rule_of_squareOffIf hp) (by decide) (by decide)
    · exact isProtective_of_rule (rule_of_squareOffIf hp) (by decide) (by decide)

theorem isProtective_of_lateRungs (h : lateRungs fields view current = some decision) :
    decision.isProtective := by
  rcases Option.or_eq_some_iff.mp h with hg | ⟨-, h⟩
  · obtain ⟨armR, -, hg⟩ := Option.bind_eq_some_iff.mp hg
    exact isProtective_of_rule (rule_of_squareOffIf hg) (by decide) (by decide)
  rcases Option.or_eq_some_iff.mp h with hm | ⟨-, hn⟩
  · obtain ⟨elapsed, -, hm⟩ := Option.bind_eq_some_iff.mp hm
    obtain ⟨limit, -, hm⟩ := Option.bind_eq_some_iff.mp hm
    exact isProtective_of_rule (rule_of_squareOffIf hm) (by decide) (by decide)
  · obtain ⟨elapsed, -, hn⟩ := Option.bind_eq_some_iff.mp hn
    obtain ⟨limit, -, hn⟩ := Option.bind_eq_some_iff.mp hn
    exact isProtective_of_rule (rule_of_squareOffIf hn) (by decide) (by decide)

theorem rule_of_target2Rung (h : target2Rung fields view current = some decision) :
    decision.rule = .target2Runner := by
  unfold target2Rung at h
  split at h
  · obtain ⟨r, -, h⟩ := Option.bind_eq_some_iff.mp h
    exact (rule_of_squareOffIf h).2
  · cases h

/-- A decision of the first target or of the bottom of the ladder is not a protective one. -/
theorem not_isProtective_bankTarget1 (state : ProfileExitState) :
    ¬(bankTarget1 fields view current state).1.isProtective := by
  unfold bankTarget1
  dsimp only
  split <;> simp [ProfileExitDecision.isProtective, fullExit]

theorem not_isProtective_bottomRung (state : ProfileExitState) :
    ¬(bottomRung fields view current state).1.isProtective := by
  unfold bottomRung
  split <;> simp [ProfileExitDecision.isProtective, ProfileExitDecision.isFull, stopToBreakeven,
    holdDecision]

/-- The ladder ends with a protective exit just when a protective rung is the first to fire. -/
theorem walkLadder_protective_iff (platform : Platform) (state : ProfileExitState) :
    (∃ decision after, walkLadder fields view platform current state = .ok (decision, after) ∧
      decision.isProtective) ↔ Protects fields view platform current := by
  unfold walkLadder
  constructor
  · rintro ⟨decision, after, hwalk, hprotective⟩
    split at hwalk
    · next hstop => exact .stop (by simp [hstop])
    split at hwalk
    · cases hwalk
    · next floorR hfloor => exact .floor floorR hfloor
    next hfloor =>
    split at hwalk
    · obtain ⟨rfl, -⟩ := Prod.mk.inj (Except.ok.inj hwalk)
      exact absurd hprotective (not_isProtective_bankTarget1 state)
    next hbelow =>
    split at hwalk
    · next runner hrunner =>
      obtain ⟨rfl, -⟩ := Prod.mk.inj (Except.ok.inj hwalk)
      rcases Option.or_eq_some_iff.mp hrunner with htarget | ⟨htarget, hlate⟩
      · simp [ProfileExitDecision.isProtective, rule_of_target2Rung htarget] at hprotective
      · exact .late hfloor hbelow htarget (Option.isSome_of_mem hlate)
    · obtain ⟨rfl, -⟩ := Prod.mk.inj (Except.ok.inj hwalk)
      exact absurd hprotective (not_isProtective_bottomRung state)
  · intro h
    cases hstop : stopRungs fields view current with
    | some decision => exact ⟨decision, state, rfl, isProtective_of_stopRungs hstop⟩
    | none =>
      cases h with
      | stop fired => simp [hstop] at fired
      | floor floorR fired =>
        rw [fired]
        exact ⟨_, _, rfl, rfl⟩
      | late floor belowTarget1 belowTarget2 fired =>
        obtain ⟨decision, hlate⟩ := Option.isSome_iff_exists.mp fired
        have hrunner : runnerRungs fields view current = some decision := by
          unfold runnerRungs
          rw [belowTarget2]
          exact hlate
        rw [floor, if_neg belowTarget1, hrunner]
        exact ⟨decision, state, rfl, isProtective_of_lateRungs hlate⟩

end Fired

section Firing

variable {fields : ProfileExitFields} {view : LadderView} {current : ℚ}

theorem isSome_bind_iff {α β : Type} {o : Option α} {f : α → Option β} :
    (o.bind f).isSome ↔ ∃ a ∈ o, (f a).isSome := by
  cases o <;> simp

theorem disasterRung_isSome : (disasterRung fields view current).isSome ↔
    ∃ pct ∈ fields.disasterStopPct, current ≤ view.entryPremium * (1 - pct) := by
  simp only [disasterRung, isSome_bind_iff, squareOffIf_isSome]

theorem protectiveStopRung_isSome : (protectiveStopRung fields view current).isSome ↔
    current ≤ if view.target1Banked && fields.breakevenAfterT1 then view.entryPremium
      else view.entryPremium - view.risk := by
  unfold protectiveStopRung
  split <;> exact squareOffIf_isSome

theorem target2Rung_isSome : (target2Rung fields view current).isSome ↔
    (view.target1Banked ∨ fields.effectiveTarget1R = none ∨ fields.target1Quantity ≤ 0) ∧
      ∃ r ∈ fields.effectiveTarget2R, view.entryPremium + r * view.risk ≤ current := by
  unfold target2Rung
  split
  · next harmed => simp only [harmed, true_and, isSome_bind_iff, squareOffIf_isSome]
  · next harmed => simp [harmed]

theorem givebackRung_isSome : (givebackRung fields view current).isSome ↔
    ∃ armR ∈ fields.givebackArmR, armR ≤ view.peakR ∧
      view.currentR current ≤ view.peakR * (1 - fields.givebackRetraceFrac) := by
  simp only [givebackRung, isSome_bind_iff, squareOffIf_isSome]

theorem maxHoldRung_isSome : (maxHoldRung fields view).isSome ↔
    ∃ elapsed ∈ view.elapsed, ∃ limit ∈ fields.maxHoldSeconds, limit ≤ elapsed := by
  simp only [maxHoldRung, isSome_bind_iff, squareOffIf_isSome]

theorem noProgressRung_isSome : (noProgressRung fields view).isSome ↔
    ∃ elapsed ∈ view.elapsed, ∃ limit ∈ fields.noProgressSeconds,
      limit ≤ elapsed ∧ view.peakR < fields.noProgressFavorableFloorR := by
  simp only [noProgressRung, isSome_bind_iff, squareOffIf_isSome]

theorem stopRungs_isSome : (stopRungs fields view current).isSome ↔
    (disasterRung fields view current).isSome ∨ (protectiveStopRung fields view current).isSome := by
  rw [stopRungs, Option.isSome_or, Bool.or_eq_true]

theorem lateRungs_isSome : (lateRungs fields view current).isSome ↔
    (givebackRung fields view current).isSome ∨ (maxHoldRung fields view).isSome ∨
      (noProgressRung fields view).isSome := by
  rw [lateRungs, Option.isSome_or, Bool.or_eq_true, Option.isSome_or, Bool.or_eq_true]

end Firing

section Lower

variable {fields : ProfileExitFields} {view : LadderView} {p p' : ℚ}

theorem currentR_le (hrisk : 0 < view.risk) (h : p' ≤ p) : view.currentR p' ≤ view.currentR p := by
  unfold LadderView.currentR
  gcongr

theorem stopRungs_of_le (h : p' ≤ p) (hstop : (stopRungs fields (view.at p) p).isSome) :
    (stopRungs fields (view.at p') p').isSome := by
  rw [stopRungs_isSome] at hstop ⊢
  rcases hstop with hdisaster | hactive
  · left
    obtain ⟨pct, hpct, hle⟩ := disasterRung_isSome.mp hdisaster
    exact disasterRung_isSome.mpr ⟨pct, hpct, h.trans hle⟩
  · right
    -- whether T1 is banked is the same at both premiums
    have hle := protectiveStopRung_isSome.mp hactive
    exact protectiveStopRung_isSome.mpr (h.trans hle)

theorem isSome_floor_iff {currentR floorR : ℚ} :
    (if currentR ≤ floorR then some floorR else none).isSome ↔ currentR ≤ floorR := by
  split <;> simp [*]

/-- The floor depends on the peak alone, so that a lower premium is at or below it all the more. -/
theorem firedPolicyFloor_of_le {platform : Platform} {peakR currentR currentR' : ℚ} {fired : Option ℚ}
    (h : currentR' ≤ currentR) (hfired : firedPolicyFloor platform fields peakR currentR = .ok fired) :
    ∃ fired', firedPolicyFloor platform fields peakR currentR' = .ok fired' ∧
      (fired.isSome → fired'.isSome) := by
  unfold firedPolicyFloor at hfired ⊢
  cases hfloor : policyFloorR platform fields peakR with
  | error e =>
    rw [hfloor] at hfired
    cases hfired
  | ok floor =>
    rw [hfloor] at hfired
    cases floor with
    | null => exact ⟨none, rfl, by simp [← Except.ok.inj hfired]⟩
    | text _ => cases hfired
    | bool b =>
      obtain rfl := Except.ok.inj hfired
      refine ⟨_, rfl, fun hle => ?_⟩
      rw [isSome_floor_iff] at hle ⊢
      exact h.trans hle
    | number q =>
      obtain rfl := Except.ok.inj hfired
      refine ⟨_, rfl, fun hle => ?_⟩
      rw [isSome_floor_iff] at hle ⊢
      exact h.trans hle

theorem reachesTarget1_of_le (h : p' ≤ p) (hreach : ReachesTarget1 fields (view.at p') p') :
    ReachesTarget1 fields (view.at p) p := by
  obtain ⟨price, hprice, hle⟩ := hreach
  exact ⟨price, hprice, hle.trans h⟩

theorem target2Rung_of_le (h : p' ≤ p) (hfired : (target2Rung fields (view.at p') p').isSome) :
    (target2Rung fields (view.at p) p).isSome := by
  obtain ⟨harmed, r, hr, hle⟩ := target2Rung_isSome.mp hfired
  exact target2Rung_isSome.mpr ⟨harmed, r, hr, hle.trans h⟩

theorem lateRungs_of_le (hrisk : 0 < view.risk) (h : p' ≤ p)
    (hlate : (lateRungs fields (view.at p) p).isSome) :
    (lateRungs fields (view.at p') p').isSome := by
  rw [lateRungs_isSome] at hlate ⊢
  rcases hlate with hgiveback | hhold | hprogress
  · left
    -- the armed floor is a part of the prior peak
    obtain ⟨armR, harm, hpeak, hle⟩ := givebackRung_isSome.mp hgiveback
    exact givebackRung_isSome.mpr ⟨armR, harm, hpeak, (currentR_le hrisk h).trans hle⟩
  · -- the clock does not look at the premium
    have hexpired := maxHoldRung_isSome.mp hhold
    exact .inr (.inl (maxHoldRung_isSome.mpr hexpired))
  · have hstalled := noProgressRung_isSome.mp hprogress
    exact .inr (.inr (noProgressRung_isSome.mpr hstalled))

theorem protects_of_le {platform : Platform} (hrisk : 0 < view.risk) (h : p' ≤ p)
    (hprotects : Protects fields (view.at p) platform p) :
    Protects fields (view.at p') platform p' := by
  have hcurrent : (view.at p').currentR p' ≤ (view.at p).currentR p := currentR_le hrisk h
  cases hprotects with
  | stop fired => exact .stop (stopRungs_of_le h fired)
  | floor floorR fired =>
    obtain ⟨fired', hfired', hsome⟩ := firedPolicyFloor_of_le hcurrent fired
    obtain ⟨floorR', rfl⟩ := Option.isSome_iff_exists.mp (hsome rfl)
    exact .floor floorR' hfired'
  | late floor belowTarget1 belowTarget2 fired =>
    obtain ⟨fired', hfired', -⟩ := firedPolicyFloor_of_le hcurrent floor
    -- at the lower premium the floor may fire first
    cases fired' with
    | some floorR => exact .floor floorR hfired'
    | none =>
      have hbelow2 : target2Rung fields (view.at p') p' = none := by
        rw [← Option.not_isSome_iff_eq_none]
        intro hreach
        have hfired := target2Rung_of_le h hreach
        simp [belowTarget2] at hfired
      exact .late hfired' (fun hreach => belowTarget1 (reachesTarget1_of_le h hreach)) hbelow2
        (lateRungs_of_le hrisk h fired)

end Lower

/-- The tick closes the whole position by a rung other than a profit target. -/
def ClosesProtectively (platform : Platform) (fields : ProfileExitFields) (entryPremium : ℚ)
    (quantity : ℤ) (market : ProfileMarketView) (entryTime : Option ℚ) (now : ℚ)
    (state : ProfileExitState) (requireBarTimeForEod : Bool) : Prop :=
  ∃ decision after, evaluateProfileExit platform fields entryPremium quantity market entryTime now
    state requireBarTimeForEod = .ok (decision, after) ∧ decision.isProtective

theorem not_isProtective_holdDecision (fields : ProfileExitFields) (reason : String)
    (features : Features) : ¬(holdDecision fields reason features).isProtective := by
  simp [ProfileExitDecision.isProtective, ProfileExitDecision.isFull, holdDecision]

/-- The session is due to be left flat. -/
def EodDue (fields : ProfileExitFields) (barTimeEt : Option ClockTime) : Prop :=
  fields.eodFlat ∧ ∃ barTime ∈ barTimeEt,
    clockTime (parseTime fields.hardFlatTimeEt).1 (parseTime fields.hardFlatTimeEt).2 ≤ barTime

section Tick

variable {platform : Platform} {fields : ProfileExitFields} {view : LadderView}
  {market : ProfileMarketView} {decision : ProfileExitDecision}

theorem eodFlatRung_isSome (view : LadderView) :
    (eodFlatRung fields view market).isSome ↔ EodDue fields market.barTimeEt := by
  unfold eodFlatRung EodDue
  dsimp only
  split
  · next hdue => exact iff_of_true rfl hdue
  · next hdue => exact iff_of_false Bool.false_ne_true hdue

theorem not_eodDue_of_eodFlatRung (h : eodFlatRung fields view market = none) :
    ¬EodDue fields market.barTimeEt := by
  rw [← eodFlatRung_isSome view, h]
  exact Bool.false_ne_true

theorem isProtective_of_eodFlatRung (h : eodFlatRung fields view market = some decision) :
    decision.isProtective := by
  obtain ⟨reason, rfl⟩ := eq_hardFlat_of_eodFlatRung h
  rfl

/-- The gates above the ladder do not look at the premium. -/
theorem closesProtectively_iff (entryPremium : ℚ) (quantity : ℤ) (barTimeEt : Option ClockTime)
    (entryTime : Option ℚ) (now : ℚ) (state : ProfileExitState) (requireBarTimeForEod : Bool) (p : ℚ) :
    ClosesProtectively platform fields entryPremium quantity ⟨some p, barTimeEt⟩ entryTime now state
        requireBarTimeForEod ↔
      0 < entryPremium ∧ 0 < quantity ∧ ¬barClockMissing fields ⟨none, barTimeEt⟩ requireBarTimeForEod ∧
        (EodDue fields barTimeEt ∨ Protects fields ((ladderView platform fields entryPremium quantity
          ⟨none, barTimeEt⟩ entryTime now state).at p) platform p) := by
  unfold ClosesProtectively evaluateProfileExit
  dsimp only
  split
  · next hposition =>
    refine iff_of_false ?_ fun h => ?_
    · rintro ⟨decision, after, hrun, hprotective⟩
      obtain ⟨rfl, -⟩ := Prod.mk.inj (Except.ok.inj hrun)
      exact not_isProtective_holdDecision _ _ _ hprotective
    · rcases hposition with hentry | hquantity
      · exact absurd h.1 hentry.not_gt
      · have := h.2.1
        omega
  next hposition =>
  rw [not_or, not_le, not_le] at hposition
  have hrisk : ¬(ladderView platform fields entryPremium quantity ⟨some p, barTimeEt⟩ entryTime now
      state).risk ≤ 0 := (mul_pos fields.stopPct_pos hposition.1).not_ge
  rw [if_neg hrisk]
  split
  · next hclock =>
    refine iff_of_false ?_ fun h => h.2.2.1 hclock
    rintro ⟨decision, after, hrun, -⟩
    cases hrun
  next hclock =>
  have hgates : 0 < entryPremium ∧ 0 < quantity ∧
      ¬barClockMissing fields ⟨none, barTimeEt⟩ requireBarTimeForEod :=
    ⟨hposition.1, hposition.2, hclock⟩
  split
  · next flat heod =>
    have hdue : EodDue fields barTimeEt := (eodFlatRung_isSome _).mp (Option.isSome_of_mem heod)
    exact iff_of_true ⟨flat, state, rfl, isProtective_of_eodFlatRung heod⟩
      ⟨hgates.1, hgates.2.1, hgates.2.2, .inl hdue⟩
  · next heod =>
    have hnotDue : ¬EodDue fields barTimeEt := not_eodDue_of_eodFlatRung heod
    rw [walkLadder_protective_iff]
    constructor
    · intro h
      exact ⟨hgates.1, hgates.2.1, hgates.2.2, .inr h⟩
    · intro h
      exact h.2.2.2.resolve_left hnotDue

end Tick

theorem protective_exits_downward_closed (platform : Platform) (fields : ProfileExitFields)
    (entryPremium : ℚ) (quantity : ℤ) (barTimeEt : Option ClockTime) (entryTime : Option ℚ) (now : ℚ)
    (state : ProfileExitState) (requireBarTimeForEod : Bool) {p p' : ℚ} (hle : p' ≤ p)
    (hcloses : ClosesProtectively platform fields entryPremium quantity ⟨some p, barTimeEt⟩ entryTime
      now state requireBarTimeForEod) :
    ClosesProtectively platform fields entryPremium quantity ⟨some p', barTimeEt⟩ entryTime now state
      requireBarTimeForEod := by
  rw [closesProtectively_iff] at hcloses ⊢
  obtain ⟨hentry, hquantity, hclock, hends⟩ := hcloses
  have hrisk : 0 < fields.stopPct * entryPremium := mul_pos fields.stopPct_pos hentry
  exact ⟨hentry, hquantity, hclock, hends.imp_right fun hprotects => protects_of_le hrisk hle hprotects⟩

namespace GivebackTick

def platform : Platform := ⟨fun x _ => x, fun _ => 0, fun _ => none⟩

def fields : ProfileExitFields where
  profileId := "runner"
  target1R := some 1
  target2R := some 4
  target1Quantity := 1 / 2
  initialStopPct := some (1 / 4)
  highWaterGivebackPolicy := "MODERATE"
  initial_le_disaster := by simp

/-- Half of the position is banked, and the peak was two units of risk above the entry. -/
def state : ProfileExitState where
  peakPremium := 6
  target1Banked := true
  bankedQuantity := 1

theorem closes_at_five :
    ClosesProtectively platform fields 4 2 ⟨some 5, none⟩ none 0 state false := by
  rw [closesProtectively_iff]
  refine ⟨by norm_num, by norm_num, by decide, .inr (.late rfl ?_ ?_ ?_)⟩
  all_goals decide +kernel

end GivebackTick

theorem protective_exits_downward_closed_giveback :
    ClosesProtectively GivebackTick.platform GivebackTick.fields 4 2 ⟨some 3, none⟩ none 0
      GivebackTick.state false :=
  protective_exits_downward_closed GivebackTick.platform GivebackTick.fields 4 2 none none 0
    GivebackTick.state false (by norm_num) GivebackTick.closes_at_five

end Bhiksha
