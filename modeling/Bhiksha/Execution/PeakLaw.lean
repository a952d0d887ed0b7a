import Bhiksha.Library.Trace
import Bhiksha.Execution.ProfileExit

/-! The high-water mark of the profile ladder along a run of ticks. -/

namespace Bhiksha

open Library

/-- The arguments of one evaluation that change from tick to tick. -/
structure ProfileTick where
  market : ProfileMarketView
  entryTime : Option ℚ
  now : ℚ
  quantity : ℤ
  requireBarTimeForEod : Bool := false

/-- A tick of the ladder; one that raises leaves the state as it was. -/
def ladderTick (platform : Platform) (fields : ProfileExitFields) (entryPremium : ℚ)
    (tick : ProfileTick) (state : ProfileExitState) :
    Except PyException ProfileExitDecision × ProfileExitState :=
  match evaluateProfileExit platform fields entryPremium tick.quantity tick.market tick.entryTime
      tick.now state tick.requireBarTimeForEod with
  | .ok (decision, state') => (.ok decision, state')
  | .error e => (.error e, state)

def isFullExit : Except PyException ProfileExitDecision → Bool
  | .ok decision => decision.isFull
  | .error _ => false

/-- The greater of the entry premium and every premium observed in the ticks. -/
def observedPeak (entryPremium : ℚ) (ticks : List ProfileTick) : ℚ :=
  (ticks.filterMap fun tick => tick.market.currentPremium).foldl max entryPremium

/-- The ladder view of a tick. -/
def ProfileTick.view (platform : Platform) (fields : ProfileExitFields) (entryPremium : ℚ)
    (tick : ProfileTick) (state : ProfileExitState) : LadderView :=
  ladderView platform fields entryPremium tick.quantity tick.market tick.entryTime tick.now state

/-- The evaluation leaves the ladder before its last line: it banks T1, moves the stop to breakeven,
or raises for want of a bar clock or of a well-formed policy floor. -/
def LeavesEarly (platform : Platform) (fields : ProfileExitFields) (entryPremium : ℚ)
    (tick : ProfileTick) (state : ProfileExitState) (current : ℚ) : Prop :=
  let view := tick.view platform fields entryPremium state
  ReachesTarget1 fields view current ∨
    (state.stopAtBreakeven ∧ ¬state.breakevenEmitted) ∨
    barClockMissing fields tick.market tick.requireBarTimeForEod ∨
    ∃ e, firedPolicyFloor platform fields view.peakR (view.currentR current) = .error e

/-- The tick's premium is a new high, and the evaluation leaves before recording it. -/
def MissesPeak (platform : Platform) (fields : ProfileExitFields) (entryPremium : ℚ)
    (tick : ProfileTick) (state : ProfileExitState) : Prop :=
  ∃ current ∈ tick.market.currentPremium, state.peakPremium < current ∧
    LeavesEarly platform fields entryPremium tick state current

section FullExits

variable {fields : ProfileExitFields} {view : LadderView} {decision : ProfileExitDecision}

theorem isFull_of_eodFlatRung {market : ProfileMarketView}
    (h : eodFlatRung fields view market = some decision) : decision.isFull := by
  obtain ⟨reason, rfl⟩ := eq_hardFlat_of_eodFlatRung h
  rfl

theorem isFull_of_stopRungs {current : ℚ} (h : stopRungs fields view current = some decision) :
    decision.isFull := by
  obtain ⟨rule, reason, extra, rfl⟩ := eq_squareOff_of_stopRungs h
  rfl

theorem isFull_of_runnerRungs {current : ℚ} (h : runnerRungs fields view current = some decision) :
    decision.isFull := by
  obtain ⟨rule, reason, extra, rfl⟩ := eq_squareOff_of_runnerRungs h
  rfl

end FullExits

theorem bankTarget1_peak (fields : ProfileExitFields) (view : LadderView) (current : ℚ)
    (state : ProfileExitState) :
    (bankTarget1 fields view current state).2.peakPremium = state.peakPremium := by
  unfold bankTarget1
  simp only
  split <;> rfl

/-- The premium of a tick, if it has one, raises the peak. -/
def ProfileTick.raisePeak (tick : ProfileTick) (peak : ℚ) : ℚ :=
  tick.market.currentPremium.elim peak (max peak)

theorem raisePeak_of_some {tick : ProfileTick} {current : ℚ}
    (h : tick.market.currentPremium = some current) (peak : ℚ) :
    tick.raisePeak peak = max peak current := by
  simp [ProfileTick.raisePeak, h]

theorem bottomRung_peak (fields : ProfileExitFields) (view : LadderView) (current : ℚ)
    (state : ProfileExitState) :
    (bottomRung fields view current state).2.peakPremium =
      if state.stopAtBreakeven ∧ ¬state.breakevenEmitted then state.peakPremium
      else max state.peakPremium current := by
  unfold bottomRung
  cases state.stopAtBreakeven <;> cases state.breakevenEmitted <;> rfl

/-- A tick short of a full exit records its premium exactly when it does not miss the peak. -/
theorem ladderTick_peak_iff {platform : Platform} {fields : ProfileExitFields} {entryPremium : ℚ}
    {tick : ProfileTick} {state : ProfileExitState} (hentry : 0 < entryPremium)
    (hquantity : 0 < tick.quantity)
    (hfull : isFullExit (ladderTick platform fields entryPremium tick state).1 = false) :
    (ladderTick platform fields entryPremium tick state).2.peakPremium =
        tick.raisePeak state.peakPremium ↔
      ¬MissesPeak platform fields entryPremium tick state := by
  -- a tick that leaves the peak alone misses it exactly when its premium is a new high
  have hunmoved {current : ℚ} (hc : tick.market.currentPremium = some current) :
      state.peakPremium = tick.raisePeak state.peakPremium ↔ ¬state.peakPremium < current := by
    rw [raisePeak_of_some hc, eq_comm, max_eq_left_iff, not_lt]
  have hsame (hleaves : ∀ current ∈ tick.market.currentPremium,
      LeavesEarly platform fields entryPremium tick state current) :
      state.peakPremium = tick.raisePeak state.peakPremium ↔
        ¬MissesPeak platform fields entryPremium tick state := by
    constructor
    · rintro hpeak ⟨current, hc, hnew, -⟩
      exact (hunmoved hc).mp hpeak hnew
    · intro hmiss
      cases hc : tick.market.currentPremium with
      | none => simp only [ProfileTick.raisePeak, hc, Option.elim_none]
      | some current =>
        exact (hunmoved hc).mpr fun hnew => hmiss ⟨current, hc, hnew, hleaves current hc⟩
  have hout := evaluateProfileExit_outcome platform fields tick.market tick.entryTime tick.now state
    tick.requireBarTimeForEod hentry hquantity
  unfold ladderTick at hfull ⊢
  revert hfull hout
  generalize evaluateProfileExit platform fields entryPremium tick.quantity tick.market
    tick.entryTime tick.now state tick.requireBarTimeForEod = r
  intro hfull hout
  cases hout with
  | barClock e missing => exact hsame fun _ _ => Or.inr (Or.inr (Or.inl missing))
  | eodFlat decision fired =>
    rw [isFullExit, isFull_of_eodFlatRung fired] at hfull
    cases hfull
  | noPremium decision unavailable =>
    exact hsame fun current hc => nomatch unavailable.symm.trans hc
  | stop current decision premium fired =>
    rw [isFullExit, isFull_of_stopRungs fired] at hfull
    cases hfull
  | floorError current e premium raised =>
    refine hsame fun other hc => ?_
    obtain rfl : current = other := Option.some.inj (premium.symm.trans hc)
    exact Or.inr (Or.inr (Or.inr ⟨e, raised⟩))
  | policyFloor current floorR premium fired => cases hfull
  | target1 current premium reached =>
    rw [bankTarget1_peak]
    refine hsame fun other hc => ?_
    obtain rfl : current = other := Option.some.inj (premium.symm.trans hc)
    exact Or.inl reached
  | runner current decision premium fired =>
    rw [isFullExit, isFull_of_runnerRungs fired] at hfull
    cases hfull
  | bottom current premium clock floor below =>
    rw [bottomRung_peak]
    by_cases hpending : state.stopAtBreakeven ∧ ¬state.breakevenEmitted
    · rw [if_pos hpending]
      exact hsame fun _ _ => Or.inr (Or.inl hpending)
    · rw [if_neg hpending, raisePeak_of_some premium]
      refine iff_of_true rfl ?_
      rintro ⟨other, hc, -, hleaves⟩
      obtain rfl : current = other := Option.some.inj (premium.symm.trans hc)
      -- nothing that leaves the ladder early happened on the way to its last line
      rcases hleaves with hreached | hpend | hclock | ⟨e, hfloor⟩
      · exact below hreached
      · exact hpending hpend
      · exact clock hclock
      · exact nomatch hfloor.symm.trans floor

/-- The ladder run of a position, from `ProfileExitState.new`. -/
def ladderRun (platform : Platform) (fields : ProfileExitFields) (entryPremium : ℚ)
    (seedQuantity : Option ℤ) (ticks : List ProfileTick) :
    List (Event ProfileExitState ProfileTick (Except PyException ProfileExitDecision)) :=
  trace (ladderTick platform fields entryPremium) (ProfileExitState.new entryPremium seedQuantity)
    ticks

/-- The ladder state after a run. -/
def ladderAfter (platform : Platform) (fields : ProfileExitFields) (entryPremium : ℚ)
    (seedQuantity : Option ℤ) (ticks : List ProfileTick) : ProfileExitState :=
  finish (ladderTick platform fields entryPremium) (ProfileExitState.new entryPremium seedQuantity)
    ticks

theorem observedPeak_eq_foldl (entryPremium : ℚ) (ticks : List ProfileTick) :
    observedPeak entryPremium ticks =
      ticks.foldl (fun peak tick => tick.raisePeak peak) entryPremium := by
  induction ticks generalizing entryPremium with
  | nil => rfl
  | cons tick ticks ih =>
    have hcons := ih (tick.raisePeak entryPremium)
    rw [List.foldl_cons, ← hcons]
    unfold observedPeak ProfileTick.raisePeak
    cases hc : tick.market.currentPremium <;> simp [hc]

/-- In a run without a full exit the peak is at every point the greatest premium observed so far
exactly when no tick misses it. -/
theorem peak_law_iff (platform : Platform) (fields : ProfileExitFields) {entryPremium : ℚ}
    (seedQuantity : Option ℤ) (ticks : List ProfileTick) (hentry : 0 < entryPremium)
    (hquantity : ∀ tick ∈ ticks, 0 < tick.quantity)
    (hrun : ∀ e ∈ ladderRun platform fields entryPremium seedQuantity ticks,
      isFullExit e.result = false) :
    (∀ n, (ladderAfter platform fields entryPremium seedQuantity (ticks.take n)).peakPremium =
        observedPeak entryPremium (ticks.take n)) ↔
      ∀ e ∈ ladderRun platform fields entryPremium seedQuantity ticks,
        ¬MissesPeak platform fields entryPremium e.call e.before := by
  simp only [observedPeak_eq_foldl]
  refine finish_take_eq_foldl_iff.trans (forall₂_congr fun e he => ?_)
  have hev := (eq_event_of_mem_trace (I := fun _ => True) (fun _ _ _ => trivial) trivial he).2
  have hcall := hquantity e.call (call_mem_of_mem_trace he)
  have hfull := hrun e he
  rw [hev] at hfull
  rw [congrArg Event.after hev]
  exact ladderTick_peak_iff hentry hcall hfull

namespace TwoTargets

/-- A profile that banks half of the position at 1R and then moves the stop to breakeven. -/
def fields : ProfileExitFields where
  profileId := "two_targets"
  target1R := some 1
  target2R := some 4
  target1Quantity := 1 / 2
  initialStopPct := some (1 / 2)
  initial_le_disaster := by simp

/-- No envelope and no overnight clock are in play, so the platform answers nothing of interest. -/
def platform : Platform := ⟨fun _ _ => 0, fun _ => 0, fun _ => none⟩

def tick (premium : ℚ) : ProfileTick where
  market := { currentPremium := some premium }
  entryTime := none
  now := 0
  quantity := 2

end TwoTargets

open TwoTargets in
theorem peak_law_iff_two_targets :
    (∀ n, (ladderAfter platform fields 1 (some 2) ([tick (5 / 4), tick 1].take n)).peakPremium =
        observedPeak 1 ([tick (5 / 4), tick 1].take n)) ↔
      ∀ e ∈ ladderRun platform fields 1 (some 2) [tick (5 / 4), tick 1],
        ¬MissesPeak platform fields 1 e.call e.before :=
  peak_law_iff platform fields (some 2) [tick (5 / 4), tick 1] (by decide) (by decide)
    (by decide +kernel)

open TwoTargets in
/-- The tick that banks T1 does not record the premium at which it banks. -/
theorem target1_tick_misses_peak :
    ¬∀ (fields : ProfileExitFields) (entryPremium : ℚ) (quantity : ℤ) (ticks : List ProfileTick),
      0 < entryPremium → 0 < quantity → (∀ tick ∈ ticks, tick.quantity = quantity) →
        (∀ e ∈ ladderRun platform fields entryPremium (some quantity) ticks,
          isFullExit e.result = false) →
        (ladderAfter platform fields entryPremium (some quantity) ticks).peakPremium =
          observedPeak entryPremium ticks := by
  intro h
  have hlaw := h fields 1 2 [tick 2] (by decide) (by decide) (by decide) (by decide +kernel)
  exact absurd hlaw (by decide +kernel)

end Bhiksha
