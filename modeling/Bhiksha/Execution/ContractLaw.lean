import Mathlib.Tactic.Linarith
import Bhiksha.Execution.PeakLaw

/-! Every contract of a position leaves it once: the exits that the ladder reports along a run, against
the contracts that are still held at each tick. -/

namespace Bhiksha

open Library

/-- What one evaluation of an open position answers and leaves behind, as far as the contracts and the
two one-time moves go. -/
inductive TickEffect (quantity : ℤ) (state : ProfileExitState) :
    Except PyException ProfileExitDecision → ProfileExitState → Prop where
  | raises (e : PyException) : TickEffect quantity state (.error e) state
  | holds (decision : ProfileExitDecision) (after : ProfileExitState) (held : decision.exit = false)
    (action : decision.fsmAction = .hold) (target1 : after.target1Banked = state.target1Banked)
    (banked : after.bankedQuantity = state.bankedQuantity)
    (emitted : after.breakevenEmitted = state.breakevenEmitted) :
    TickEffect quantity state (.ok decision) after
  | closes (decision : ProfileExitDecision) (full : decision.isFull)
    (action : decision.fsmAction ≠ .stopToBreakeven)
    (sold : decision.exitQuantity = remainingQuantity quantity state) :
    TickEffect quantity state (.ok decision) state
  | banksAll (decision : ProfileExitDecision) (after : ProfileExitState) (full : decision.isFull)
    (action : decision.fsmAction ≠ .stopToBreakeven) (sold : decision.exitQuantity = quantity)
    (unbanked : state.target1Banked = false) (target1 : after.target1Banked = true)
    (emitted : after.breakevenEmitted = state.breakevenEmitted) :
    TickEffect quantity state (.ok decision) after
  | banksPart (decision : ProfileExitDecision) (after : ProfileExitState) (exits : decision.exit)
    (action : decision.fsmAction = .partialScale) (sells : 1 ≤ decision.exitQuantity)
    (leaves : decision.exitQuantity ≤ quantity - 1) (unbanked : state.target1Banked = false)
    (target1 : after.target1Banked = true) (banked : after.bankedQuantity = decision.exitQuantity)
    (emitted : after.breakevenEmitted = state.breakevenEmitted) :
    TickEffect quantity state (.ok decision) after
  | moves (decision : ProfileExitDecision) (after : ProfileExitState) (held : decision.exit = false)
    (action : decision.fsmAction = .stopToBreakeven) (unemitted : state.breakevenEmitted = false)
    (emittedNow : after.breakevenEmitted = true)
    (target1 : after.target1Banked = state.target1Banked)
    (banked : after.bankedQuantity = state.bankedQuantity) :
    TickEffect quantity state (.ok decision) after

theorem TickEffect.of_hold {quantity : ℤ} {state : ProfileExitState} (fields : ProfileExitFields)
    (reason : String) (features : Features) :
    TickEffect quantity state (.ok (holdDecision fields reason features)) state :=
  .holds _ _ rfl rfl rfl rfl rfl

theorem TickEffect.of_squaresOff {fields : ProfileExitFields} {view : LadderView} {quantity : ℤ}
    {state : ProfileExitState} {decision : ProfileExitDecision}
    (hview : view.remaining = remainingQuantity quantity state)
    (h : SquaresOff fields view decision) : TickEffect quantity state (.ok decision) state := by
  obtain ⟨rule, reason, extra, rfl⟩ := h
  exact .closes _ rfl (by simp [fullExit]) hview

theorem one_le_partialQuantity {quantity : ℤ} {fraction : ℚ} (hquantity : 0 < quantity)
    (hfraction : fraction < 1) : 1 ≤ partialQuantity quantity fraction := by
  unfold partialQuantity
  rw [if_neg hfraction.not_ge]
  split
  · exact le_max_left _ _
  · omega

theorem TickEffect.of_bankTarget1 (fields : ProfileExitFields) (view : LadderView) (current : ℚ)
    {state : ProfileExitState} (hquantity : 0 < view.quantity)
    (hunbanked : state.target1Banked = false) :
    TickEffect view.quantity state (.ok (bankTarget1 fields view current state).1)
      (bankTarget1 fields view current state).2 := by
  unfold bankTarget1
  dsimp only
  split
  · exact .banksAll _ _ rfl (by simp [fullExit]) rfl hunbanked rfl rfl
  · next hpart =>
    obtain ⟨hless, hfraction⟩ := not_or.mp hpart
    have hsells := one_le_partialQuantity hquantity (not_le.mp hfraction)
    have hleaves : partialQuantity view.quantity fields.target1Quantity ≤ view.quantity - 1 := by
      omega
    exact .banksPart _ _ rfl rfl hsells hleaves hunbanked rfl rfl rfl

theorem TickEffect.of_bottomRung {fields : ProfileExitFields} {view : LadderView} {current : ℚ}
    {quantity : ℤ} {state : ProfileExitState} :
    TickEffect quantity state (.ok (bottomRung fields view current state).1)
      (bottomRung fields view current state).2 := by
  unfold bottomRung
  split
  · next hdue =>
    have hunemitted : state.breakevenEmitted = false := by
      simpa using (Bool.and_eq_true_iff.mp hdue).2
    exact .moves _ _ rfl rfl hunemitted rfl rfl rfl
  · exact .holds _ _ rfl rfl rfl rfl rfl

theorem unbanked_of_reachesTarget1 {fields : ProfileExitFields} {view : LadderView} {current : ℚ}
    (h : ReachesTarget1 fields view current) : view.target1Banked = false := by
  obtain ⟨price, hprice, -⟩ := h
  unfold target1Price at hprice
  split at hprice
  · next hunbanked => exact Bool.eq_false_of_not_eq_true hunbanked.1
  · cases hprice

/-- One case for each way out of the ladder. -/
theorem ladderTick_effect (platform : Platform) (fields : ProfileExitFields) (entryPremium : ℚ)
    (tick : ProfileTick) (state : ProfileExitState) :
    TickEffect tick.quantity state (ladderTick platform fields entryPremium tick state).1
      (ladderTick platform fields entryPremium tick state).2 := by
  unfold ladderTick evaluateProfileExit
  set view := ladderView platform fields entryPremium tick.quantity tick.market tick.entryTime
    tick.now state with hview
  have hremaining : view.remaining = remainingQuantity tick.quantity state := rfl
  dsimp only
  split_ifs with hposition hrisk hclock
  · exact .of_hold fields _ _
  · exact .of_hold fields _ _
  · exact .raises _
  obtain ⟨-, hquantity⟩ := not_or.mp hposition
  cases heod : eodFlatRung fields view tick.market with
  | some decision =>
    obtain ⟨reason, rfl⟩ := eq_hardFlat_of_eodFlatRung heod
    exact .closes _ rfl (by simp [fullExit]) hremaining
  | none =>
    cases hcurrent : tick.market.currentPremium with
    | none => exact .of_hold fields _ _
    | some current =>
      dsimp only
      unfold walkLadder
      cases hstop : stopRungs fields view current with
      | some decision => exact .of_squaresOff hremaining (eq_squareOff_of_stopRungs hstop)
      | none =>
        dsimp only
        cases hfloor : firedPolicyFloor platform fields view.peakR (view.currentR current) with
        | error e => exact .raises e
        | ok floor =>
          cases floor with
          | some floorR => exact .of_squaresOff hremaining ⟨_, _, _, rfl⟩
          | none =>
            dsimp only
            by_cases hreached : ReachesTarget1 fields view current
            · rw [if_pos hreached]
              have hunbanked : state.target1Banked = false := unbanked_of_reachesTarget1 hreached
              exact .of_bankTarget1 fields view current (not_le.mp hquantity) hunbanked
            · rw [if_neg hreached]
              cases hrunner : runnerRungs fields view current with
              | some decision =>
                exact .of_squaresOff hremaining (eq_squareOff_of_runnerRungs hrunner)
              | none => exact .of_bottomRung

/-- The contracts that an answer sells. -/
def soldBy : Except PyException ProfileExitDecision → ℤ
  | .ok decision => if decision.exit then decision.exitQuantity else 0
  | .error _ => 0

def isPartialScale : Except PyException ProfileExitDecision → Bool
  | .ok decision => decision.isPartial
  | .error _ => false

def movesToBreakeven : Except PyException ProfileExitDecision → Bool
  | .ok decision => decision.fsmAction = .stopToBreakeven
  | .error _ => false

/-- The contracts still held, and the ladder that watches them. -/
structure HeldLadder where
  held : ℤ
  state : ProfileExitState
deriving DecidableEq, Repr

/-- A tick of the ladder on the contracts still held, as the supervisor passes `position.quantity`; a
partial takes its contracts out. -/
def heldTick (platform : Platform) (fields : ProfileExitFields) (entryPremium : ℚ)
    (tick : ProfileTick) (position : HeldLadder) :
    Except PyException ProfileExitDecision × HeldLadder :=
  let answer := ladderTick platform fields entryPremium { tick with quantity := position.held }
    position.state
  (answer.1,
    { held := if isPartialScale answer.1 then position.held - soldBy answer.1 else position.held
      state := answer.2 })

def HeldLadder.new (entryPremium : ℚ) (quantity : ℤ) (seedQuantity : Option ℤ) : HeldLadder where
  held := quantity
  state := ProfileExitState.new entryPremium seedQuantity

abbrev HeldEvent := Event HeldLadder ProfileTick (Except PyException ProfileExitDecision)

/-- The run of a position of `quantity` contracts. -/
def heldRun (platform : Platform) (fields : ProfileExitFields) (entryPremium : ℚ) (quantity : ℤ)
    (seedQuantity : Option ℤ) (ticks : List ProfileTick) : List HeldEvent :=
  trace (heldTick platform fields entryPremium) (HeldLadder.new entryPremium quantity seedQuantity)
    ticks

/-- The position after a run. -/
def heldAfter (platform : Platform) (fields : ProfileExitFields) (entryPremium : ℚ) (quantity : ℤ)
    (seedQuantity : Option ℤ) (ticks : List ProfileTick) : HeldLadder :=
  finish (heldTick platform fields entryPremium) (HeldLadder.new entryPremium quantity seedQuantity)
    ticks

/-- The run's last answer, and no earlier one, closes the position. -/
def EndsInFullExit (run : List HeldEvent) : Prop :=
  ∃ earlier last, run = earlier ++ [last] ∧ (∀ e ∈ earlier, isFullExit e.result = false) ∧
    isFullExit last.result

/-- A run accounts for every contract of a position once. -/
structure AccountsOnce (quantity : ℤ) (run : List HeldEvent) : Prop where
  one_scale : (run.filter fun e => isPartialScale e.result).length ≤ 1
  one_breakeven : (run.filter fun e => movesToBreakeven e.result).length ≤ 1
  scale_leaves : ∀ e ∈ run, isPartialScale e.result →
    1 ≤ soldBy e.result ∧ soldBy e.result ≤ e.before.held - 1
  total : EndsInFullExit run → (run.map fun e => soldBy e.result).sum = quantity

/-- What the ladder has banked is not there to be taken off the contracts that are still held. -/
def HeldLadder.BankSpent (position : HeldLadder) : Prop :=
  position.state.bankedQuantity = 0 ∨ position.held ≤ position.state.bankedQuantity

theorem remainingQuantity_eq_held_iff {position : HeldLadder} :
    remainingQuantity position.held position.state = position.held ↔ position.BankSpent := by
  unfold remainingQuantity HeldLadder.BankSpent
  split <;> omega

namespace TickEffect

variable {quantity : ℤ} {state after : ProfileExitState}
  {answer : Except PyException ProfileExitDecision}

/-- The first target stays banked. -/
theorem target1_kept (h : TickEffect quantity state answer after)
    (hbanked : state.target1Banked = true) : after.target1Banked = true := by
  cases h with
  | raises e => exact hbanked
  | holds decision _ held action target1 => exact target1.trans hbanked
  | closes decision => exact hbanked
  | banksAll decision _ full action sold unbanked target1 => exact target1
  | banksPart decision _ exits action sells leaves unbanked target1 => exact target1
  | moves decision _ held action unemitted emittedNow target1 => exact target1.trans hbanked

/-- The move to breakeven stays emitted. -/
theorem emitted_kept (h : TickEffect quantity state answer after)
    (hemitted : state.breakevenEmitted = true) : after.breakevenEmitted = true := by
  cases h with
  | raises e => exact hemitted
  | holds decision _ held action target1 banked emitted => exact emitted.trans hemitted
  | closes decision => exact hemitted
  | banksAll decision _ full action sold unbanked target1 emitted => exact emitted.trans hemitted
  | banksPart decision _ exits action sells leaves unbanked target1 banked emitted =>
    exact emitted.trans hemitted
  | moves decision _ held action unemitted emittedNow => exact emittedNow

theorem not_isPartial_of_isFull {decision : ProfileExitDecision} (full : decision.isFull) :
    decision.isPartial = false := by
  have hwhole := (Bool.and_eq_true_iff.mp full).2
  simpa using hwhole

/-- A partial sells at least one contract, leaves one, and banks the first target for the first time. -/
theorem of_scaledOut (h : TickEffect quantity state answer after) (hpart : isPartialScale answer) :
    (1 ≤ soldBy answer ∧ soldBy answer ≤ quantity - 1) ∧ state.target1Banked = false ∧
      after.target1Banked = true := by
  cases h with
  | raises e => cases hpart
  | holds decision _ held action =>
    simp [isPartialScale, ProfileExitDecision.isPartial, action] at hpart
  | closes decision full =>
    exact nomatch (not_isPartial_of_isFull full).symm.trans hpart
  | banksAll decision _ full =>
    exact nomatch (not_isPartial_of_isFull full).symm.trans hpart
  | banksPart decision _ exits action sells leaves unbanked target1 =>
    have hsold : soldBy (.ok decision) = decision.exitQuantity := if_pos exits
    rw [hsold]
    exact ⟨⟨sells, leaves⟩, unbanked, target1⟩
  | moves decision _ held action =>
    simp [isPartialScale, ProfileExitDecision.isPartial, action] at hpart

/-- The move to breakeven is emitted for the first time. -/
theorem of_move (h : TickEffect quantity state answer after) (hmoves : movesToBreakeven answer) :
    state.breakevenEmitted = false ∧ after.breakevenEmitted = true := by
  cases h with
  | raises e => cases hmoves
  | holds decision _ held action => simp [movesToBreakeven, action] at hmoves
  | closes decision full action => exact absurd (of_decide_eq_true hmoves) action
  | banksAll decision _ full action => exact absurd (of_decide_eq_true hmoves) action
  | banksPart decision _ exits action => simp [movesToBreakeven, action] at hmoves
  | moves decision _ held action unemitted emittedNow => exact ⟨unemitted, emittedNow⟩

/-- Short of a full exit only a partial sells. -/
theorem soldBy_of_open (h : TickEffect quantity state answer after)
    (hopen : isFullExit answer = false) (hpart : isPartialScale answer = false) :
    soldBy answer = 0 := by
  cases h with
  | raises e => rfl
  | holds decision _ held => simp [soldBy, held]
  | closes decision full => exact nomatch hopen.symm.trans full
  | banksAll decision _ full => exact nomatch hopen.symm.trans full
  | banksPart decision _ exits action =>
    simp [isPartialScale, ProfileExitDecision.isPartial, action] at hpart
  | moves decision _ held => simp [soldBy, held]

/-- Nothing is banked before the first target. -/
theorem bank_sound (h : TickEffect quantity state answer after)
    (hsound : state.target1Banked = false → state.bankedQuantity = 0)
    (hunbanked : after.target1Banked = false) : after.bankedQuantity = 0 := by
  cases h with
  | raises e => exact hsound hunbanked
  | holds decision _ held action target1 banked =>
    exact banked.trans (hsound (target1.symm.trans hunbanked))
  | closes decision => exact hsound hunbanked
  | banksAll decision _ full action sold unbanked target1 =>
    exact nomatch target1.symm.trans hunbanked
  | banksPart decision _ exits action sells leaves unbanked target1 =>
    exact nomatch target1.symm.trans hunbanked
  | moves decision _ held action unemitted emittedNow target1 banked =>
    exact banked.trans (hsound (target1.symm.trans hunbanked))

/-- A full exit sells what the ladder takes to remain, or all of an unbanked position. -/
theorem of_full (h : TickEffect quantity state answer after) (hfull : isFullExit answer) :
    soldBy answer = remainingQuantity quantity state ∨
      (soldBy answer = quantity ∧ state.target1Banked = false) := by
  have hsold {decision : ProfileExitDecision} (full : decision.isFull) :
      soldBy (.ok decision) = decision.exitQuantity :=
    if_pos (Bool.and_eq_true_iff.mp full).1
  cases h with
  | raises e => cases hfull
  | holds decision _ held => simp [isFullExit, ProfileExitDecision.isFull, held] at hfull
  | closes decision full action sold => exact Or.inl ((hsold full).trans sold)
  | banksAll decision _ full action sold unbanked =>
    exact Or.inr ⟨(hsold full).trans sold, unbanked⟩
  | banksPart decision _ exits action =>
    simp [isFullExit, ProfileExitDecision.isFull, ProfileExitDecision.isPartial, action] at hfull
  | moves decision _ held => simp [isFullExit, ProfileExitDecision.isFull, held] at hfull

end TickEffect

section Runs

variable {platform : Platform} {fields : ProfileExitFields} {entryPremium : ℚ}

theorem heldTick_effect (platform : Platform) (fields : ProfileExitFields) (entryPremium : ℚ)
    (tick : ProfileTick) (position : HeldLadder) :
    TickEffect position.held position.state (heldTick platform fields entryPremium tick position).1
      (heldTick platform fields entryPremium tick position).2.state :=
  ladderTick_effect platform fields entryPremium { tick with quantity := position.held }
    position.state

/-- The contracts of a partial are no longer held after its tick, and all others still are. -/
theorem heldTick_held (tick : ProfileTick) (position : HeldLadder)
    (hopen : isFullExit (heldTick platform fields entryPremium tick position).1 = false) :
    (heldTick platform fields entryPremium tick position).2.held +
      soldBy (heldTick platform fields entryPremium tick position).1 = position.held := by
  have heffect := heldTick_effect platform fields entryPremium tick position
  have hheld : (heldTick platform fields entryPremium tick position).2.held =
      if isPartialScale (heldTick platform fields entryPremium tick position).1 then
        position.held - soldBy (heldTick platform fields entryPremium tick position).1
      else position.held := rfl
  rw [hheld]
  split
  · omega
  · next hpart =>
    have hsold := heffect.soldBy_of_open hopen (Bool.eq_false_of_not_eq_true hpart)
    omega

/-- Nothing is banked before the first target. -/
def HeldLadder.BankSound (position : HeldLadder) : Prop :=
  position.state.target1Banked = false → position.state.bankedQuantity = 0

theorem heldTick_bankSound (tick : ProfileTick) (position : HeldLadder)
    (hsound : position.BankSound) :
    (heldTick platform fields entryPremium tick position).2.BankSound :=
  (heldTick_effect platform fields entryPremium tick position).bank_sound hsound

/-- A full exit sells what is held exactly when the bank is not taken off it again. -/
theorem heldTick_closes_iff (tick : ProfileTick) (position : HeldLadder)
    (hsound : position.BankSound)
    (hfull : isFullExit (heldTick platform fields entryPremium tick position).1) :
    soldBy (heldTick platform fields entryPremium tick position).1 = position.held ↔
      position.BankSpent := by
  have heffect := heldTick_effect platform fields entryPremium tick position
  rcases heffect.of_full hfull with hsold | ⟨hsold, hunbanked⟩
  · rw [hsold]
    exact remainingQuantity_eq_held_iff
  · exact iff_of_true hsold (Or.inl (hsound hunbanked))

variable (platform fields entryPremium) (quantity : ℤ) (seedQuantity : Option ℤ)

theorem heldAfter_bankSound (ticks : List ProfileTick) :
    (heldAfter platform fields entryPremium quantity seedQuantity ticks).BankSound :=
  invariant_finish (fun tick position h => heldTick_bankSound tick position h) (fun _ => rfl) ticks

theorem heldRun_append_singleton (ticks : List ProfileTick) (tick : ProfileTick) :
    heldRun platform fields entryPremium quantity seedQuantity (ticks ++ [tick]) =
      heldRun platform fields entryPremium quantity seedQuantity ticks ++
        [event (heldTick platform fields entryPremium) tick
          (heldAfter platform fields entryPremium quantity seedQuantity ticks)] :=
  trace_append _ ticks [tick]

/-- In a run that ends in a full exit the exits come to the whole position exactly when its last tick
finds the bank spent. -/
theorem sum_heldRun_eq_iff {ticks : List ProfileTick}
    (hends : EndsInFullExit (heldRun platform fields entryPremium quantity seedQuantity ticks)) :
    ((heldRun platform fields entryPremium quantity seedQuantity ticks).map fun e =>
        soldBy e.result).sum = quantity ↔
      (heldAfter platform fields entryPremium quantity seedQuantity ticks.dropLast).BankSpent := by
  obtain ⟨earlier, last, hrun, hearlier, hlast⟩ := hends
  obtain rfl | ⟨ticks, tick, rfl⟩ := ticks.eq_nil_or_concat'
  · simp [heldRun, trace] at hrun
  rw [heldRun_append_singleton] at hrun ⊢
  obtain ⟨rfl, hevent⟩ := List.append_inj' hrun rfl
  obtain rfl := (List.cons.inj hevent).1
  rw [List.dropLast_concat]
  set position := heldAfter platform fields entryPremium quantity seedQuantity ticks with hposition
  -- what is left of the position at the last tick
  have hheld : position.held + ((heldRun platform fields entryPremium quantity seedQuantity
      ticks).map fun e => soldBy e.result).sum = quantity := by
    refine finish_add_sum_trace (f := HeldLadder.held) fun e he => ?_
    have hstep := (eq_event_of_mem_trace (I := fun _ => True) (fun _ _ _ => trivial) trivial he).2
    have hopen := hearlier e he
    rw [hstep] at hopen ⊢
    exact heldTick_held e.call e.before hopen
  have hsound : position.BankSound :=
    heldAfter_bankSound platform fields entryPremium quantity seedQuantity ticks
  have hcloses := heldTick_closes_iff tick position hsound hlast
  rw [← hcloses, List.map_append, List.sum_append, List.map_singleton, List.sum_singleton]
  have hresult : (event (heldTick platform fields entryPremium) tick position).result =
    (heldTick platform fields entryPremium tick position).1 := rfl
  rw [hresult]
  constructor
  · intro h
    linarith
  · intro h
    linarith

/-- Every run accounts for the contracts of its position once exactly when its full exit, if it ends in
one, finds nothing banked or no more held than was banked. -/
theorem accounts_once_iff (ticks : List ProfileTick) :
    AccountsOnce quantity (heldRun platform fields entryPremium quantity seedQuantity ticks) ↔
      (EndsInFullExit (heldRun platform fields entryPremium quantity seedQuantity ticks) →
        (heldAfter platform fields entryPremium quantity seedQuantity
          ticks.dropLast).BankSpent) := by
  constructor
  · intro h hends
    exact (sum_heldRun_eq_iff platform fields entryPremium quantity seedQuantity hends).mp
      (h.total hends)
  · intro hspent
    refine ⟨?_, ?_, ?_, fun hends => ?_⟩
    · refine length_fires_le_one (L := fun position => position.state.target1Banked = true) ?_ ?_
      · exact forall_mem_trace (fun tick position => (heldTick_effect _ _ _ tick position).target1_kept) _ _
      · refine forall_mem_trace (fun tick position hpart => ?_) _ _
        obtain ⟨-, hunbanked, hbanked⟩ := (heldTick_effect _ _ _ tick position).of_scaledOut hpart
        exact ⟨Bool.eq_false_iff.mp hunbanked, hbanked⟩
    · refine length_fires_le_one (L := fun position => position.state.breakevenEmitted = true) ?_ ?_
      · exact forall_mem_trace (fun tick position => (heldTick_effect _ _ _ tick position).emitted_kept) _ _
      · refine forall_mem_trace (fun tick position hmoves => ?_) _ _
        obtain ⟨hunemitted, hemitted⟩ := (heldTick_effect _ _ _ tick position).of_move hmoves
        exact ⟨Bool.eq_false_iff.mp hunemitted, hemitted⟩
    · exact forall_mem_trace
        (fun tick position hpart => ((heldTick_effect _ _ _ tick position).of_scaledOut hpart).1) _ _
    · exact (sum_heldRun_eq_iff platform fields entryPremium quantity seedQuantity hends).mpr
        (hspent hends)

end Runs

namespace TwoTargets

/-- Three of ten contracts are banked at 1R, the rest runs. -/
def thirds : ProfileExitFields := { fields with target1Quantity := 3 / 10 }

end TwoTargets

open TwoTargets in
/-- After three of ten contracts are banked the breakeven stop closes only four of the seven held. -/
theorem runner_exit_leaves_contracts :
    ¬∀ (platform : Platform) (fields : ProfileExitFields) (entryPremium : ℚ) (quantity : ℤ)
        (ticks : List ProfileTick), 1 ≤ quantity →
      AccountsOnce quantity (heldRun platform fields entryPremium quantity (some quantity) ticks) := by
  intro h
  have htotal := (h platform thirds 1 10 [tick 2, tick 1] (by decide)).total
  have hends : EndsInFullExit (heldRun platform thirds 1 10 (some 10) [tick 2, tick 1]) :=
    ⟨[_], _, rfl, by decide +kernel, by decide +kernel⟩
  exact absurd (htotal hends) (by decide +kernel)

end Bhiksha
