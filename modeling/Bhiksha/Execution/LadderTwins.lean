import Bhiksha.Library.Lockstep
import Bhiksha.Execution.FrozenLadder

/-! Two ladders over one durable row: when they answer every tick alike, and what tells them apart
when only one still awaits its breakeven move. -/

namespace Bhiksha

open Library

/-- How an evaluation ends, as far as the view of the tick decides it. -/
inductive LadderFate where
  | settled (result : Except PyException ProfileExitDecision)
  | banks (current : ℚ)
  | bottoms (current : ℚ)

section Fate

variable (fields : ProfileExitFields) (view : LadderView)

/-- The rungs that need a premium, without the writes to the state. -/
def walkFate (platform : Platform) (current : ℚ) : LadderFate :=
  match stopRungs fields view current with
  | some decision => .settled (.ok decision)
  | none =>
    match firedPolicyFloor platform fields view.peakR (view.currentR current) with
    | .error e => .settled (.error e)
    | .ok (some floorR) => .settled (.ok (policyFloorExit fields view floorR))
    | .ok none =>
      if ReachesTarget1 fields view current then .banks current
      else
        match runnerRungs fields view current with
        | some decision => .settled (.ok decision)
        | none => .bottoms current

/-- The evaluation without the writes to the state; no bar clock is insisted on. -/
def ladderFate (platform : Platform) (market : ProfileMarketView) : LadderFate :=
  if view.entryPremium ≤ 0 ∨ view.quantity ≤ 0 then
    .settled (.ok (holdDecision fields "profile_no_position" []))
  else if view.risk ≤ 0 then .settled (.ok (holdDecision fields "profile_no_risk" []))
  else
    match eodFlatRung fields view market with
    | some decision => .settled (.ok decision)
    | none =>
      match market.currentPremium with
      | none => .settled (.ok (holdDecision fields "profile_premium_unavailable" []))
      | some current => walkFate fields view platform current

/-- What the fate of a tick makes of the state. -/
def LadderFate.apply (state : ProfileExitState) :
    LadderFate → Except PyException (ProfileExitDecision × ProfileExitState)
  | .settled result => result.map fun decision => (decision, state)
  | .banks current => .ok (bankTarget1 fields view current state)
  | .bottoms current => .ok (bottomRung fields view current state)

end Fate

theorem walkLadder_eq_fate (fields : ProfileExitFields) (view : LadderView) (platform : Platform)
    (current : ℚ) (state : ProfileExitState) :
    walkLadder fields view platform current state =
      (walkFate fields view platform current).apply fields view state := by
  unfold walkLadder walkFate
  cases stopRungs fields view current with
  | some decision => rfl
  | none =>
    cases firedPolicyFloor platform fields view.peakR (view.currentR current) with
    | error e => rfl
    | ok floor =>
      cases floor with
      | some floorR => rfl
      | none =>
        simp only
        split
        · rfl
        · cases runnerRungs fields view current <;> rfl

/-- All that an evaluation reads of the state before its first write is in the view. -/
theorem evaluateProfileExit_eq_fate (platform : Platform) (fields : ProfileExitFields)
    (entryPremium : ℚ) (quantity : ℤ) (market : ProfileMarketView) (entryTime : Option ℚ) (now : ℚ)
    (state : ProfileExitState) :
    evaluateProfileExit platform fields entryPremium quantity market entryTime now state false =
      (ladderFate fields
        (ladderView platform fields entryPremium quantity market entryTime now state) platform
        market).apply fields
        (ladderView platform fields entryPremium quantity market entryTime now state) state := by
  have hclock : barClockMissing fields market false = false := Bool.and_false _
  have hview : (ladderView platform fields entryPremium quantity market entryTime now state).entryPremium
      = entryPremium ∧ (ladderView platform fields entryPremium quantity market entryTime now
        state).quantity = quantity := ⟨rfl, rfl⟩
  unfold evaluateProfileExit ladderFate
  simp only [hclock, Bool.false_eq_true, if_false, hview]
  generalize ladderView platform fields entryPremium quantity market entryTime now state = view
  split
  · rfl
  split
  · rfl
  cases eodFlatRung fields view market with
  | some decision => rfl
  | none =>
    cases market.currentPremium with
    | none => rfl
    | some current => exact walkLadder_eq_fate fields view platform current state

/-- A decision that dispatches neither a partial close nor a stop move. -/
def ProfileExitDecision.passive (decision : ProfileExitDecision) : Bool :=
  match decision.fsmAction with
  | .partialScale | .stopToBreakeven => false
  | _ => true

theorem action_ne_of_passive {decision : ProfileExitDecision} (h : decision.passive) :
    decision.fsmAction ≠ .partialScale ∧ decision.fsmAction ≠ .stopToBreakeven := by
  unfold ProfileExitDecision.passive at h
  constructor
  · intro haction
    rw [haction] at h
    cases h
  · intro haction
    rw [haction] at h
    cases h

theorem SquaresOff.passive {fields : ProfileExitFields} {view : LadderView}
    {decision : ProfileExitDecision} (h : SquaresOff fields view decision) : decision.passive := by
  obtain ⟨rule, reason, extra, rfl⟩ := h
  rfl

/-- Only banking T1 and the last rung dispatch anything but a full exit. -/
theorem passive_of_settled {fields : ProfileExitFields} {view : LadderView} {platform : Platform}
    {market : ProfileMarketView} {decision : ProfileExitDecision}
    (h : ladderFate fields view platform market = .settled (.ok decision)) : decision.passive := by
  have hhold {reason : String} (heq : LadderFate.settled (.ok (holdDecision fields reason [])) =
      .settled (.ok decision)) : decision.passive := by
    cases heq
    rfl
  unfold ladderFate at h
  split at h
  · exact hhold h
  split at h
  · exact hhold h
  split at h
  · next eodFlat heod =>
    cases h
    obtain ⟨reason, rfl⟩ := eq_hardFlat_of_eodFlatRung heod
    rfl
  split at h
  · exact hhold h
  unfold walkFate at h
  split at h
  · next stop hstop =>
    cases h
    exact (eq_squareOff_of_stopRungs hstop).passive
  split at h
  · cases h
  · cases h
    rfl
  split at h
  · cases h
  split at h
  · next runner hrunner =>
    cases h
    exact (eq_squareOff_of_runnerRungs hrunner).passive
  · cases h

/-- T1 comes up only on a ladder that has not banked it. -/
theorem unbanked_of_banks {fields : ProfileExitFields} {view : LadderView} {platform : Platform}
    {market : ProfileMarketView} {current : ℚ}
    (h : ladderFate fields view platform market = .banks current) : view.target1Banked = false := by
  have hreached : ReachesTarget1 fields view current := by
    unfold ladderFate walkFate at h
    repeat' split at h
    all_goals first
      | cases h; done
      | (cases h; assumption)
  obtain ⟨price, hprice, -⟩ := hreached
  unfold target1Price at hprice
  split at hprice
  · next hunbanked => exact Bool.eq_false_of_not_eq_true hunbanked.1
  · cases hprice

/-- The breakeven move is due and has not been emitted. -/
def ProfileExitState.awaitsBreakeven (state : ProfileExitState) : Bool :=
  state.stopAtBreakeven && !state.breakevenEmitted

/-- Ladders that show every rung the same view, and whose breakeven flags agree until T1 is banked. -/
structure SameMarks (a b : ProfileExitState) : Prop where
  peak : a.peakPremium = b.peakPremium
  target1 : a.target1Banked = b.target1Banked
  quantity : a.bankedQuantity = b.bankedQuantity
  flags : a.target1Banked = false →
    a.stopAtBreakeven = b.stopAtBreakeven ∧ a.breakevenEmitted = b.breakevenEmitted

theorem SameMarks.view_eq {a b : ProfileExitState} (h : SameMarks a b) (platform : Platform)
    (fields : ProfileExitFields) (entryPremium : ℚ) (quantity : ℤ) (market : ProfileMarketView)
    (entryTime : Option ℚ) (now : ℚ) :
    ladderView platform fields entryPremium quantity market entryTime now a =
      ladderView platform fields entryPremium quantity market entryTime now b := by
  simp only [ladderView, remainingQuantity, h.peak, h.target1, h.quantity]

theorem awaitsBreakeven_eq_true {state : ProfileExitState} :
    state.awaitsBreakeven = true ↔
      state.stopAtBreakeven = true ∧ state.breakevenEmitted = false := by
  simp [ProfileExitState.awaitsBreakeven]

section Marks

variable {a b : ProfileExitState} (fields : ProfileExitFields) (view : LadderView) (current : ℚ)

theorem bankTarget1_decision_eq :
    (bankTarget1 fields view current a).1 = (bankTarget1 fields view current b).1 := by
  unfold bankTarget1
  simp only
  split <;> rfl

theorem SameMarks.bankTarget1 (h : SameMarks a b) (hunbanked : a.target1Banked = false) :
    SameMarks (bankTarget1 fields view current a).2 (bankTarget1 fields view current b).2 ∧
      (bankTarget1 fields view current a).2.awaitsBreakeven =
        (bankTarget1 fields view current b).2.awaitsBreakeven := by
  obtain ⟨hstop, hemitted⟩ := h.flags hunbanked
  unfold Bhiksha.bankTarget1
  simp only
  split
  · refine ⟨⟨h.peak, rfl, rfl, fun hfalse => nomatch hfalse⟩, ?_⟩
    simp only [ProfileExitState.awaitsBreakeven, hstop, hemitted]
  · refine ⟨⟨h.peak, rfl, rfl, fun hfalse => nomatch hfalse⟩, ?_⟩
    simp only [ProfileExitState.awaitsBreakeven, hstop, hemitted]

theorem bankTarget1_action : (Bhiksha.bankTarget1 fields view current a).1.fsmAction ≠
    .stopToBreakeven := by
  unfold Bhiksha.bankTarget1
  simp only
  split <;> exact fun h => nomatch h

theorem bottomRung_of_awaits (h : a.awaitsBreakeven = true) :
    bottomRung fields view current a =
      (stopToBreakeven fields view, { a with breakevenEmitted := true }) :=
  if_pos h

theorem bottomRung_of_not_awaits (h : a.awaitsBreakeven = false) :
    bottomRung fields view current a =
      (holdDecision fields "profile_hold"
          { view with peakPremium := max a.peakPremium current }.diag,
        { a with peakPremium := max a.peakPremium current }) :=
  if_neg (Bool.eq_false_iff.mp h)

end Marks

namespace LadderPair

variable {V : Type} {trade : FrozenTrade V} {tick : ManagedTick} {pair p q : LadderPair}

/-- What a tick that hydrates sees. -/
def view (trade : FrozenTrade V) (tick : ManagedTick) (pair : LadderPair) : LadderView :=
  ladderView trade.platform trade.fields (tick.position.entryPrice.getD 0) tick.position.quantity
    tick.market tick.position.entryTimestamp tick.now pair.ladder

def fate (trade : FrozenTrade V) (tick : ManagedTick) (pair : LadderPair) : LadderFate :=
  ladderFate trade.fields (pair.view trade tick) trade.platform tick.market

@[simp] theorem recover_ladder (pair : LadderPair) : pair.recover.ladder = pair.ladder := by
  unfold recover
  split <;> rfl

@[simp] theorem recover_openIntents (pair : LadderPair) :
    pair.recover.openIntents = pair.openIntents := by
  unfold recover
  split <;> rfl

/-- The pair after the evaluation has left `ladder` and the decision has been dispatched. -/
def settle (tick : ManagedTick) (pair : LadderPair)
    (outcome : ProfileExitDecision × ProfileExitState) :
    Except PyException ProfileExitDecision × LadderPair :=
  (.ok outcome.1,
    (persistLivePeakState tick.timestamp { pair with ladder := outcome.2 }).dispatch tick outcome.1)

theorem manage_eq (trade : FrozenTrade V) (tick : ManagedTick) (pair : LadderPair) :
    pair.manage trade tick =
      match pair.fate trade tick with
      | .settled (.error e) => (.error e, pair.recover)
      | .settled (.ok decision) => pair.recover.settle tick (decision, pair.ladder)
      | .banks current =>
        pair.recover.settle tick (bankTarget1 trade.fields (pair.view trade tick) current pair.ladder)
      | .bottoms current =>
        pair.recover.settle tick (bottomRung trade.fields (pair.view trade tick) current pair.ladder) := by
  unfold manage
  simp only [recover_ladder, evaluateProfileExit_eq_fate]
  unfold fate view
  cases ladderFate trade.fields _ trade.platform tick.market with
  | settled result => cases result <;> rfl
  | banks current => rfl
  | bottoms current => rfl

theorem dispatch_of_passive {decision : ProfileExitDecision} (h : decision.passive)
    (tick : ManagedTick) (pair : LadderPair) : pair.dispatch tick decision = pair := by
  obtain ⟨hscale, hstop⟩ := action_ne_of_passive h
  unfold dispatch
  split
  · next haction => exact absurd haction hscale
  · next haction _ => exact absurd haction hstop
  · rfl

/-- A decision that leaves the ladder as it was leaves the pair as it was, once the peak is
persisted. -/
theorem settle_of_passive {decision : ProfileExitDecision} (h : decision.passive)
    (hpeak : pair.ladder.peakPremium ≤ pair.durable.rawPeakPremium) (tick : ManagedTick) :
    pair.settle tick (decision, pair.ladder) = (.ok decision, pair) := by
  unfold settle
  rw [dispatch_of_passive h, persistLivePeakState, if_pos hpeak]

/-- Pairs over one durable row whose ladders show every rung the same view. -/
structure Alike (p q : LadderPair) : Prop where
  durable : p.durable = q.durable
  openIntents : p.openIntents = q.openIntents
  marks : SameMarks p.ladder q.ladder

/-- Alike, and both or neither await the breakeven move. -/
structure Twins (p q : LadderPair) : Prop extends Alike p q where
  awaits : p.ladder.awaitsBreakeven = q.ladder.awaitsBreakeven

theorem Alike.hydrates_iff (h : Alike p q) : p.Hydrates trade tick ↔ q.Hydrates trade tick := by
  unfold Hydrates
  rw [h.durable, h.openIntents]

theorem Alike.view_eq (h : Alike p q) : p.view trade tick = q.view trade tick :=
  h.marks.view_eq _ _ _ _ _ _ _

theorem Alike.fate_eq (h : Alike p q) : p.fate trade tick = q.fate trade tick := by
  unfold fate
  rw [h.view_eq]

theorem Alike.recover (h : Alike p q) : Alike p.recover q.recover := by
  obtain ⟨hdurable, hopen, hmarks⟩ := h
  refine ⟨?_, by simpa using hopen, by simpa using hmarks⟩
  unfold LadderPair.recover
  rw [hdurable]
  split <;> simp only [hdurable]

theorem Alike.markDegraded (h : Alike p q) (reason : String) :
    Alike (p.markDegraded reason) (q.markDegraded reason) := by
  unfold LadderPair.markDegraded
  rw [h.durable]
  split
  · exact h
  · exact ⟨rfl, h.openIntents, h.marks⟩

theorem Alike.confirm (h : Alike p q) (orderId : Option String) (confirmedQuantity : ℤ) :
    Alike (p.confirmPartialActionIntent orderId confirmedQuantity)
      (q.confirmPartialActionIntent orderId confirmedQuantity) := by
  unfold confirmPartialActionIntent
  rw [h.durable, h.openIntents]
  split
  · exact h
  · exact ⟨rfl, rfl, h.marks⟩

theorem confirm_ladder (orderId : Option String) (confirmedQuantity : ℤ) (pair : LadderPair) :
    (pair.confirmPartialActionIntent orderId confirmedQuantity).ladder = pair.ladder := by
  unfold confirmPartialActionIntent
  split <;> rfl

theorem Twins.fail (h : Twins p q) (orderId : Option String) (rolledBack : Bool) :
    Twins (p.failPartialActionIntent orderId rolledBack)
      (q.failPartialActionIntent orderId rolledBack) := by
  unfold failPartialActionIntent
  rw [h.openIntents]
  split
  · exact h
  · cases rolledBack with
    | true => exact ⟨⟨h.durable, rfl, ⟨h.marks.peak, rfl, rfl, fun _ => ⟨rfl, rfl⟩⟩⟩, rfl⟩
    | false => exact ⟨⟨h.durable, rfl, h.marks⟩, h.awaits⟩

/-- With no intent open there is none to confirm or to fail. -/
theorem confirm_of_settled (hopen : pair.openIntents = []) (orderId : Option String)
    (confirmedQuantity : ℤ) : pair.confirmPartialActionIntent orderId confirmedQuantity = pair := by
  unfold confirmPartialActionIntent
  rw [hopen, List.find?_nil]

theorem fail_of_settled (hopen : pair.openIntents = []) (orderId : Option String) (rolledBack : Bool) :
    pair.failPartialActionIntent orderId rolledBack = pair := by
  unfold failPartialActionIntent
  rw [hopen, List.find?_nil]

theorem markDegraded_openIntents (reason : String) (pair : LadderPair) :
    (pair.markDegraded reason).openIntents = pair.openIntents := by
  unfold markDegraded
  split <;> rfl

theorem markDegraded_ladder (reason : String) (pair : LadderPair) :
    (pair.markDegraded reason).ladder = pair.ladder := by
  unfold markDegraded
  split <;> rfl

theorem Twins.handlePartialScale (h : Twins p q) (tick : ManagedTick) (closeQty : ℤ) :
    Twins (p.handlePartialScale tick closeQty) (q.handlePartialScale tick closeQty) := by
  have hintent : p.partialIntent tick closeQty = q.partialIntent tick closeQty := by
    unfold partialIntent
    rw [h.durable]
  have hprepared (intents : List ExitActionIntent) :
      Alike { p with openIntents := intents } { q with openIntents := intents } :=
    ⟨h.durable, rfl, h.marks⟩
  unfold LadderPair.handlePartialScale
  simp only [hintent, h.openIntents]
  cases tick.partialEffect with
  | proved orderId =>
    refine ⟨(hprepared _).confirm orderId closeQty, ?_⟩
    simpa only [confirm_ladder] using h.awaits
  | pending orderId => exact ⟨hprepared _, h.awaits⟩
  | refused => exact ⟨⟨h.durable, h.openIntents, ⟨h.marks.peak, rfl, rfl, fun _ => ⟨rfl, rfl⟩⟩⟩, rfl⟩

theorem Twins.applyReplacementStop (h : Twins p q)
    (hstop : p.ladder.stopAtBreakeven = q.ladder.stopAtBreakeven) (tick : ManagedTick)
    (newStopPrice : ℚ) :
    Twins (p.applyReplacementStop tick newStopPrice) (q.applyReplacementStop tick newStopPrice) := by
  unfold LadderPair.applyReplacementStop
  split
  · exact h
  split
  · rw [h.durable]
    exact ⟨⟨rfl, h.openIntents, h.marks⟩, h.awaits⟩
  · refine ⟨⟨h.durable, h.openIntents, ?_⟩, ?_⟩
    · exact ⟨h.marks.peak, h.marks.target1, h.marks.quantity, fun _ => ⟨hstop, rfl⟩⟩
    · simp only [rollbackUnconfirmedBreakeven, ProfileExitState.awaitsBreakeven, hstop]

theorem Alike.persist (h : Alike p q) (now : String) :
    Alike (p.persistLivePeakState now) (q.persistLivePeakState now) := by
  unfold persistLivePeakState
  rw [h.durable, h.marks.peak]
  split
  · exact h
  · exact ⟨rfl, h.openIntents, h.marks⟩

theorem persist_ladder (now : String) (pair : LadderPair) :
    (pair.persistLivePeakState now).ladder = pair.ladder := by
  unfold persistLivePeakState
  split <;> rfl

/-- Twins that settle the same decision on ladders that agree remain twins. -/
theorem Twins.settle (h : Alike p q) {x y : ProfileExitDecision × ProfileExitState}
    (hdecision : x.1 = y.1) (hmarks : SameMarks x.2 y.2)
    (hawaits : x.2.awaitsBreakeven = y.2.awaitsBreakeven)
    (hstop : x.1.fsmAction = .stopToBreakeven → x.2.stopAtBreakeven = y.2.stopAtBreakeven)
    (tick : ManagedTick) :
    (p.settle tick x).1 = (q.settle tick y).1 ∧ Twins (p.settle tick x).2 (q.settle tick y).2 := by
  have hset : Twins (persistLivePeakState tick.timestamp { p with ladder := x.2 })
      (persistLivePeakState tick.timestamp { q with ladder := y.2 }) := by
    have halike : Alike { p with ladder := x.2 } { q with ladder := y.2 } :=
      ⟨h.durable, h.openIntents, hmarks⟩
    refine ⟨halike.persist tick.timestamp, ?_⟩
    simpa only [persist_ladder] using hawaits
  refine ⟨congrArg Except.ok hdecision, ?_⟩
  unfold LadderPair.settle dispatch
  simp only [← hdecision]
  split
  · exact hset.handlePartialScale tick x.1.exitQuantity
  · next haction _ =>
    refine hset.applyReplacementStop ?_ tick _
    simpa only [persist_ladder] using hstop haction
  · exact hset

theorem Twins.manage (h : Twins p q) (trade : FrozenTrade V) (tick : ManagedTick) :
    (p.manage trade tick).1 = (q.manage trade tick).1 ∧
      Twins (p.manage trade tick).2 (q.manage trade tick).2 := by
  rw [manage_eq, manage_eq, ← h.fate_eq, ← h.view_eq]
  cases hfate : p.fate trade tick with
  | settled result =>
    cases result with
    | error e => exact ⟨rfl, h.recover, by simpa using h.awaits⟩
    | ok decision =>
      apply Twins.settle h.recover
      · exact Eq.refl decision
      · exact h.marks
      · exact h.awaits
      · intro haction
        exact absurd haction (action_ne_of_passive (passive_of_settled hfate)).2
  | banks current =>
    have hunbanked : p.ladder.target1Banked = false := unbanked_of_banks hfate
    obtain ⟨hmarks, hawaits⟩ :=
      h.marks.bankTarget1 trade.fields (p.view trade tick) current hunbanked
    apply Twins.settle h.recover
    · exact bankTarget1_decision_eq _ _ _
    · exact hmarks
    · exact hawaits
    · intro haction
      exact absurd haction (bankTarget1_action _ _ _)
  | bottoms current =>
    obtain ⟨hpeak, htarget1, hquantity, hflags⟩ := h.marks
    cases hawaits : p.ladder.awaitsBreakeven with
    | true =>
      -- both emit the move, and both carry the flag that asked for it
      have hawaits' : q.ladder.awaitsBreakeven = true := by rw [← h.awaits, hawaits]
      have hstop : p.ladder.stopAtBreakeven = q.ladder.stopAtBreakeven := by
        rw [(awaitsBreakeven_eq_true.mp hawaits).1, (awaitsBreakeven_eq_true.mp hawaits').1]
      simp only [bottomRung_of_awaits _ _ _ hawaits, bottomRung_of_awaits _ _ _ hawaits']
      apply Twins.settle h.recover
      · exact Eq.refl (stopToBreakeven trade.fields (p.view trade tick))
      · exact ⟨hpeak, htarget1, hquantity, fun _ => ⟨hstop, rfl⟩⟩
      · simp [ProfileExitState.awaitsBreakeven]
      · exact fun _ => hstop
    | false =>
      have hawaits' : q.ladder.awaitsBreakeven = false := by rw [← h.awaits, hawaits]
      simp only [bottomRung_of_not_awaits _ _ _ hawaits, bottomRung_of_not_awaits _ _ _ hawaits']
      apply Twins.settle h.recover
      · simp only [hpeak]
      · exact ⟨congrArg (max · current) hpeak, htarget1, hquantity, hflags⟩
      · exact h.awaits
      · intro haction
        cases haction

theorem step_tick (hhydrates : pair.Hydrates trade tick) :
    pair.step trade (.tick tick) =
      some (some ((pair.manage trade tick).1.map ProfileExitDecision.verdict),
        (pair.manage trade tick).2) :=
  if_pos hhydrates

theorem step_tick_none (hhydrates : ¬pair.Hydrates trade tick) :
    pair.step trade (.tick tick) = none :=
  if_neg hhydrates

/-- Twins answer every event alike and remain twins. -/
theorem lockstep_twins (trade : FrozenTrade V) :
    Lockstep (LadderPair.step trade) Twins fun _ _ => False where
  apart := fun _ hnever => hnever.elim
  together := by
    intro p q event h _
    cases event with
    | partialProved orderId filledQuantity =>
      refine Or.inr ⟨_, _, _, rfl, rfl, h.toAlike.confirm orderId filledQuantity, ?_⟩
      simpa only [confirm_ladder] using h.awaits
    | partialFailed orderId rolledBack =>
      exact Or.inr ⟨_, _, _, rfl, rfl, h.fail orderId rolledBack⟩
    | degraded reason =>
      refine Or.inr ⟨_, _, _, rfl, rfl, h.toAlike.markDegraded reason, ?_⟩
      simpa only [markDegraded_ladder] using h.awaits
    | tick tick =>
      by_cases hp : p.Hydrates trade tick
      · have hq := h.hydrates_iff.mp hp
        obtain ⟨hdecision, htwins⟩ := h.manage trade tick
        exact Or.inr ⟨_, _, _, step_tick hp, by rw [step_tick hq, hdecision], htwins⟩
      · have hq : ¬q.Hydrates trade tick := fun hq => hp (h.hydrates_iff.mpr hq)
        exact Or.inl ⟨step_tick_none hp, step_tick_none hq⟩

/-- Alike with no intent open, but only the first still awaits the breakeven move of its banked T1. -/
structure LostBreakeven (p q : LadderPair) : Prop extends Alike p q where
  settled : p.openIntents = []
  target1Banked : p.ladder.target1Banked = true
  peak_le : p.ladder.peakPremium ≤ p.durable.rawPeakPremium
  awaits : p.ladder.awaitsBreakeven = true
  lost : q.ladder.awaitsBreakeven = false

/-- A tick that falls through every rung of the ladder to the last. -/
def ReachesLastRung (trade : FrozenTrade V) (pair : LadderPair) : LadderEvent → Prop
  | .tick tick => pair.Hydrates trade tick ∧ ∃ current, pair.fate trade tick = .bottoms current
  | _ => False

/-- A tick that settles without a write leaves the pair as it was, but for the row's recovery. -/
theorem manage_of_settled {result : Except PyException ProfileExitDecision}
    (hfate : pair.fate trade tick = .settled result)
    (hpeak : pair.ladder.peakPremium ≤ pair.durable.rawPeakPremium) :
    pair.manage trade tick = (result, pair.recover) := by
  rw [manage_eq, hfate]
  cases result with
  | error e => rfl
  | ok decision =>
    have hpeak' : pair.recover.ladder.peakPremium ≤ pair.recover.durable.rawPeakPremium := by
      unfold recover
      split <;> exact hpeak
    have hsettle := settle_of_passive (passive_of_settled hfate) hpeak' tick
    rw [recover_ladder] at hsettle
    exact hsettle

theorem step_of_settled {result : Except PyException ProfileExitDecision}
    (hhydrates : pair.Hydrates trade tick) (hfate : pair.fate trade tick = .settled result)
    (hpeak : pair.ladder.peakPremium ≤ pair.durable.rawPeakPremium) :
    pair.step trade (.tick tick) =
      some (some (result.map ProfileExitDecision.verdict), pair.recover) := by
  rw [step_tick hhydrates, manage_of_settled hfate hpeak]

theorem LostBreakeven.keep (h : LostBreakeven p q) {p' q' : LadderPair} (halike : Alike p' q')
    (hopen : p'.openIntents = p.openIntents) (hp : p'.ladder = p.ladder) (hq : q'.ladder = q.ladder)
    (hpeak : p.durable.rawPeakPremium ≤ p'.durable.rawPeakPremium) : LostBreakeven p' q' := by
  refine ⟨halike, ?_, ?_, ?_, ?_, ?_⟩
  · rw [hopen, h.settled]
  · rw [hp, h.target1Banked]
  · rw [hp]
    exact h.peak_le.trans hpeak
  · rw [hp, h.awaits]
  · rw [hq, h.lost]

/-- A pair that has lost its breakeven move answers like the original up to the last rung, where the
original moves the stop and the other holds. -/
theorem lockstep_lost (trade : FrozenTrade V) :
    Lockstep (LadderPair.step trade) LostBreakeven (ReachesLastRung trade) where
  together := by
    intro p q event h hlast
    cases event with
    | partialProved orderId filledQuantity =>
      refine Or.inr ⟨_, _, _, rfl, rfl, ?_⟩
      rw [confirm_of_settled h.settled, confirm_of_settled (h.openIntents ▸ h.settled)]
      exact h
    | partialFailed orderId rolledBack =>
      refine Or.inr ⟨_, _, _, rfl, rfl, ?_⟩
      rw [fail_of_settled h.settled, fail_of_settled (h.openIntents ▸ h.settled)]
      exact h
    | degraded reason =>
      refine Or.inr ⟨_, _, _, rfl, rfl, h.keep (h.toAlike.markDegraded reason)
        (markDegraded_openIntents _ _) (markDegraded_ladder _ _) (markDegraded_ladder _ _) ?_⟩
      unfold LadderPair.markDegraded
      split <;> exact le_rfl
    | tick tick =>
      by_cases hp : p.Hydrates trade tick
      · have hq := h.hydrates_iff.mp hp
        cases hfate : p.fate trade tick with
        | settled result =>
          have hfate' : q.fate trade tick = .settled result := by rw [← h.fate_eq, hfate]
          have hpeak' : q.ladder.peakPremium ≤ q.durable.rawPeakPremium := by
            rw [← h.marks.peak, ← h.durable]
            exact h.peak_le
          refine Or.inr ⟨_, _, _, step_of_settled hp hfate h.peak_le,
            step_of_settled hq hfate' hpeak', ?_⟩
          refine h.keep h.recover (recover_openIntents p) (recover_ladder p) (recover_ladder q) ?_
          unfold LadderPair.recover
          split <;> exact le_rfl
        | banks current =>
          have hunbanked : p.ladder.target1Banked = false := unbanked_of_banks hfate
          rw [h.target1Banked] at hunbanked
          cases hunbanked
        | bottoms current => exact absurd ⟨hp, current, hfate⟩ hlast
      · have hq : ¬q.Hydrates trade tick := fun hq => hp (h.hydrates_iff.mpr hq)
        exact Or.inl ⟨step_tick_none hp, step_tick_none hq⟩
  apart := by
    intro p q event h hlast
    cases event with
    | tick tick =>
      obtain ⟨hp, current, hfate⟩ := hlast
      have hq := h.hydrates_iff.mp hp
      have hfate' : q.fate trade tick = .bottoms current := by rw [← h.fate_eq, hfate]
      refine ⟨_, _, _, _, step_tick hp, step_tick hq, ?_⟩
      rw [manage_eq, manage_eq, hfate, hfate']
      simp only [bottomRung_of_awaits _ _ _ h.awaits, bottomRung_of_not_awaits _ _ _ h.lost]
      intro heq
      cases heq
    | partialProved orderId filledQuantity => exact hlast.elim
    | partialFailed orderId rolledBack => exact hlast.elim
    | degraded reason => exact hlast.elim

end LadderPair

end Bhiksha
