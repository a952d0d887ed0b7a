import Bhiksha.Execution.LadderTwins
import Bhiksha.Execution.PeakLaw

/-! A restart of a live trade: the ladder that hydration rebuilds against the one that was lost. -/

namespace Bhiksha

open Library

/-- T1 of such a position leaves a runner. -/
def ProfileExitFields.BanksPart (fields : ProfileExitFields) (quantity : ℤ) : Prop :=
  fields.target1Quantity < 1 ∧ 1 < quantity

theorem partialQuantity_of_part {quantity : ℤ} {fraction : ℚ} (hfraction : fraction < 1)
    (hquantity : 1 < quantity) :
    0 < partialQuantity quantity fraction ∧ partialQuantity quantity fraction < quantity := by
  unfold partialQuantity
  rw [if_neg hfraction.not_ge, if_pos hquantity]
  omega

theorem bankTarget1_of_part {fields : ProfileExitFields} {view : LadderView}
    (h : fields.BanksPart view.quantity) (current : ℚ) (state : ProfileExitState) :
    (bankTarget1 fields view current state).1.fsmAction = .partialScale ∧
      (bankTarget1 fields view current state).1.exitQuantity =
        partialQuantity view.quantity fields.target1Quantity ∧
      (bankTarget1 fields view current state).2 =
        { state with
          target1Banked := true
          target1Premium := some current
          bankedQuantity := partialQuantity view.quantity fields.target1Quantity
          stopAtBreakeven := state.stopAtBreakeven || fields.breakevenAfterT1 } := by
  obtain ⟨hfraction, hquantity⟩ := h
  have hpart := (partialQuantity_of_part hfraction hquantity).2
  have hrunner : ¬(view.quantity ≤ partialQuantity view.quantity fields.target1Quantity ∨
      1 ≤ fields.target1Quantity) := by
    rintro (hwhole | hwhole)
    · omega
    · exact absurd hfraction hwhole.not_gt
  unfold bankTarget1
  simp only [if_neg hrunner, and_self]

namespace LadderPair

variable {V : Type} {trade : FrozenTrade V} {tick : ManagedTick} {pair : LadderPair}

/-- The event marks T1 in the ladder only as the row comes to have it: T1 leaves a runner, a late proof is
for the quantity that was banked, and a partial that died unfilled is taken back. -/
def MarksProved (trade : FrozenTrade V) (pair : LadderPair) : LadderEvent → Prop
  | .tick tick =>
    ∀ current, pair.fate trade tick = .banks current →
      trade.fields.BanksPart tick.position.quantity
  | .partialProved orderId filledQuantity =>
    ∀ intent ∈ pair.openIntents, intent.brokerOrderId = orderId →
      intent.requestedQuantity = some filledQuantity
  | .partialFailed orderId rolledBack =>
    ∀ intent ∈ pair.openIntents, intent.brokerOrderId = orderId → rolledBack = true
  | .degraded _ => True

/-- The pairs that a live trade runs through under events in `ok`, with any number of restarts. -/
inductive Run (trade : FrozenTrade V) (ok : LadderPair → LadderEvent → Prop) : LadderPair → Prop
  | seeded (entryPremium : ℚ) (quantity : ℤ) (committedStopPrice : Option ℚ) :
    Run trade ok (seeded trade entryPremium quantity committedStopPrice)
  | step {pair pair' : LadderPair} {event : LadderEvent}
    {answer : Option (Except PyException LadderVerdict)} (run : Run trade ok pair)
    (meets : ok pair event) (moves : pair.step trade event = some (answer, pair')) :
    Run trade ok pair'
  | restart {pair : LadderPair} (run : Run trade ok pair) (settled : pair.openIntents = []) :
    Run trade ok pair.restart

/-- An open partial intent: the ladder has banked what the row does not have yet. -/
structure AwaitsProof (pair : LadderPair) (intent : ExitActionIntent) : Prop where
  alone : pair.openIntents = [intent]
  kind : intent.actionKind = "partial_scale"
  banked : pair.ladder.target1Banked = true
  unproved : pair.durable.target1Banked = false
  requested : intent.requestedQuantity = some pair.ladder.bankedQuantity
  positive : 0 < pair.ladder.bankedQuantity

/-- What the ladder and the durable row keep in step. -/
structure InStep (pair : LadderPair) : Prop where
  peak : pair.ladder.peakPremium = pair.durable.rawPeakPremium
  fresh : pair.ladder.target1Banked = false →
    pair.ladder.stopAtBreakeven = false ∧ pair.ladder.breakevenEmitted = false
  emitted : pair.durable.target1Banked = false → pair.durable.breakevenEmitted = false
  unbanked : pair.durable.target1Banked = false → pair.durable.bankedQuantity = 0
  proved : pair.openIntents = [] →
    pair.ladder.target1Banked = pair.durable.target1Banked ∧
      pair.ladder.bankedQuantity = pair.durable.bankedQuantity
  pending : ∀ intent ∈ pair.openIntents, AwaitsProof pair intent

theorem openIntents_of_hydrates (h : pair.Hydrates trade tick) : pair.openIntents = [] := by
  have hreason := h.2
  by_contra hopen
  unfold hydrationReason at hreason
  simp only [bind, Except.bind, pure, Except.pure, ne_eq, hopen, not_false_eq_true, if_true]
    at hreason
  repeat' split at hreason
  all_goals cases hreason

theorem InStep.recover (h : InStep pair) : InStep pair.recover := by
  unfold LadderPair.recover
  split
  · exact ⟨h.peak, h.fresh, h.emitted, h.unbanked, h.proved, fun intent hintent =>
      let hpending := h.pending intent hintent
      ⟨hpending.alone, hpending.kind, hpending.banked, hpending.unproved, hpending.requested,
        hpending.positive⟩⟩
  · exact h

theorem InStep.markDegraded (h : InStep pair) (reason : String) :
    InStep (pair.markDegraded reason) := by
  unfold LadderPair.markDegraded
  split
  · exact h
  · exact ⟨h.peak, h.fresh, h.emitted, h.unbanked, h.proved, fun intent hintent =>
      let hpending := h.pending intent hintent
      ⟨hpending.alone, hpending.kind, hpending.banked, hpending.unproved, hpending.requested,
        hpending.positive⟩⟩

/-- The rebuilt ladder is in step with its row, whatever was lost. -/
theorem InStep.rebuilt (h : InStep pair) (hopen : pair.openIntents = []) : InStep pair.restart where
  peak := rfl
  fresh := fun hunbanked => ⟨h.emitted hunbanked, h.emitted hunbanked⟩
  emitted := h.emitted
  unbanked := h.unbanked
  proved := fun _ => ⟨rfl, rfl⟩
  pending := fun intent hintent => by
    have hnone : intent ∈ pair.openIntents := hintent
    rw [hopen] at hnone
    cases hnone

/-- Of the open intents only the partial one can be found by its order, and it is then the last. -/
theorem InStep.found (h : InStep pair) {orderId : Option String} {intent : ExitActionIntent}
    (hfind : (pair.openIntents.find? fun item =>
      item.actionKind = "partial_scale" ∧ item.brokerOrderId = orderId) = some intent) :
    intent ∈ pair.openIntents ∧ intent.brokerOrderId = orderId ∧
      (pair.openIntents.filter fun item => item.idempotencyKey ≠ intent.idempotencyKey) = [] := by
  have hmem := List.mem_of_find?_eq_some hfind
  have hmatch := List.find?_some hfind
  simp only [decide_eq_true_eq] at hmatch
  refine ⟨hmem, hmatch.2, ?_⟩
  rw [(h.pending intent hmem).alone]
  simp

/-- A fill proved for the quantity that was banked brings the row up to the ladder. -/
theorem InStep.confirm (h : InStep pair) {orderId : Option String} {quantity : ℤ}
    (hquantity : ∀ intent ∈ pair.openIntents, intent.brokerOrderId = orderId →
      intent.requestedQuantity = some quantity) :
    InStep (pair.confirmPartialActionIntent orderId quantity) := by
  unfold confirmPartialActionIntent
  split
  · exact h
  · next intent hfind =>
    obtain ⟨hmem, horder, hclosed⟩ := h.found hfind
    have hpending := h.pending intent hmem
    have hbanked : quantity = pair.ladder.bankedQuantity := by
      have hrequested := hquantity intent hmem horder
      rw [hpending.requested] at hrequested
      exact (Option.some.inj hrequested).symm
    have hmax : max pair.durable.bankedQuantity quantity = pair.ladder.bankedQuantity := by
      rw [h.unbanked hpending.unproved, hbanked]
      exact max_eq_right hpending.positive.le
    refine ⟨h.peak, h.fresh, (fun hfalse => nomatch hfalse), (fun hfalse => nomatch hfalse), ?_, ?_⟩
    · intro _
      exact ⟨hpending.banked, hmax.symm⟩
    · intro item hitem
      simp only [hclosed] at hitem
      cases hitem

/-- A partial that died unfilled and is taken back leaves the ladder as the row still has it. -/
theorem InStep.fail (h : InStep pair) {orderId : Option String} {rolledBack : Bool}
    (hback : ∀ intent ∈ pair.openIntents, intent.brokerOrderId = orderId → rolledBack = true) :
    InStep (pair.failPartialActionIntent orderId rolledBack) := by
  unfold failPartialActionIntent
  split
  · exact h
  · next intent hfind =>
    obtain ⟨hmem, horder, hclosed⟩ := h.found hfind
    have hunproved := (h.pending intent hmem).unproved
    rw [hback intent hmem horder, hclosed, if_pos rfl]
    refine ⟨h.peak, fun _ => ⟨rfl, rfl⟩, h.emitted, h.unbanked, ?_, ?_⟩
    · intro _
      exact ⟨hunproved.symm, (h.unbanked hunproved).symm⟩
    · intro item hitem
      exact absurd hitem List.not_mem_nil

/-- Banking a part of the position opens an intent for it, or proves it, or takes it back. -/
theorem InStep.handlePartialScale (h : InStep pair) (hopen : pair.openIntents = [])
    {state : ProfileExitState} (hpeak : state.peakPremium = pair.ladder.peakPremium)
    (hbanked : state.target1Banked = true) (hpositive : 0 < state.bankedQuantity)
    (hunbanked : pair.ladder.target1Banked = false) (tick : ManagedTick) :
    InStep (LadderPair.handlePartialScale tick state.bankedQuantity
      { pair with ladder := state }) := by
  have hunproved : pair.durable.target1Banked = false := by rw [← (h.proved hopen).1, hunbanked]
  have hprepared (orderId : Option String) :
      let intent : ExitActionIntent :=
        { partialIntent tick state.bankedQuantity { pair with ladder := state } with
          brokerOrderId := orderId }
      InStep { pair with ladder := state, openIntents := pair.openIntents ++ [intent] } := by
    intro intent
    refine ⟨hpeak.trans h.peak, ?_, h.emitted, h.unbanked, ?_, ?_⟩
    · intro hfalse
      rw [hbanked] at hfalse
      cases hfalse
    · intro hnone
      simp at hnone
    · intro item hitem
      rw [hopen, List.nil_append] at hitem
      obtain rfl : item = intent := List.mem_singleton.mp hitem
      exact ⟨by rw [hopen, List.nil_append], rfl, hbanked, hunproved, rfl, hpositive⟩
  unfold LadderPair.handlePartialScale
  simp only
  cases tick.partialEffect with
  | proved orderId =>
    refine (hprepared orderId).confirm ?_
    intro item hitem _
    simp only [hopen, List.nil_append, List.mem_singleton] at hitem
    rw [hitem, partialIntent]
  | pending orderId => exact hprepared orderId
  | refused =>
    refine ⟨hpeak.trans h.peak, fun _ => ⟨rfl, rfl⟩, h.emitted, h.unbanked, ?_, ?_⟩
    · intro _
      exact ⟨hunproved.symm, (h.unbanked hunproved).symm⟩
    · intro item hitem
      have hnone : item ∈ pair.openIntents := hitem
      rw [hopen] at hnone
      cases hnone

theorem InStep.applyReplacementStop (h : InStep pair) (hopen : pair.openIntents = [])
    (hbanked : pair.ladder.target1Banked = true) (tick : ManagedTick) (newStopPrice : ℚ) :
    InStep (LadderPair.applyReplacementStop tick newStopPrice
      { pair with ladder := { pair.ladder with breakevenEmitted := true } }) := by
  have hproved : pair.durable.target1Banked = true := by rw [← (h.proved hopen).1, hbanked]
  -- T1 is banked in the ladder and in the row, so the flags are free to move
  have hfresh {P : Prop} (hfalse : pair.ladder.target1Banked = false) : P := by
    rw [hbanked] at hfalse
    cases hfalse
  have hnone {intent : ExitActionIntent} {P : Prop} (hintent : intent ∈ pair.openIntents) : P := by
    rw [hopen] at hintent
    cases hintent
  unfold LadderPair.applyReplacementStop
  split
  · exact ⟨h.peak, hfresh, h.emitted, h.unbanked, h.proved, fun _ hintent => hnone hintent⟩
  split
  · refine ⟨h.peak, hfresh, fun hfalse => ?_, h.unbanked, h.proved, fun _ hintent => hnone hintent⟩
    simp only [hproved] at hfalse
    cases hfalse
  · exact ⟨h.peak, hfresh, h.emitted, h.unbanked, h.proved, fun _ hintent => hnone hintent⟩

/-- A higher premium is in the row as soon as it is in the ladder. -/
theorem InStep.persist (h : InStep pair) (hopen : pair.openIntents = []) (current : ℚ)
    (now : String) :
    InStep (persistLivePeakState now
      { pair with
        ladder := { pair.ladder with peakPremium := max pair.ladder.peakPremium current } }) := by
  have hnone {intent : ExitActionIntent} {P : Prop} (hintent : intent ∈ pair.openIntents) : P := by
    rw [hopen] at hintent
    cases hintent
  unfold persistLivePeakState
  split
  · next hle =>
    refine ⟨?_, h.fresh, h.emitted, h.unbanked, h.proved, fun _ hintent => hnone hintent⟩
    rw [← h.peak] at hle ⊢
    exact le_antisymm hle (le_max_left _ _)
  · exact ⟨rfl, h.fresh, h.emitted, h.unbanked, h.proved, fun _ hintent => hnone hintent⟩

theorem InStep.manage (h : InStep pair) (hhydrates : pair.Hydrates trade tick)
    (hmarks : MarksProved trade pair (.tick tick)) : InStep (pair.manage trade tick).2 := by
  have hopen : pair.recover.openIntents = [] := by
    rw [recover_openIntents]
    exact openIntents_of_hydrates hhydrates
  have hrec := h.recover
  cases hfate : pair.fate trade tick with
  | settled result =>
    rw [manage_of_settled hfate h.peak.le]
    exact hrec
  | banks current =>
    have hunbanked : pair.recover.ladder.target1Banked = false := by
      rw [recover_ladder]
      exact unbanked_of_banks hfate
    have hpart : trade.fields.BanksPart (pair.view trade tick).quantity := hmarks current hfate
    obtain ⟨haction, hquantity, hstate⟩ := bankTarget1_of_part hpart current pair.ladder
    have hpositive := (partialQuantity_of_part hpart.1 hpart.2).1
    have hpersisted : persistLivePeakState tick.timestamp
        { pair.recover with
          ladder := (bankTarget1 trade.fields (pair.view trade tick) current pair.ladder).2 } =
        { pair.recover with
          ladder := (bankTarget1 trade.fields (pair.view trade tick) current pair.ladder).2 } := by
      have hle := hrec.peak.le
      rw [recover_ladder] at hle
      rw [hstate]
      exact if_pos hle
    rw [manage_eq, hfate]
    simp only [settle, dispatch, haction, hpersisted]
    rw [hquantity]
    rw [hstate]
    refine hrec.handlePartialScale hopen ?_ rfl hpositive hunbanked tick
    rw [recover_ladder]
  | bottoms current =>
    rw [manage_eq, hfate]
    cases hawaits : pair.ladder.awaitsBreakeven with
    | true =>
      have hpersisted : persistLivePeakState tick.timestamp
          { pair.recover with ladder := { pair.ladder with breakevenEmitted := true } } =
          { pair.recover with ladder := { pair.ladder with breakevenEmitted := true } } := by
        have hle := hrec.peak.le
        rw [recover_ladder] at hle
        exact if_pos hle
      have hbanked : pair.recover.ladder.target1Banked = true := by
        by_contra hunbanked
        have hflag := (hrec.fresh (Bool.eq_false_of_not_eq_true hunbanked)).1
        rw [recover_ladder, (awaitsBreakeven_eq_true.mp hawaits).1] at hflag
        cases hflag
      have hmoved := hrec.applyReplacementStop hopen hbanked tick
        (pair.view trade tick).entryPremium
      rw [recover_ladder] at hmoved
      simp only [bottomRung_of_awaits _ _ _ hawaits, settle, hpersisted]
      exact hmoved
    | false =>
      have hpersisted := hrec.persist hopen current tick.timestamp
      rw [recover_ladder] at hpersisted
      simp only [bottomRung_of_not_awaits _ _ _ hawaits, settle]
      exact hpersisted

theorem InStep.step (h : InStep pair) {event : LadderEvent} {pair' : LadderPair}
    {answer : Option (Except PyException LadderVerdict)} (hmarks : MarksProved trade pair event)
    (hmoves : pair.step trade event = some (answer, pair')) : InStep pair' := by
  cases event with
  | tick tick =>
    by_cases hhydrates : pair.Hydrates trade tick
    · rw [step_tick hhydrates] at hmoves
      obtain ⟨-, rfl⟩ := Prod.mk.inj (Option.some.inj hmoves)
      exact h.manage hhydrates hmarks
    · rw [step_tick_none hhydrates] at hmoves
      cases hmoves
  | partialProved orderId filledQuantity =>
    obtain ⟨-, rfl⟩ := Prod.mk.inj (Option.some.inj hmoves)
    exact h.confirm hmarks
  | partialFailed orderId rolledBack =>
    obtain ⟨-, rfl⟩ := Prod.mk.inj (Option.some.inj hmoves)
    exact h.fail hmarks
  | degraded reason =>
    obtain ⟨-, rfl⟩ := Prod.mk.inj (Option.some.inj hmoves)
    exact h.markDegraded reason

theorem inStep_seeded (trade : FrozenTrade V) (entryPremium : ℚ) (quantity : ℤ)
    (committedStopPrice : Option ℚ) :
    InStep (seeded trade entryPremium quantity committedStopPrice) where
  peak := rfl
  fresh := fun _ => ⟨rfl, rfl⟩
  emitted := fun _ => rfl
  unbanked := fun _ => rfl
  proved := fun _ => ⟨rfl, rfl⟩
  pending := fun _ hintent => nomatch hintent

theorem inStep_of_run (hrun : Run trade (MarksProved trade) pair) : InStep pair := by
  induction hrun with
  | seeded entryPremium quantity committedStopPrice => exact inStep_seeded _ _ _ _
  | step run meets moves ih => exact ih.step meets moves
  | restart run settled ih => exact ih.rebuilt settled

/-- With no intent open, the rebuilt ladder is the lost one up to the breakeven flags. -/
theorem InStep.alike_restart (h : InStep pair) (hopen : pair.openIntents = []) :
    Alike pair pair.restart := by
  obtain ⟨htarget1, hquantity⟩ := h.proved hopen
  refine ⟨rfl, rfl, ⟨h.peak, htarget1, hquantity, fun hunbanked => ?_⟩⟩
  obtain ⟨hstop, hemitted⟩ := h.fresh hunbanked
  rw [htarget1] at hunbanked
  exact ⟨hstop.trans (h.emitted hunbanked).symm, hemitted.trans (h.emitted hunbanked).symm⟩

/-- The durable row has one flag for the two of the ladder, so a rebuilt ladder awaits nothing. -/
theorem restart_awaitsBreakeven (pair : LadderPair) :
    pair.restart.ladder.awaitsBreakeven = false :=
  Bool.and_not_self _

/-- A restart changes no decision that follows exactly when it does not fall between a banked T1 and
the last rung that moves the stop to breakeven. -/
theorem restart_keeps_decisions_iff (trade : FrozenTrade V) {pair : LadderPair}
    (hrun : Run trade (MarksProved trade) pair) (hopen : pair.openIntents = [])
    (events : List LadderEvent) :
    outputs (LadderPair.step trade) pair events =
        outputs (LadderPair.step trade) pair.restart events ↔
      ¬(pair.ladder.awaitsBreakeven = true ∧
        Encounters (LadderPair.step trade) (ReachesLastRung trade) pair events) := by
  have hstep := inStep_of_run hrun
  have halike := hstep.alike_restart hopen
  cases hawaits : pair.ladder.awaitsBreakeven with
  | true =>
    have hbanked : pair.ladder.target1Banked = true := by
      by_contra hunbanked
      have hflag := (hstep.fresh (Bool.eq_false_of_not_eq_true hunbanked)).1
      rw [(awaitsBreakeven_eq_true.mp hawaits).1] at hflag
      cases hflag
    have hlost : LostBreakeven pair pair.restart :=
      ⟨halike, hopen, hbanked, hstep.peak.le, hawaits, restart_awaitsBreakeven pair⟩
    rw [(lockstep_lost trade).outputs_eq_iff hlost]
    simp only [true_and]
  | false =>
    have htwins : Twins pair pair.restart :=
      ⟨halike, hawaits.trans (restart_awaitsBreakeven pair).symm⟩
    have hsame := (lockstep_twins trade).outputs_eq htwins events
    simp only [hsame, Bool.false_eq_true, false_and, not_false_eq_true]

end LadderPair

namespace TwoTargets

/-- A codec under which every policy has the hash `""`. -/
def codec : Codec Unit := ⟨fun _ => .ok "", fun _ => "", id⟩

def trade : FrozenTrade Unit where
  codec := codec
  platform := platform
  fields := fields
  snapshot :=
    { tradeId := "t"
      deploymentId := "d"
      optionSymbol := some "o"
      activePlanId := none
      startupConfigId := none
      policySchemaVersion := "1"
      policyId := "two_targets"
      policyHash := ""
      canonicalPolicy := [] }

/-- A tick at premium 1.50 on `quantity` contracts bought at 1.00; a partial close fills at once. -/
def managedTick (quantity : ℤ) : ManagedTick where
  position :=
    { deploymentId := "d", optionSymbol := some "o", quantity := quantity, entryPrice := some 1 }
  market := { currentPremium := some (3 / 2) }
  now := 0
  intentKey := "k"
  partialEffect := .proved (some "k")
  stopPlaced := true

def seededPair : LadderPair := LadderPair.seeded trade 1 2 (some (1 / 2))

/-- T1 has sold one of the two contracts. -/
def bankedPair : LadderPair := (seededPair.manage trade (managedTick 2)).2

theorem run_bankedPair {ok : LadderPair → LadderEvent → Prop}
    (hok : ok seededPair (.tick (managedTick 2))) : LadderPair.Run trade ok bankedPair := by
  have hhydrates : seededPair.Hydrates trade (managedTick 2) := by decide +kernel
  exact .step (.seeded 1 2 (some (1 / 2))) hok (LadderPair.step_tick hhydrates)

end TwoTargets

open TwoTargets in
theorem restart_keeps_decisions_iff_two_targets :
    outputs (LadderPair.step trade) bankedPair [.tick (managedTick 1)] =
        outputs (LadderPair.step trade) bankedPair.restart [.tick (managedTick 1)] ↔
      ¬(bankedPair.ladder.awaitsBreakeven = true ∧
        Encounters (LadderPair.step trade) (LadderPair.ReachesLastRung trade) bankedPair
          [.tick (managedTick 1)]) :=
  LadderPair.restart_keeps_decisions_iff trade
    (run_bankedPair fun _ _ => ⟨by decide +kernel, by decide⟩) (by decide +kernel) _

open TwoTargets in
/-- T1 is proved, the process restarts, and the breakeven move that the next tick would have made
never comes. -/
theorem restart_loses_breakeven_move :
    ¬∀ (trade : FrozenTrade Unit) (pair : LadderPair),
      LadderPair.Run trade (fun _ _ => True) pair → pair.openIntents = [] →
        ∀ events, outputs (LadderPair.step trade) pair events =
          outputs (LadderPair.step trade) pair.restart events := by
  intro h
  have hsame := h trade bankedPair (run_bankedPair trivial) (by decide +kernel)
    [.tick (managedTick 1)]
  exact absurd hsame (by decide +kernel)

end Bhiksha
