import Mathlib.Data.List.Pairwise
import Bhiksha.Library.FirstFiring
import Bhiksha.Ops.ControlObservations
import Bhiksha.Ops.ReplayLaw

/-! The story that the control observations tell against the one of the paired replay: the control
ladder also reads the quotes on which the replay only waits for the fill of its partial. -/

namespace Bhiksha.Lab

open Library

/-- The quote on which an exit is decided, its rule, and whether it leaves a runner. -/
structure Trigger where
  sequence : ℤ
  rule : String
  scales : Bool
deriving DecidableEq, Repr

/-- A full exit. -/
def ControlDecision.closes (control : ControlDecision) : Bool :=
  control.action = ProfileFsmAction.squareOff.text ∨ control.action = ProfileFsmAction.hardFlat.text

/-- The exit that a row records, if it does not hold or move the stop to breakeven and does not come
after the full exit. -/
def ControlDecision.trigger? (sequence : ℤ) (control : ControlDecision) : Option Trigger :=
  if control.action = ProfileFsmAction.partialScale.text then some ⟨sequence, control.rule, true⟩
  else if control.closes then some ⟨sequence, control.rule, false⟩
  else none

def EnvelopeObservation.trigger? (row : EnvelopeObservation) : Option Trigger :=
  row.controlDecision.trigger? row.sequence

def story (rows : List EnvelopeObservation) : List Trigger :=
  rows.filterMap EnvelopeObservation.trigger?

def Leg.trigger (scales : Bool) (leg : Leg) : Trigger := ⟨leg.triggerSequence, leg.rule, scales⟩

def PendingExit.toTrigger (pending : PendingExit) : Trigger :=
  ⟨pending.trigger.sequence, pending.rule, pending.scales⟩

/-- The triggers of the legs, and of the exit that still waits for its fill; of the legs of an outcome
the last one closes the position. -/
def triggersOf : Turn ReplayState PolicyOutcome → List Trigger
  | .goesOn state =>
    state.book.legs.map (Leg.trigger true) ++ state.pending.toList.map PendingExit.toTrigger
  | .returns outcome =>
    outcome.legs.dropLast.map (Leg.trigger true) ++
      outcome.legs.getLast?.toList.map (Leg.trigger false)

/-- `_replay` with the variables of a loop that has run out of quotes. -/
def replayRun (lab : LabPlatform) (policy : ReplayPolicy) (latencyMs maxFreshnessMs : ℚ)
    (case : ExitEdgeCase) : Except PyException (Turn ReplayState PolicyOutcome) :=
  match case.legacyConfig.stopLossPct with
  | none => .error (.keyError "stop_loss_pct")
  | some stopPct =>
    run (replayTurn lab policy latencyMs maxFreshnessMs case stopPct) (.new case) case.quotes

theorem replay_eq_replayRun (lab : LabPlatform) (policy : ReplayPolicy) (latencyMs maxFreshnessMs : ℚ)
    (case : ExitEdgeCase) : replay lab policy latencyMs maxFreshnessMs case =
      (replayRun lab policy latencyMs maxFreshnessMs case).map Turn.result := by
  unfold replay replayRun
  cases case.legacyConfig.stopLossPct with
  | none => rfl
  | some stopPct => exact loop_eq_run

def replayTriggers (lab : LabPlatform) (latencyMs maxFreshnessMs : ℚ) (case : ExitEdgeCase) :
    Except PyException (List Trigger) :=
  (replayRun lab .profile latencyMs maxFreshnessMs case).map triggersOf

/-- The control observations tell the story of a replay that came to this result. -/
structure TellsStory (lab : LabPlatform) (latencyMs maxFreshnessMs : ℚ) (case : ExitEdgeCase)
    (controlArm : EnvelopeArm) (result : Option PolicyOutcome) : Prop where
  triggers : (controlObservations lab case controlArm).map story =
    replayTriggers lab latencyMs maxFreshnessMs case
  last : ∀ outcome ∈ result, ∃ rows row leg, controlObservations lab case controlArm = .ok rows ∧
    (rows.find? fun row => row.controlDecision.closes) = some row ∧ outcome.legs.getLast? = some leg ∧
    row.sequence = leg.triggerSequence ∧ row.controlDecision.rule = leg.rule

/-! ### What the ladder hears on a stretch of the tape -/

/-- The ladder of a case at a peak, before and after its part is banked. -/
def ladderAt (case : ExitEdgeCase) (banked : Bool) (peak : ℚ) : ProfileExitState :=
  { ProfileExitState.new case.entryPremium (some case.quantity) with
    peakPremium := peak
    target1Banked := banked
    bankedQuantity :=
      if banked then partialQuantity case.quantity case.profile.target1Quantity else 0 }

/-- An exit of the ladder, and whether it leaves a runner. -/
structure TapeExit where
  rule : ProfileLadderRule
  scales : Bool
deriving DecidableEq, Repr

def ProfileExitDecision.tapeExit? (decision : ProfileExitDecision) : Option TapeExit :=
  if decision.exit then some ⟨decision.rule, decision.fsmAction = .partialScale⟩ else none

/-- The exit that the ladder decides on a quote. -/
def tapeExit (lab : LabPlatform) (case : ExitEdgeCase) (banked : Bool) (peak : ℚ)
    (quote : QuoteTapeMark) : Except PyException (Option TapeExit) := do
  let bid ← floatBid quote
  let (decision, _) ← evaluateQuote lab case case.profile quote bid (ladderAt case banked peak)
  return ProfileExitDecision.tapeExit? decision

/-- The highest of a peak and the bids of some quotes. -/
def peakOver (peak : ℚ) (quotes : List QuoteTapeMark) : ℚ :=
  quotes.foldl (fun peak quote => max peak (quote.bid.getD peak)) peak

/-- The quotes whose bid the peak records: where the stop moves to breakeven, the first quote after the
partial only moves it. -/
def recorded (case : ExitEdgeCase) (banked : Bool) (quotes : List QuoteTapeMark) :
    List QuoteTapeMark :=
  if banked && case.profile.breakevenAfterT1 then quotes.tail else quotes

/-- The ladder decides an exit on none of these quotes. -/
def HoldsThrough (lab : LabPlatform) (case : ExitEdgeCase) (banked : Bool) (peak : ℚ)
    (quotes : List QuoteTapeMark) : Prop :=
  ∀ before quote after, quotes = before ++ quote :: after →
    tapeExit lab case banked (peakOver peak (recorded case banked before)) quote = .ok none

/-- The quotes up to the fill of an exit, and those after it. -/
def splitAtFill (latencyMs : ℚ) (trigger : QuoteTapeMark) :
    List QuoteTapeMark → List QuoteTapeMark × List QuoteTapeMark
  | [] => ([], [])
  | quote :: rest =>
    if latencyMs ≤ (quote.receivedAt - trigger.receivedAt) * 1000 then ([quote], rest)
    else
      let (consumed, later) := splitAtFill latencyMs trigger rest
      (quote :: consumed, later)

/-- The quotes that the fill of a partial consumes would decide nothing: the runner's ladder holds on
each of them, and their bids, once in its peak, do not change what it decides on any later quote up to
the first on which it exits. -/
def ConsumedQuotesDecideNothing (lab : LabPlatform) (latencyMs : ℚ) (case : ExitEdgeCase) : Prop :=
  ∀ before trigger rest rule, case.quotes = before ++ trigger :: rest →
    HoldsThrough lab case false case.entryPremium before →
    let peak := peakOver case.entryPremium before
    tapeExit lab case false peak trigger = .ok (some ⟨rule, true⟩) →
    let (consumed, later) := splitAtFill latencyMs trigger rest
    HoldsThrough lab case true peak consumed ∧
      ∀ earlier quote after, later = earlier ++ quote :: after →
        HoldsThrough lab case true peak earlier →
        tapeExit lab case true (peakOver peak (recorded case true (consumed ++ earlier))) quote =
          tapeExit lab case true (peakOver peak (recorded case true earlier)) quote

/-! ### The ladder as a watcher of the tape -/

section Watching

variable {lab : LabPlatform} {case : ExitEdgeCase} {maxFreshnessMs : ℚ} {state : ProfileExitState}
  {quote : QuoteTapeMark} {quotes : List QuoteTapeMark}

/-- An evaluation that decides no exit moves the stop to breakeven once, else it records the bid. -/
def passQuote (state : ProfileExitState) (quote : QuoteTapeMark) : ProfileExitState :=
  if state.stopAtBreakeven && !state.breakevenEmitted then { state with breakevenEmitted := true }
  else { state with peakPremium := max state.peakPremium (quote.bid.getD state.peakPremium) }

def ladderWatcher (lab : LabPlatform) (case : ExitEdgeCase) :
    Watcher QuoteTapeMark ProfileExitState PyException TapeExit where
  fire quote state := tapeExit lab case state.target1Banked state.peakPremium quote
  pass := passQuote

/-- The ladder after its part is banked at a quote. -/
def bankedAt (case : ExitEdgeCase) (state : ProfileExitState) (quote : QuoteTapeMark) :
    ProfileExitState :=
  { state with
    target1Banked := true
    target1Premium := quote.bid
    bankedQuantity := partialQuantity case.quantity case.profile.target1Quantity
    stopAtBreakeven := state.stopAtBreakeven || case.profile.breakevenAfterT1 }

/-- The ladder has banked nothing, or the part. -/
def BankSound (case : ExitEdgeCase) (state : ProfileExitState) : Prop :=
  state.bankedQuantity =
    if state.target1Banked then partialQuantity case.quantity case.profile.target1Quantity else 0

/-- What the watcher fires on a quote, and what the evaluation of the quote comes to. -/
inductive Heard (case : ExitEdgeCase) (state : ProfileExitState) (quote : QuoteTapeMark) :
    Except PyException (Option TapeExit) →
    Except PyException (ProfileExitDecision × ProfileExitState) → Prop where
  | raises (e : PyException) : Heard case state quote (.error e) (.error e)
  | passes (decision : ProfileExitDecision) (held : decision.exit = false)
    (action : decision.fsmAction = .hold ∨ decision.fsmAction = .stopToBreakeven) :
    Heard case state quote (.ok none) (.ok (decision, passQuote state quote))
  | closes (decision : ProfileExitDecision) (after : ProfileExitState) (exits : decision.exit = true)
    (action : decision.fsmAction = .squareOff ∨ decision.fsmAction = .hardFlat) :
    Heard case state quote (.ok (some ⟨decision.rule, false⟩)) (.ok (decision, after))
  | scales (decision : ProfileExitDecision) (exits : decision.exit = true)
    (action : decision.fsmAction = .partialScale) (unbanked : state.target1Banked = false)
    (sells : 1 ≤ decision.exitQuantity) (leaves : decision.exitQuantity < case.quantity) :
    Heard case state quote (.ok (some ⟨decision.rule, true⟩)) (.ok (decision, bankedAt case state quote))

/-- The exit of an evaluation. -/
def exitOf (evaluated : Except PyException (ProfileExitDecision × ProfileExitState)) :
    Except PyException (Option TapeExit) :=
  evaluated.map fun (decision, _) => ProfileExitDecision.tapeExit? decision

theorem tapeExit_eq {banked : Bool} {peak bid : ℚ} (hbid : quote.bid = some bid) :
    tapeExit lab case banked peak quote =
      exitOf (evaluateQuote lab case case.profile quote bid (ladderAt case banked peak)) := by
  unfold tapeExit floatBid
  rw [hbid]
  rfl

/-- A rung that squares off closes, whatever the state. -/
theorem Heard.of_squaresOff {view : LadderView} {decision : ProfileExitDecision}
    (h : SquaresOff case.profile view decision) (start : ProfileExitState) :
    Heard case state quote (exitOf (.ok (decision, start))) (.ok (decision, state)) := by
  obtain ⟨rule, reason, extra, rfl⟩ := h
  exact .closes _ state rfl (.inl rfl)

theorem Heard.of_bankTarget1 {view : LadderView} {bid : ℚ} (hquantity : 0 < case.quantity)
    (hview : view.quantity = case.quantity) (hbid : quote.bid = some bid)
    (hunbanked : state.target1Banked = false) (start : ProfileExitState) :
    Heard case state quote (exitOf (.ok (bankTarget1 case.profile view bid start)))
      (.ok (bankTarget1 case.profile view bid state)) := by
  unfold bankTarget1
  simp only [hview]
  split
  · exact .closes _ _ rfl (.inl rfl)
  · next hpart =>
    obtain ⟨hless, hfraction⟩ := not_or.mp hpart
    have hafter : bankedAt case state quote =
        { state with
          target1Banked := true
          target1Premium := some bid
          bankedQuantity := partialQuantity case.quantity case.profile.target1Quantity
          stopAtBreakeven := state.stopAtBreakeven || case.profile.breakevenAfterT1 } := by
      rw [bankedAt, hbid]
    rw [← hafter]
    exact .scales _ rfl rfl hunbanked (one_le_partialQuantity hquantity (not_le.mp hfraction))
      (not_le.mp hless)

theorem Heard.of_bottomRung {view : LadderView} {bid : ℚ} (hbid : quote.bid = some bid)
    (start : ProfileExitState) :
    Heard case state quote (exitOf (.ok (bottomRung case.profile view bid start)))
      (.ok (bottomRung case.profile view bid state)) := by
  have hsilent : exitOf (.ok (bottomRung case.profile view bid start)) = .ok none := by
    unfold bottomRung
    split <;> rfl
  have hpass : (bottomRung case.profile view bid state).2 = passQuote state quote := by
    unfold bottomRung passQuote
    rw [hbid]
    split <;> rfl
  have hheld : (bottomRung case.profile view bid state).1.exit = false ∧
      ((bottomRung case.profile view bid state).1.fsmAction = .hold ∨
        (bottomRung case.profile view bid state).1.fsmAction = .stopToBreakeven) := by
    unfold bottomRung
    split
    · exact ⟨rfl, .inr rfl⟩
    · exact ⟨rfl, .inl rfl⟩
  rw [hsilent, ← Prod.mk.eta (p := bottomRung case.profile view bid state), hpass]
  exact .passes _ hheld.1 hheld.2

def quoteMarket (lab : LabPlatform) (case : ExitEdgeCase) (quote : QuoteTapeMark) (bid : ℚ) :
    ProfileMarketView where
  currentPremium := some bid
  barTimeEt := some (lab.newYorkClock (decisionAt case quote))

def quoteView (lab : LabPlatform) (case : ExitEdgeCase) (quote : QuoteTapeMark) (bid : ℚ)
    (state : ProfileExitState) : LadderView :=
  ladderView lab.toPlatform case.profile case.entryPremium case.quantity
    (quoteMarket lab case quote bid) (some case.entryTimestamp) (decisionAt case quote) state

/-- A quote always brings its bar clock and its premium. -/
theorem evaluateQuote_eq (haccepted : case.Accepted maxFreshnessMs) (bid : ℚ) :
    evaluateQuote lab case case.profile quote bid state =
      match eodFlatRung case.profile (quoteView lab case quote bid state)
        (quoteMarket lab case quote bid) with
      | some decision => .ok (decision, state)
      | none =>
        walkLadder case.profile (quoteView lab case quote bid state) lab.toPlatform bid state := by
  have hposition : ¬(case.entryPremium ≤ 0 ∨ case.quantity ≤ 0) :=
    not_or.mpr ⟨haccepted.entryPremium.not_ge, haccepted.quantity.not_ge⟩
  have hrisk : ¬(quoteView lab case quote bid state).risk ≤ 0 :=
    (mul_pos case.profile.stopPct_pos haccepted.entryPremium).not_ge
  have hclock : ¬ barClockMissing case.profile (quoteMarket lab case quote bid) true := by
    simp [barClockMissing, quoteMarket]
  unfold evaluateQuote evaluateProfileExit
  rw [if_neg hposition]
  exact (if_neg hrisk).trans (if_neg hclock)

/-- The rungs see of a state no more than what it has banked and its peak. -/
theorem quoteView_ladderAt (hstate : BankSound case state) (bid : ℚ) :
    quoteView lab case quote bid (ladderAt case state.target1Banked state.peakPremium) =
      quoteView lab case quote bid state := by
  unfold quoteView ladderView remainingQuantity
  rw [hstate]
  rfl

/-- The watcher hears of a quote what its evaluation decides. -/
theorem heard_evaluateQuote (lab : LabPlatform) (haccepted : case.Accepted maxFreshnessMs) {bid : ℚ}
    (hbid : quote.bid = some bid) (hstate : BankSound case state) :
    Heard case state quote ((ladderWatcher lab case).fire quote state)
      (evaluateQuote lab case case.profile quote bid state) := by
  show Heard case state quote (tapeExit lab case state.target1Banked state.peakPremium quote) _
  rw [tapeExit_eq hbid, evaluateQuote_eq haccepted, evaluateQuote_eq haccepted,
    quoteView_ladderAt hstate]
  generalize ladderAt case state.target1Banked state.peakPremium = start
  have hquantity : (quoteView lab case quote bid state).quantity = case.quantity := rfl
  have hbanked : (quoteView lab case quote bid state).target1Banked = state.target1Banked := rfl
  generalize quoteView lab case quote bid state = view at hquantity hbanked ⊢
  cases heod : eodFlatRung case.profile view (quoteMarket lab case quote bid) with
  | some decision =>
    obtain ⟨reason, rfl⟩ := eq_hardFlat_of_eodFlatRung heod
    exact .closes _ state rfl (.inr rfl)
  | none =>
    dsimp only
    unfold walkLadder
    cases hstop : stopRungs case.profile view bid with
    | some decision => exact .of_squaresOff (eq_squareOff_of_stopRungs hstop) start
    | none =>
      dsimp only
      cases firedPolicyFloor lab.toPlatform case.profile view.peakR (view.currentR bid) with
      | error e => exact .raises e
      | ok floor =>
        cases floor with
        | some floorR => exact .of_squaresOff ⟨_, _, _, rfl⟩ start
        | none =>
          dsimp only
          by_cases hreached : ReachesTarget1 case.profile view bid
          · rw [if_pos hreached, if_pos hreached]
            have hunbanked := hbanked.symm.trans (unbanked_of_reachesTarget1 hreached)
            exact .of_bankTarget1 haccepted.quantity hquantity hbid hunbanked start
          · rw [if_neg hreached, if_neg hreached]
            cases hrunner : runnerRungs case.profile view bid with
            | some decision => exact .of_squaresOff (eq_squareOff_of_runnerRungs hrunner) start
            | none => exact .of_bottomRung hbid start

/-! ### Runs of the watcher -/

theorem passQuote_bankSound (hstate : BankSound case state) : BankSound case (passQuote state quote) := by
  unfold passQuote
  split
  · exact hstate
  · exact hstate

theorem passQuote_target1Banked : (passQuote state quote).target1Banked = state.target1Banked := by
  unfold passQuote
  split <;> rfl

theorem bankedAt_bankSound : BankSound case (bankedAt case state quote) := rfl

/-- Where no move to breakeven is due, a quiet stretch records every bid. -/
theorem passed_of_settled (hsettled : (state.stopAtBreakeven && !state.breakevenEmitted) = false) :
    (ladderWatcher lab case).passed state quotes =
      { state with peakPremium := peakOver state.peakPremium quotes } := by
  induction quotes generalizing state with
  | nil => rfl
  | cons quote quotes ih =>
    have hpass : passQuote state quote =
        { state with peakPremium := max state.peakPremium (quote.bid.getD state.peakPremium) } := by
      rw [passQuote, hsettled]
      rfl
    show (ladderWatcher lab case).passed (passQuote state quote) quotes = _
    rw [hpass]
    refine (ih ?_).trans rfl
    exact hsettled

/-- Where the move is due, the first quote of a quiet stretch makes it and is not recorded. -/
theorem passed_of_due (lab : LabPlatform) (case : ExitEdgeCase) (quotes : List QuoteTapeMark)
    (hdue : (state.stopAtBreakeven && !state.breakevenEmitted) = true) :
    ((ladderWatcher lab case).passed state quotes).peakPremium =
        peakOver state.peakPremium quotes.tail ∧
      ((ladderWatcher lab case).passed state quotes).target1Banked = state.target1Banked := by
  cases quotes with
  | nil => exact ⟨rfl, rfl⟩
  | cons quote quotes =>
    have hpass : passQuote state quote = { state with breakevenEmitted := true } := by
      rw [passQuote, hdue]
      rfl
    show ((ladderWatcher lab case).passed (passQuote state quote) quotes).peakPremium = _ ∧
      ((ladderWatcher lab case).passed (passQuote state quote) quotes).target1Banked = _
    rw [hpass, passed_of_settled (by simp)]
    exact ⟨rfl, rfl⟩

/-- The state is that of a run in which the ladder has decided nothing but, perhaps, to bank its part
at this peak. -/
structure StartsAt (case : ExitEdgeCase) (banked : Bool) (peak : ℚ) (state : ProfileExitState) :
    Prop where
  target1Banked : state.target1Banked = banked
  peakPremium : state.peakPremium = peak
  due : (state.stopAtBreakeven && !state.breakevenEmitted) = (banked && case.profile.breakevenAfterT1)

theorem startsAt_new : StartsAt case false case.entryPremium
    (ProfileExitState.new case.entryPremium (some case.quantity)) := ⟨rfl, rfl, rfl⟩

theorem StartsAt.passed {banked : Bool} {peak : ℚ} (lab : LabPlatform)
    (h : StartsAt case banked peak state) (quotes : List QuoteTapeMark) :
    ((ladderWatcher lab case).passed state quotes).target1Banked = banked ∧
      ((ladderWatcher lab case).passed state quotes).peakPremium =
        peakOver peak (recorded case banked quotes) := by
  have hdue := h.due
  unfold recorded
  cases hmoves : banked && case.profile.breakevenAfterT1 with
  | true =>
    obtain ⟨hpeak, hbanked⟩ := passed_of_due lab case quotes (hdue.trans hmoves)
    rw [hpeak, hbanked, h.target1Banked, h.peakPremium]
    exact ⟨rfl, rfl⟩
  | false =>
    rw [passed_of_settled (hdue.trans hmoves), ← h.target1Banked, ← h.peakPremium]
    exact ⟨rfl, rfl⟩

theorem StartsAt.fire_passed {banked : Bool} {peak : ℚ} (h : StartsAt case banked peak state) :
    (ladderWatcher lab case).fire quote ((ladderWatcher lab case).passed state quotes) =
      tapeExit lab case banked (peakOver peak (recorded case banked quotes)) quote := by
  obtain ⟨hbanked, hpeak⟩ := h.passed lab quotes
  show tapeExit lab case _ _ quote = _
  rw [hbanked, hpeak]

theorem StartsAt.quiet_iff {banked : Bool} {peak : ℚ} (h : StartsAt case banked peak state) :
    (ladderWatcher lab case).Quiet state quotes ↔ HoldsThrough lab case banked peak quotes := by
  unfold Watcher.Quiet HoldsThrough
  constructor
  · intro hquiet before quote after heq
    exact h.fire_passed.symm.trans (hquiet before quote after heq)
  · intro hholds before quote after heq
    exact h.fire_passed.trans (hholds before quote after heq)

/-- The ladder right after it has banked its part, at the peak before that quote. -/
theorem startsAt_bankedAt : StartsAt case true (peakOver case.entryPremium quotes)
    (bankedAt case ((ladderWatcher lab case).passed
      (ProfileExitState.new case.entryPremium (some case.quantity)) quotes) quote) := by
  rw [passed_of_settled rfl]
  exact ⟨rfl, rfl, by simp [bankedAt, ProfileExitState.new]⟩

end Watching

/-! ### The two stories -/

def triggerOf (sequence : ℤ) (fired : TapeExit) : Trigger :=
  ⟨sequence, fired.rule.text, fired.scales⟩

/-- The trigger that a ladder comes to, if it comes to one. -/
def seenTriggers (seen : Option (ℤ × TapeExit)) : List Trigger :=
  seen.toList.map fun (sequence, fired) => triggerOf sequence fired

/-- The story of a ladder that reads the tape, and after a partial goes on with what is left of it. -/
def toldFrom (lab : LabPlatform) (case : ExitEdgeCase)
    (left : QuoteTapeMark → List QuoteTapeMark → List QuoteTapeMark) (state : ProfileExitState)
    (quotes : List QuoteTapeMark) : Except PyException (List Trigger) :=
  match (ladderWatcher lab case).firstFiring state quotes with
  | .error e => .error e
  | .ok none => .ok []
  | .ok (some first) =>
    if first.fired.scales then
      ((ladderWatcher lab case).firstSeen QuoteTapeMark.sequence
        (bankedAt case first.state first.item) (left first.item first.later)).map
          fun seen => triggerOf first.item.sequence first.fired :: seenTriggers seen
    else .ok [triggerOf first.item.sequence first.fired]

section Stories

variable {lab : LabPlatform} {case : ExitEdgeCase} {maxFreshnessMs : ℚ}

section Told

variable {left : QuoteTapeMark → List QuoteTapeMark → List QuoteTapeMark} {state : ProfileExitState}
  {quote : QuoteTapeMark} {quotes : List QuoteTapeMark}

theorem toldFrom_cons_of_error {e : PyException}
    (h : (ladderWatcher lab case).fire quote state = .error e) :
    toldFrom lab case left state (quote :: quotes) = .error e := by
  rw [toldFrom, Watcher.firstFiring, h]

theorem toldFrom_cons_of_quiet (h : (ladderWatcher lab case).fire quote state = .ok none) :
    toldFrom lab case left state (quote :: quotes) =
      toldFrom lab case left (passQuote state quote) quotes := by
  rw [toldFrom, Watcher.firstFiring, h]
  rfl

theorem toldFrom_cons_of_closes {fired : TapeExit}
    (h : (ladderWatcher lab case).fire quote state = .ok (some fired))
    (haction : fired.scales = false) :
    toldFrom lab case left state (quote :: quotes) = .ok [triggerOf quote.sequence fired] := by
  rw [toldFrom, Watcher.firstFiring, h]
  exact if_neg (by simp [haction])

theorem toldFrom_cons_of_scales {fired : TapeExit}
    (h : (ladderWatcher lab case).fire quote state = .ok (some fired))
    (haction : fired.scales = true) :
    toldFrom lab case left state (quote :: quotes) =
      ((ladderWatcher lab case).firstSeen QuoteTapeMark.sequence (bankedAt case state quote)
        (left quote quotes)).map fun seen => triggerOf quote.sequence fired :: seenTriggers seen := by
  rw [toldFrom, Watcher.firstFiring, h]
  exact if_pos haction

end Told

section Control

variable {controlArm : EnvelopeArm} {experiment : RiskEnvelopeExperiment} {state : ControlState}
  {quote : QuoteTapeMark} {quotes : List QuoteTapeMark} {bid : ℚ}

/-- The story of the control loop from one of its states. -/
def controlStory (lab : LabPlatform) (case : ExitEdgeCase) (controlArm : EnvelopeArm)
    (state : ControlState) (quotes : List QuoteTapeMark) : Except PyException (List Trigger) :=
  (quotes.foldlM (controlTurn lab case controlArm) state).map fun state => story state.observations

theorem currentROf_ok (haccepted : case.Accepted maxFreshnessMs) (bid : ℚ) :
    ∃ currentR, currentROf case bid = .ok currentR := by
  have hrisk : case.profile.stopPct * case.entryPremium ≠ 0 :=
    (mul_pos case.profile.stopPct_pos haccepted.entryPremium).ne'
  exact ⟨_, if_neg hrisk⟩

/-- A turn of the control loop adds one row, with the decision of its quote. -/
theorem controlTurn_eq (controlArm : EnvelopeArm) (haccepted : case.Accepted maxFreshnessMs)
    (hexperiment : case.experiment.riskEnvelope = some experiment) (hbid : quote.bid = some bid)
    {control : ControlDecision} {ladder : ProfileExitState} {terminal : Bool}
    (hdecide : controlDecide lab case quote bid state = .ok (control, ladder, terminal)) :
    ∃ next, controlTurn lab case controlArm state quote = .ok next ∧ next.ladder = ladder ∧
      next.terminal = terminal ∧ story next.observations =
        story state.observations ++ (control.trigger? quote.sequence).toList := by
  obtain ⟨currentR, hcurrent⟩ := currentROf_ok haccepted bid
  unfold controlTurn floatBid riskEnvelope
  simp only [hbid, hexperiment]
  show ∃ next, (currentROf case bid >>= _) = _ ∧ _
  rw [hcurrent]
  show ∃ next, (controlDecide lab case quote bid state >>= _) = _ ∧ _
  rw [hdecide]
  refine ⟨_, rfl, rfl, rfl, ?_⟩
  unfold story
  rw [List.filterMap_append]
  congr 1

theorem controlTurn_eq_error (haccepted : case.Accepted maxFreshnessMs) (hbid : quote.bid = some bid)
    {e : PyException} (hdecide : controlDecide lab case quote bid state = .error e) :
    controlTurn lab case controlArm state quote = .error e := by
  obtain ⟨currentR, hcurrent⟩ := currentROf_ok haccepted bid
  unfold controlTurn floatBid
  simp only [hbid]
  show (currentROf case bid >>= _) = _
  rw [hcurrent]
  show (controlDecide lab case quote bid state >>= _) = _
  rw [hdecide]
  rfl

theorem controlStory_cons {next : ControlState}
    (h : controlTurn lab case controlArm state quote = .ok next) :
    controlStory lab case controlArm state (quote :: quotes) =
      controlStory lab case controlArm next quotes := by
  rw [controlStory, List.foldlM_cons, h]
  rfl

theorem controlStory_cons_error {e : PyException}
    (h : controlTurn lab case controlArm state quote = .error e) :
    controlStory lab case controlArm state (quote :: quotes) = .error e := by
  rw [controlStory, List.foldlM_cons, h]
  rfl

theorem trigger?_of_held {decision : ProfileExitDecision} (sequence : ℤ)
    (h : decision.fsmAction = .hold ∨ decision.fsmAction = .stopToBreakeven) :
    (ControlDecision.mk decision.rule.text decision.fsmAction.text).trigger? sequence = none := by
  rcases h with h | h
  · rw [h]
    rfl
  · rw [h]
    rfl

theorem trigger?_of_closes {decision : ProfileExitDecision} (sequence : ℤ)
    (h : decision.fsmAction = .squareOff ∨ decision.fsmAction = .hardFlat) :
    (ControlDecision.mk decision.rule.text decision.fsmAction.text).trigger? sequence =
      some (triggerOf sequence ⟨decision.rule, false⟩) := by
  rcases h with h | h
  · rw [h]
    rfl
  · rw [h]
    rfl

theorem trigger?_of_scales {decision : ProfileExitDecision} (sequence : ℤ)
    (h : decision.fsmAction = .partialScale) :
    (ControlDecision.mk decision.rule.text decision.fsmAction.text).trigger? sequence =
      some (triggerOf sequence ⟨decision.rule, true⟩) := by
  rw [h]
  rfl

/-- After its full exit the control arm tells nothing more. -/
theorem controlStory_of_terminal (haccepted : case.Accepted maxFreshnessMs)
    (hexperiment : case.experiment.riskEnvelope = some experiment)
    (hsound : ∀ quote ∈ quotes, quote.Sound maxFreshnessMs) (hterminal : state.terminal = true) :
    controlStory lab case controlArm state quotes = .ok (story state.observations) := by
  induction quotes generalizing state with
  | nil => rfl
  | cons quote quotes ih =>
    obtain ⟨hquote, hrest⟩ := List.forall_mem_cons.mp hsound
    obtain ⟨bid, hbid, -⟩ := hquote.bid
    have hdecide : controlDecide lab case quote bid state =
        .ok (⟨"terminal", "terminal"⟩, state.ladder, true) := by
      rw [controlDecide, if_pos hterminal]
      rfl
    obtain ⟨next, hturn, -, hnext, hstory⟩ :=
      controlTurn_eq controlArm haccepted hexperiment hbid hdecide
    rw [controlStory_cons hturn, ih hrest hnext, hstory]
    exact congrArg Except.ok (List.append_nil _)

/-- What the control arm decides on a quote before its full exit. -/
theorem controlDecide_eq {decision : ProfileExitDecision} {after : ProfileExitState}
    (hterminal : state.terminal = false)
    (h : evaluateQuote lab case case.profile quote bid state.ladder = .ok (decision, after)) :
    controlDecide lab case quote bid state =
      .ok (⟨decision.rule.text, decision.fsmAction.text⟩, after,
        decision.exit ∧ decision.fsmAction ∈ [.squareOff, .hardFlat]) := by
  rw [controlDecide, if_neg (by simp [hterminal]), h]
  rfl

/-- One quote of the control arm before its full exit, by what the ladder's watcher hears on it. -/
theorem controlTurn_heard (controlArm : EnvelopeArm) (haccepted : case.Accepted maxFreshnessMs)
    (hexperiment : case.experiment.riskEnvelope = some experiment) (hbid : quote.bid = some bid)
    (hterminal : state.terminal = false) (hbank : BankSound case state.ladder) :
    (∃ e, (ladderWatcher lab case).fire quote state.ladder = .error e ∧
      controlTurn lab case controlArm state quote = .error e) ∨
    (∃ next, (ladderWatcher lab case).fire quote state.ladder = .ok none ∧
      controlTurn lab case controlArm state quote = .ok next ∧
      next.ladder = passQuote state.ladder quote ∧ next.terminal = false ∧
      story next.observations = story state.observations) ∨
    ∃ fired next, (ladderWatcher lab case).fire quote state.ladder = .ok (some fired) ∧
      controlTurn lab case controlArm state quote = .ok next ∧
      story next.observations = story state.observations ++ [triggerOf quote.sequence fired] ∧
      (fired.scales = false ∧ next.terminal = true ∨
        fired.scales = true ∧ next.terminal = false ∧ state.ladder.target1Banked = false ∧
          next.ladder = bankedAt case state.ladder quote) := by
  have hheard := heard_evaluateQuote lab haccepted hbid hbank
  generalize hfire : (ladderWatcher lab case).fire quote state.ladder = fired at hheard
  generalize heval : evaluateQuote lab case case.profile quote bid state.ladder = evaluated at hheard
  cases hheard with
  | raises e =>
    have hdecide : controlDecide lab case quote bid state = .error e := by
      rw [controlDecide, if_neg (by simp [hterminal]), heval]
      rfl
    exact .inl ⟨e, rfl, controlTurn_eq_error haccepted hbid hdecide⟩
  | passes decision held action =>
    obtain ⟨next, hturn, hladder, hnext, hstory⟩ :=
      controlTurn_eq controlArm haccepted hexperiment hbid
        (controlDecide_eq hterminal heval)
    rw [trigger?_of_held quote.sequence action] at hstory
    refine .inr (.inl ⟨next, rfl, hturn, hladder, ?_, hstory.trans (List.append_nil _)⟩)
    rw [hnext, held]
    simp
  | closes decision after exits action =>
    obtain ⟨next, hturn, hladder, hnext, hstory⟩ :=
      controlTurn_eq controlArm haccepted hexperiment hbid
        (controlDecide_eq hterminal heval)
    rw [trigger?_of_closes quote.sequence action] at hstory
    refine .inr (.inr ⟨_, next, rfl, hturn, hstory, .inl ⟨rfl, ?_⟩⟩)
    rw [hnext, exits]
    rcases action with h | h <;> simp [h]
  | scales decision exits action unbanked =>
    obtain ⟨next, hturn, hladder, hnext, hstory⟩ :=
      controlTurn_eq controlArm haccepted hexperiment hbid
        (controlDecide_eq hterminal heval)
    rw [trigger?_of_scales quote.sequence action] at hstory
    refine .inr (.inr ⟨_, next, rfl, hturn, hstory, .inr ⟨rfl, ?_, unbanked, hladder⟩⟩)
    rw [hnext, action]
    simp

/-- After the partial the control arm comes to at most one more exit. -/
theorem controlStory_of_banked (haccepted : case.Accepted maxFreshnessMs)
    (hexperiment : case.experiment.riskEnvelope = some experiment)
    (hsound : ∀ quote ∈ quotes, quote.Sound maxFreshnessMs) (hterminal : state.terminal = false)
    (hbank : BankSound case state.ladder) (hbanked : state.ladder.target1Banked = true) :
    controlStory lab case controlArm state quotes =
      ((ladderWatcher lab case).firstSeen QuoteTapeMark.sequence state.ladder quotes).map
        fun seen => story state.observations ++ seenTriggers seen := by
  induction quotes generalizing state with
  | nil => exact congrArg Except.ok (List.append_nil _).symm
  | cons quote quotes ih =>
    obtain ⟨hquote, hrest⟩ := List.forall_mem_cons.mp hsound
    obtain ⟨bid, hbid, -⟩ := hquote.bid
    rcases controlTurn_heard controlArm haccepted hexperiment hbid hterminal hbank with
      ⟨e, hfire, hturn⟩ | ⟨next, hfire, hturn, hladder, hnext, hstory⟩ |
        ⟨fired, next, hfire, hturn, hstory, hcloses | ⟨-, -, hunbanked, -⟩⟩
    · rw [controlStory_cons_error hturn, Watcher.firstSeen_cons_of_error hfire]
      rfl
    · have hsoundNext : BankSound case next.ladder := by
        rw [hladder]
        exact passQuote_bankSound hbank
      have hbankedNext : next.ladder.target1Banked = true := by
        rw [hladder, passQuote_target1Banked, hbanked]
      rw [controlStory_cons hturn, ih hrest hnext hsoundNext hbankedNext, hladder, hstory,
        Watcher.firstSeen_cons_of_quiet hfire]
      rfl
    · rw [controlStory_cons hturn, controlStory_of_terminal haccepted hexperiment hrest hcloses.2,
        hstory, Watcher.firstSeen_cons_of_fired hfire]
      rfl
    · exact nomatch hbanked.symm.trans hunbanked

/-- The control arm reads every quote of the tape. -/
theorem controlStory_eq (lab : LabPlatform) (controlArm : EnvelopeArm) (state : ControlState)
    (haccepted : case.Accepted maxFreshnessMs)
    (hexperiment : case.experiment.riskEnvelope = some experiment)
    (hsound : ∀ quote ∈ quotes, quote.Sound maxFreshnessMs) (hterminal : state.terminal = false)
    (hbank : BankSound case state.ladder) :
    controlStory lab case controlArm state quotes =
      (toldFrom lab case (fun _ later => later) state.ladder quotes).map
        (story state.observations ++ ·) := by
  induction quotes generalizing state with
  | nil => exact congrArg Except.ok (List.append_nil _).symm
  | cons quote quotes ih =>
    obtain ⟨hquote, hrest⟩ := List.forall_mem_cons.mp hsound
    obtain ⟨bid, hbid, -⟩ := hquote.bid
    rcases controlTurn_heard controlArm haccepted hexperiment hbid hterminal hbank with
      ⟨e, hfire, hturn⟩ | ⟨next, hfire, hturn, hladder, hnext, hstory⟩ |
        ⟨fired, next, hfire, hturn, hstory, ⟨haction, hnext⟩ | ⟨haction, hnext, -, hladder⟩⟩
    · rw [controlStory_cons_error hturn, toldFrom_cons_of_error hfire]
      rfl
    · have hsoundNext : BankSound case next.ladder := by
        rw [hladder]
        exact passQuote_bankSound hbank
      rw [controlStory_cons hturn, ih _ hrest hnext hsoundNext, hladder, hstory,
        toldFrom_cons_of_quiet hfire]
    · rw [controlStory_cons hturn, controlStory_of_terminal haccepted hexperiment hrest hnext,
        hstory, toldFrom_cons_of_closes hfire haction]
      rfl
    · have hsoundNext : BankSound case next.ladder := by
        rw [hladder]
        exact bankedAt_bankSound
      have hbankedNext : next.ladder.target1Banked = true := by
        rw [hladder]
        rfl
      rw [controlStory_cons hturn,
        controlStory_of_banked haccepted hexperiment hrest hnext hsoundNext hbankedNext, hladder,
        hstory, toldFrom_cons_of_scales hfire haction]
      cases (ladderWatcher lab case).firstSeen QuoteTapeMark.sequence
        (bankedAt case state.ladder quote) quotes with
      | error e => rfl
      | ok seen => exact congrArg Except.ok (List.append_assoc _ _ _)

end Control

section Replay

variable {latencyMs stopPct : ℚ} {state : ReplayState} {pending : PendingExit} {quote : QuoteTapeMark}
  {quotes : List QuoteTapeMark} {bid : ℚ}

/-- The story of the replay's loop from one of its states. -/
def replayStory (lab : LabPlatform) (latencyMs maxFreshnessMs : ℚ) (case : ExitEdgeCase) (stopPct : ℚ)
    (state : ReplayState) (quotes : List QuoteTapeMark) : Except PyException (List Trigger) :=
  (run (replayTurn lab .profile latencyMs maxFreshnessMs case stopPct) state quotes).map triggersOf

theorem replayStory_cons {next : ReplayState}
    (h : replayTurn lab .profile latencyMs maxFreshnessMs case stopPct state quote = .ok (.goesOn next)) :
    replayStory lab latencyMs maxFreshnessMs case stopPct state (quote :: quotes) =
      replayStory lab latencyMs maxFreshnessMs case stopPct next quotes := by
  rw [replayStory, run, h]
  rfl

/-- A turn on a quote that the pending exit waits through. -/
theorem replayTurn_of_waits (hpending : state.pending = some pending)
    (hwaits : fills latencyMs maxFreshnessMs pending quote = false) :
    replayTurn lab .profile latencyMs maxFreshnessMs case stopPct state quote = .ok (.goesOn state) := by
  unfold replayTurn
  rw [hpending]
  show fillTurn lab .profile latencyMs maxFreshnessMs case state pending quote = _
  rw [fillTurn, if_neg (by simp [hwaits])]
  rfl

/-- A turn on the quote that fills the pending exit. -/
theorem replayTurn_of_fills (lab : LabPlatform) (case : ExitEdgeCase) (stopPct : ℚ)
    (hpending : state.pending = some pending) (hbid : quote.bid = some bid)
    (hfills : fills latencyMs maxFreshnessMs pending quote = true) :
    replayTurn lab .profile latencyMs maxFreshnessMs case stopPct state quote =
      .ok (if (fillAt lab case pending quote bid state.book).remaining ≤ 0 ∨ ¬ pending.scales then
        .returns (outcomeOf lab case ReplayPolicy.profile.text pending.rule quote
          (fillAt lab case pending quote bid state.book))
      else .goesOn { state with book := fillAt lab case pending quote bid state.book, pending := none }) := by
  unfold replayTurn
  rw [hpending]
  show fillTurn lab .profile latencyMs maxFreshnessMs case state pending quote = _
  rw [fillTurn, if_pos hfills, floatBid, hbid]
  show (if _ then _ else _) = _
  split
  · rfl
  · rfl

/-- A full exit ends the story, filled or not. -/
theorem replayStory_of_closing (hsound : ∀ quote ∈ quotes, quote.Sound maxFreshnessMs)
    (hpending : state.pending = some pending) (hcloses : pending.scales = false) :
    replayStory lab latencyMs maxFreshnessMs case stopPct state quotes =
      .ok (state.book.legs.map (Leg.trigger true) ++ [pending.toTrigger]) := by
  induction quotes with
  | nil =>
    show Except.ok (_ ++ state.pending.toList.map PendingExit.toTrigger) = _
    rw [hpending]
    rfl
  | cons quote quotes ih =>
    obtain ⟨hquote, hrest⟩ := List.forall_mem_cons.mp hsound
    obtain ⟨bid, hbid, -⟩ := hquote.bid
    cases hfills : fills latencyMs maxFreshnessMs pending quote with
    | false => rw [replayStory_cons (replayTurn_of_waits hpending hfills), ih hrest]
    | true =>
      have hturn := replayTurn_of_fills lab case stopPct hpending hbid
        hfills
      rw [if_pos (.inr (by simp [hcloses]))] at hturn
      rw [replayStory, run, hturn]
      show Except.ok (triggersOf (.returns _)) = _
      simp [triggersOf, outcomeOf, fillAt, Leg.trigger, PendingExit.toTrigger, hcloses]

/-- A turn on a sound quote while no exit is pending. -/
theorem replayTurn_of_decides (lab : LabPlatform) (case : ExitEdgeCase) (latencyMs stopPct : ℚ)
    (hquote : quote.Sound maxFreshnessMs) (hpending : state.pending = none)
    (hbid : quote.bid = some bid) :
    replayTurn lab .profile latencyMs maxFreshnessMs case stopPct state quote =
      (evaluateQuote lab case case.profile quote bid state.ladder).map fun (decision, ladder) =>
        .goesOn
          { state with ladder, pending := pendingOf quote decision state.book.remaining } := by
  unfold replayTurn
  rw [hpending]
  show decideTurn lab .profile maxFreshnessMs case stopPct state quote = _
  rw [decideTurn, if_pos hquote.executable, floatBid, hbid]
  show (evaluateQuote lab case case.profile quote bid state.ladder >>= _) = _
  cases evaluateQuote lab case case.profile quote bid state.ladder with
  | error e => rfl
  | ok evaluated => rfl

/-- One quote on which the replay decides, by what the ladder's watcher hears on it. -/
theorem replayTurn_heard (lab : LabPlatform) (latencyMs stopPct : ℚ)
    (haccepted : case.Accepted maxFreshnessMs) (hquote : quote.Sound maxFreshnessMs)
    (hpending : state.pending = none) (hbank : BankSound case state.ladder) :
    (∃ e, (ladderWatcher lab case).fire quote state.ladder = .error e ∧
      replayTurn lab .profile latencyMs maxFreshnessMs case stopPct state quote = .error e) ∨
    ((ladderWatcher lab case).fire quote state.ladder = .ok none ∧
      replayTurn lab .profile latencyMs maxFreshnessMs case stopPct state quote =
        .ok (.goesOn { state with ladder := passQuote state.ladder quote })) ∨
    ∃ fired next pending, (ladderWatcher lab case).fire quote state.ladder = .ok (some fired) ∧
      replayTurn lab .profile latencyMs maxFreshnessMs case stopPct state quote = .ok (.goesOn next) ∧
      next.book = state.book ∧ next.pending = some pending ∧
      pending.toTrigger = triggerOf quote.sequence fired ∧ pending.trigger = quote ∧
      (fired.scales = false ∧ pending.scales = false ∨
        fired.scales = true ∧ pending.scales = true ∧ state.ladder.target1Banked = false ∧
          1 ≤ pending.quantity ∧ pending.quantity < case.quantity ∧
          next.ladder = bankedAt case state.ladder quote) := by
  obtain ⟨bid, hbid, -⟩ := hquote.bid
  have hheard := heard_evaluateQuote lab haccepted hbid hbank
  have hturn := replayTurn_of_decides lab case latencyMs stopPct hquote hpending hbid
  generalize hfire : (ladderWatcher lab case).fire quote state.ladder = fired at hheard
  generalize heval : evaluateQuote lab case case.profile quote bid state.ladder = evaluated at hheard hturn
  cases hheard with
  | raises e => exact .inl ⟨e, rfl, hturn⟩
  | passes decision held action =>
    refine .inr (.inl ⟨rfl, hturn.trans ?_⟩)
    have hnone : pendingOf quote decision state.book.remaining = none := if_neg (by simp [held])
    have hgoes : ReplayState.mk (passQuote state.ladder quote) state.book
          (pendingOf quote decision state.book.remaining) =
        { state with ladder := passQuote state.ladder quote } := by
      rw [hnone, ← hpending]
    exact congrArg (fun next => Except.ok (Turn.goesOn next)) hgoes
  | closes decision after exits action =>
    have hsome : pendingOf quote decision state.book.remaining = some
        { trigger := quote
          rule := decision.rule.text
          quantity := if decision.exitQuantity = 0 then state.book.remaining else decision.exitQuantity
          scales := decision.fsmAction = .partialScale } := if_pos exits
    have hwhole : decision.fsmAction ≠ .partialScale := by
      rcases action with h | h <;> simp [h]
    have hscales : decide (decision.fsmAction = .partialScale) = false := decide_eq_false hwhole
    refine .inr (.inr ⟨_, _, _, rfl, hturn, rfl, hsome, ?_, rfl, .inl ⟨rfl, hscales⟩⟩)
    simp only [PendingExit.toTrigger, triggerOf, hscales]
  | scales decision exits action unbanked sells leaves =>
    have hsome : pendingOf quote decision state.book.remaining = some
        { trigger := quote
          rule := decision.rule.text
          quantity := if decision.exitQuantity = 0 then state.book.remaining else decision.exitQuantity
          scales := decision.fsmAction = .partialScale } := if_pos exits
    have hnonzero : decision.exitQuantity ≠ 0 := by omega
    have hscales : decide (decision.fsmAction = .partialScale) = true := decide_eq_true action
    refine .inr (.inr ⟨_, _, _, rfl, hturn, rfl, hsome, ?_, rfl,
      .inr ⟨rfl, hscales, unbanked, ?_, ?_, rfl⟩⟩)
    · simp only [PendingExit.toTrigger, triggerOf, hscales]
    · simpa only [if_neg hnonzero] using sells
    · simpa only [if_neg hnonzero] using leaves

/-- After the fill of the partial the replay comes to at most one more exit. -/
theorem replayStory_of_banked (lab : LabPlatform) (latencyMs stopPct : ℚ) (state : ReplayState)
    (haccepted : case.Accepted maxFreshnessMs)
    (hsound : ∀ quote ∈ quotes, quote.Sound maxFreshnessMs) (hpending : state.pending = none)
    (hbank : BankSound case state.ladder) (hbanked : state.ladder.target1Banked = true) :
    replayStory lab latencyMs maxFreshnessMs case stopPct state quotes =
      ((ladderWatcher lab case).firstSeen QuoteTapeMark.sequence state.ladder quotes).map
        fun seen => state.book.legs.map (Leg.trigger true) ++ seenTriggers seen := by
  induction quotes generalizing state with
  | nil =>
    show Except.ok (_ ++ state.pending.toList.map PendingExit.toTrigger) = _
    rw [hpending]
    rfl
  | cons quote quotes ih =>
    obtain ⟨hquote, hrest⟩ := List.forall_mem_cons.mp hsound
    rcases replayTurn_heard lab latencyMs stopPct haccepted hquote hpending hbank with
      ⟨e, hfire, hturn⟩ | ⟨hfire, hturn⟩ |
        ⟨fired, next, pending, hfire, hturn, hbook, hnext, htrigger, -,
          ⟨-, hcloses⟩ | ⟨-, -, hunbanked, -⟩⟩
    · rw [replayStory, run, hturn, Watcher.firstSeen_cons_of_error hfire]
      rfl
    · rw [replayStory_cons hturn, Watcher.firstSeen_cons_of_quiet hfire]
      exact ih _ hrest hpending (passQuote_bankSound hbank) (passQuote_target1Banked.trans hbanked)
    · rw [replayStory_cons hturn, replayStory_of_closing hrest hnext hcloses,
        Watcher.firstSeen_cons_of_fired hfire, hbook, htrigger]
      rfl
    · have hboth := hbanked.symm.trans hunbanked
      cases hboth

/-- While its partial waits for the fill, the replay decides nothing. -/
theorem replayStory_of_scaling (haccepted : case.Accepted maxFreshnessMs)
    (hsound : ∀ quote ∈ quotes, quote.Sound maxFreshnessMs)
    (hlater : ∀ quote ∈ quotes, pending.trigger.sequence < quote.sequence)
    (hpending : state.pending = some pending) (hscales : pending.scales = true)
    (hleaves : pending.quantity < state.book.remaining)
    (hbank : BankSound case state.ladder) (hbanked : state.ladder.target1Banked = true) :
    replayStory lab latencyMs maxFreshnessMs case stopPct state quotes =
      ((ladderWatcher lab case).firstSeen QuoteTapeMark.sequence state.ladder
        (splitAtFill latencyMs pending.trigger quotes).2).map
          fun seen =>
            state.book.legs.map (Leg.trigger true) ++ pending.toTrigger :: seenTriggers seen := by
  induction quotes with
  | nil =>
    show Except.ok (_ ++ state.pending.toList.map PendingExit.toTrigger) = _
    rw [hpending]
    rfl
  | cons quote quotes ih =>
    obtain ⟨hquote, hrest⟩ := List.forall_mem_cons.mp hsound
    obtain ⟨hafter, hlater⟩ := List.forall_mem_cons.mp hlater
    obtain ⟨bid, hbid, -⟩ := hquote.bid
    by_cases helapsed : latencyMs ≤ (quote.receivedAt - pending.trigger.receivedAt) * 1000
    · have hfills : fills latencyMs maxFreshnessMs pending quote = true := by
        simp [fills, hafter, helapsed, hquote.executable]
      have hqty : min pending.quantity state.book.remaining = pending.quantity := min_eq_left hleaves.le
      have hopen : ¬((fillAt lab case pending quote bid state.book).remaining ≤ 0 ∨ ¬ pending.scales) := by
        simp only [fillAt, hqty, hscales, not_true_eq_false, or_false]
        omega
      have hturn := replayTurn_of_fills lab case stopPct hpending hbid
        hfills
      rw [if_neg hopen] at hturn
      have hsplit : (splitAtFill latencyMs pending.trigger (quote :: quotes)).2 = quotes := by
        rw [splitAtFill, if_pos helapsed]
      have hlegs : (fillAt lab case pending quote bid state.book).legs.map (Leg.trigger true) =
          state.book.legs.map (Leg.trigger true) ++ [pending.toTrigger] := by
        simp [fillAt, Leg.trigger, PendingExit.toTrigger, hscales]
      have hlast := replayStory_of_banked lab latencyMs stopPct
        (ReplayState.mk state.ladder (fillAt lab case pending quote bid state.book) none) haccepted
        hrest rfl hbank hbanked
      rw [replayStory_cons hturn, hsplit]
      simp only [hlegs, List.append_assoc, List.singleton_append] at hlast
      exact hlast
    · have hwaits : fills latencyMs maxFreshnessMs pending quote = false := by
        simp [fills, helapsed]
      have hsplit : (splitAtFill latencyMs pending.trigger (quote :: quotes)).2 =
          (splitAtFill latencyMs pending.trigger quotes).2 := by
        rw [splitAtFill, if_neg helapsed]
      rw [replayStory_cons (replayTurn_of_waits hpending hwaits), hsplit, ih hrest hlater]

/-- The replay skips the quotes that the fill of its partial consumes. -/
theorem replayStory_eq (lab : LabPlatform) (latencyMs stopPct : ℚ) (state : ReplayState)
    (haccepted : case.Accepted maxFreshnessMs)
    (hsound : ∀ quote ∈ quotes, quote.Sound maxFreshnessMs)
    (hincreasing : quotes.Pairwise fun before after => before.sequence < after.sequence)
    (hpending : state.pending = none) (hbank : BankSound case state.ladder)
    (hremaining : state.book.remaining = case.quantity) (hlegs : state.book.legs = []) :
    replayStory lab latencyMs maxFreshnessMs case stopPct state quotes =
      toldFrom lab case (fun trigger later => (splitAtFill latencyMs trigger later).2) state.ladder
        quotes := by
  induction quotes generalizing state with
  | nil =>
    show Except.ok (state.book.legs.map _ ++ state.pending.toList.map PendingExit.toTrigger) = _
    rw [hpending, hlegs]
    rfl
  | cons quote quotes ih =>
    obtain ⟨hquote, hrest⟩ := List.forall_mem_cons.mp hsound
    obtain ⟨hlater, hincreasing⟩ := List.pairwise_cons.mp hincreasing
    rcases replayTurn_heard lab latencyMs stopPct haccepted hquote hpending hbank with
      ⟨e, hfire, hturn⟩ | ⟨hfire, hturn⟩ |
        ⟨fired, next, pending, hfire, hturn, hbook, hnext, htrigger, hfrom,
          ⟨haction, hcloses⟩ | ⟨haction, hscales, -, -, hleaves, hladder⟩⟩
    · rw [replayStory, run, hturn, toldFrom_cons_of_error hfire]
      rfl
    · rw [replayStory_cons hturn, toldFrom_cons_of_quiet hfire]
      exact ih _ hrest hincreasing hpending (passQuote_bankSound hbank) hremaining hlegs
    · rw [replayStory_cons hturn, replayStory_of_closing hrest hnext hcloses,
        toldFrom_cons_of_closes hfire haction, hbook, hlegs, htrigger]
      rfl
    · have hafter : ∀ quote ∈ quotes, pending.trigger.sequence < quote.sequence := by
        rw [hfrom]
        exact hlater
      have hsoundNext : BankSound case next.ladder := by
        rw [hladder]
        exact bankedAt_bankSound
      have hbankedNext : next.ladder.target1Banked = true := by
        rw [hladder]
        rfl
      have hleavesNext : pending.quantity < next.book.remaining := by
        rw [hbook, hremaining]
        exact hleaves
      rw [replayStory_cons hturn,
        replayStory_of_scaling haccepted hrest hafter hnext hscales hleavesNext hsoundNext hbankedNext,
        toldFrom_cons_of_scales hfire haction, hbook, hlegs, htrigger, hfrom, hladder]
      rfl

end Replay

/-! ### When the stories agree -/

theorem text_injective : Function.Injective ProfileLadderRule.text := by
  intro a b h
  cases a <;> cases b <;> first | rfl | exact absurd h (by decide)

theorem seenTriggers_injective : Function.Injective seenTriggers := by
  intro a b h
  cases a with
  | none =>
    cases b with
    | none => rfl
    | some seen => cases h
  | some seen =>
    cases b with
    | none => cases h
    | some other =>
      obtain ⟨sequence, rule, scales⟩ := seen
      obtain ⟨sequence', rule', scales'⟩ := other
      obtain ⟨hsequence, hrule, hscales⟩ : sequence = sequence' ∧ rule.text = rule'.text ∧
          scales = scales' := by
        simpa [seenTriggers, triggerOf] using h
      rw [hsequence, text_injective hrule, hscales]

theorem splitAtFill_append (latencyMs : ℚ) (trigger : QuoteTapeMark) (quotes : List QuoteTapeMark) :
    (splitAtFill latencyMs trigger quotes).1 ++ (splitAtFill latencyMs trigger quotes).2 = quotes := by
  induction quotes with
  | nil => rfl
  | cons quote quotes ih =>
    rw [splitAtFill]
    split
    · rfl
    · exact congrArg (quote :: ·) ih

variable {latencyMs : ℚ}

/-- The new ladder of a case. -/
abbrev newLadder (case : ExitEdgeCase) : ProfileExitState :=
  ProfileExitState.new case.entryPremium (some case.quantity)

theorem quiet_newLadder_iff {quotes : List QuoteTapeMark} :
    (ladderWatcher lab case).Quiet (newLadder case) quotes ↔
      HoldsThrough lab case false case.entryPremium quotes := startsAt_new.quiet_iff

/-- The condition asks about the first exit of the tape only, and only if it is a partial. -/
theorem decideNothing_iff_of_firing {first : Firing QuoteTapeMark ProfileExitState TapeExit}
    (hfirst : (ladderWatcher lab case).firstFiring (newLadder case) case.quotes = .ok (some first)) :
    ConsumedQuotesDecideNothing lab latencyMs case ↔ (first.fired.scales = true →
      (ladderWatcher lab case).Quiet (bankedAt case first.state first.item)
          (splitAtFill latencyMs first.item first.later).1 ∧
        ∀ earlier quote after,
          (splitAtFill latencyMs first.item first.later).2 = earlier ++ quote :: after →
          (ladderWatcher lab case).Quiet (bankedAt case first.state first.item) earlier →
          (ladderWatcher lab case).fire quote
              ((ladderWatcher lab case).passed (bankedAt case first.state first.item)
                ((splitAtFill latencyMs first.item first.later).1 ++ earlier)) =
            (ladderWatcher lab case).fire quote
              ((ladderWatcher lab case).passed (bankedAt case first.state first.item) earlier)) := by
  obtain ⟨before, htape, hbefore, hstate, hfire⟩ := Watcher.firstFiring_eq_some_iff.mp hfirst
  have hstart : StartsAt case true (peakOver case.entryPremium before)
      (bankedAt case first.state first.item) := by
    rw [hstate]
    exact startsAt_bankedAt
  have htapeExit : tapeExit lab case false (peakOver case.entryPremium before) first.item =
      .ok (some first.fired) := by
    rw [← hfire, hstate]
    exact startsAt_new.fire_passed.symm
  simp only [hstart.quiet_iff, hstart.fire_passed]
  constructor
  · intro hcondition hscales
    have hrule : first.fired = ⟨first.fired.rule, true⟩ := by rw [← hscales]
    exact hcondition before first.item first.later first.fired.rule htape
      (quiet_newLadder_iff.mp hbefore) (htapeExit.trans (by rw [← hrule]))
  · intro hcondition before' trigger rest rule htape' hholds _ hfires
    -- the tape has one first exit
    have hquiet : (ladderWatcher lab case).Quiet (newLadder case) before' :=
      quiet_newLadder_iff.mpr hholds
    have hagain : (ladderWatcher lab case).firstFiring (newLadder case) case.quotes =
        .ok (some ⟨trigger, ⟨rule, true⟩, (ladderWatcher lab case).passed (newLadder case) before',
          rest⟩) := by
      refine Watcher.firstFiring_eq_some_iff.mpr ⟨before', htape', hquiet, rfl, ?_⟩
      exact startsAt_new.fire_passed.trans hfires
    obtain rfl := Option.some.inj (Except.ok.inj (hfirst.symm.trans hagain))
    have hlength : before = before' := by
      have hsame : before ++ trigger :: rest = before' ++ trigger :: rest := htape.symm.trans htape'
      exact List.append_cancel_right hsame
    subst hlength
    exact hcondition rfl

/-- The two stories agree exactly when the quotes that the fill consumes decide nothing. -/
theorem told_eq_iff (haccepted : case.Accepted maxFreshnessMs) {triggers : List Trigger}
    (htold : toldFrom lab case (fun trigger later => (splitAtFill latencyMs trigger later).2)
      (newLadder case) case.quotes = .ok triggers) :
    toldFrom lab case (fun _ later => later) (newLadder case) case.quotes = .ok triggers ↔
      ConsumedQuotesDecideNothing lab latencyMs case := by
  unfold toldFrom at htold ⊢
  cases hfirst : (ladderWatcher lab case).firstFiring (newLadder case) case.quotes with
  | error e =>
    rw [hfirst] at htold
    cases htold
  | ok found =>
    rw [hfirst] at htold
    cases found with
    | none =>
      refine iff_of_true htold ?_
      intro before trigger rest rule htape hholds
      dsimp only
      intro hfires
      have hsome : (ladderWatcher lab case).firstFiring (newLadder case) case.quotes =
          .ok (some ⟨trigger, ⟨rule, true⟩, (ladderWatcher lab case).passed (newLadder case) before,
            rest⟩) := by
        refine Watcher.firstFiring_eq_some_iff.mpr
          ⟨before, htape, quiet_newLadder_iff.mpr hholds, rfl, ?_⟩
        exact startsAt_new.fire_passed.trans hfires
      exact nomatch hfirst.symm.trans hsome
    | some first =>
      rw [decideNothing_iff_of_firing hfirst]
      dsimp only at htold ⊢
      cases hscales : first.fired.scales with
      | false =>
        rw [hscales] at htold
        exact iff_of_true htold (fun h => nomatch h)
      | true =>
        rw [hscales, if_pos rfl] at htold
        rw [if_pos rfl, forall_prop_of_true rfl]
        obtain ⟨before, htape, -⟩ := Watcher.firstFiring_eq_some_iff.mp hfirst
        have hincreasing := haccepted.increasing
        rw [htape] at hincreasing
        have hlater := (List.pairwise_cons.mp (List.pairwise_append.mp hincreasing).2.1).2
        have hkeys : ((splitAtFill latencyMs first.item first.later).1 ++
            (splitAtFill latencyMs first.item first.later).2).Pairwise
              fun a b => a.sequence ≠ b.sequence := by
          rw [splitAtFill_append]
          exact hlater.imp fun h => h.ne
        obtain ⟨seen, hseen, htriggers⟩ : ∃ seen, (ladderWatcher lab case).firstSeen
            QuoteTapeMark.sequence (bankedAt case first.state first.item)
              (splitAtFill latencyMs first.item first.later).2 = .ok seen ∧
            triggerOf first.item.sequence first.fired :: seenTriggers seen = triggers := by
          cases hseen : (ladderWatcher lab case).firstSeen QuoteTapeMark.sequence
              (bankedAt case first.state first.item)
              (splitAtFill latencyMs first.item first.later).2 with
          | error e =>
            rw [hseen] at htold
            cases htold
          | ok seen =>
            rw [hseen] at htold
            exact ⟨seen, rfl, Except.ok.inj htold⟩
        rw [← Watcher.firstSeen_skip_iff hkeys hseen, splitAtFill_append, ← htriggers]
        cases (ladderWatcher lab case).firstSeen QuoteTapeMark.sequence
            (bankedAt case first.state first.item) first.later with
        | error e => exact iff_of_false (fun h => nomatch h) (fun h => nomatch h)
        | ok heard =>
          constructor
          · intro h
            have hsame := List.tail_eq_of_cons_eq (Except.ok.inj h)
            rw [seenTriggers_injective hsame]
          · intro h
            rw [Except.ok.inj h]
            rfl

/-- The first full exit among the rows is the first one of their story. -/
theorem find?_story (rows : List EnvelopeObservation) :
    (story rows).find? (fun trigger => !trigger.scales) =
      (rows.find? fun row => row.controlDecision.closes).map fun row =>
        ⟨row.sequence, row.controlDecision.rule, false⟩ := by
  induction rows with
  | nil => rfl
  | cons row rows ih =>
    by_cases hpart : row.controlDecision.action = ProfileFsmAction.partialScale.text
    · have htrigger : row.trigger? = some ⟨row.sequence, row.controlDecision.rule, true⟩ :=
        if_pos hpart
      have hopen : row.controlDecision.closes = false := by
        rw [ControlDecision.closes, hpart]
        decide
      rw [story, List.filterMap_cons_some htrigger, List.find?_cons_of_neg (by simp),
        List.find?_cons_of_neg (by simp [hopen])]
      exact ih
    cases hcloses : row.controlDecision.closes with
    | true =>
      have htrigger : row.trigger? = some ⟨row.sequence, row.controlDecision.rule, false⟩ :=
        (if_neg hpart).trans (if_pos hcloses)
      rw [story, List.filterMap_cons_some htrigger, List.find?_cons_of_pos (by simp),
        List.find?_cons_of_pos (by simp [hcloses])]
      rfl
    | false =>
      have htrigger : row.trigger? = none :=
        (if_neg hpart).trans (if_neg (by simp [hcloses]))
      rw [story, List.filterMap_cons_none htrigger, List.find?_cons_of_neg (by simp [hcloses])]
      exact ih

/-- An outcome has a last leg. -/
theorem exists_last_leg (haccepted : case.Accepted maxFreshnessMs) {stopPct : ℚ}
    {outcome : PolicyOutcome}
    (h : loop (replayTurn lab .profile latencyMs maxFreshnessMs case stopPct) (.new case) case.quotes =
      .ok (some outcome)) : ∃ earlier leg, outcome.legs = earlier ++ [leg] := by
  obtain ⟨read, quote, later, state, htape, hreads, hreturns⟩ := loop_eq_some_iff.mp h
  obtain ⟨book, hbook, hempty, rule, rfl⟩ := (replaySound_of_reads haccepted htape hreads).accounts hreturns
  have htotal := hbook.total
  have hquantity := haccepted.quantity
  rcases List.eq_nil_or_concat book.legs with hnil | ⟨earlier, leg, hlegs⟩
  · rw [hnil, hempty] at htotal
    simp at htotal
    omega
  · exact ⟨earlier, leg, hlegs.trans (List.concat_eq_append ..)⟩

/-- The control observations tell the story of the replay exactly when the quotes that the fill of a
partial consumes would decide nothing. -/
theorem control_tells_replay_story_iff (lab : LabPlatform) (case : ExitEdgeCase)
    (controlArm : EnvelopeArm) (latencyMs maxFreshnessMs : ℚ) (maxSequenceGap : ℤ)
    (haccepted : tapeProblem lab case maxFreshnessMs maxSequenceGap = none)
    (hexperiment : ∃ experiment ∈ case.experiment.riskEnvelope, controlArm ∈ experiment.arms)
    (result : Option PolicyOutcome)
    (hreplay : replay lab .profile latencyMs maxFreshnessMs case = .ok result) :
    TellsStory lab latencyMs maxFreshnessMs case controlArm result ↔
      ConsumedQuotesDecideNothing lab latencyMs case := by
  have hcase := accepted_of_tapeProblem haccepted
  obtain ⟨experiment, hexperiment, -⟩ := hexperiment
  unfold replay at hreplay
  cases hstop : case.legacyConfig.stopLossPct with
  | none =>
    rw [hstop] at hreplay
    cases hreplay
  | some stopPct =>
    rw [hstop] at hreplay
    dsimp only at hreplay
    have hbank : BankSound case (newLadder case) := rfl
    have hcontrol : (controlObservations lab case controlArm).map story =
        toldFrom lab case (fun _ later => later) (newLadder case) case.quotes := by
      have hstory := controlStory_eq lab controlArm { ladder := newLadder case } hcase hexperiment
        hcase.sound rfl hbank
      have hloop : (controlObservations lab case controlArm).map story =
          controlStory lab case controlArm { ladder := newLadder case } case.quotes := by
        unfold controlObservations controlStory
        cases case.quotes.foldlM (controlTurn lab case controlArm) { ladder := newLadder case } with
        | error e => rfl
        | ok last => rfl
      rw [hloop, hstory]
      cases toldFrom lab case (fun _ later => later) (newLadder case) case.quotes with
      | error e => rfl
      | ok triggers => rfl
    have htriggers : replayTriggers lab latencyMs maxFreshnessMs case =
        toldFrom lab case (fun trigger later => (splitAtFill latencyMs trigger later).2)
          (newLadder case) case.quotes := by
      have hstory := replayStory_eq lab latencyMs stopPct (.new case) hcase hcase.sound
        hcase.increasing rfl hbank rfl rfl
      refine Eq.trans ?_ hstory
      rw [replayTriggers, replayRun, hstop]
      rfl
    -- the replay has returned, so its loop has come to an end
    obtain ⟨ended, hended, hresult⟩ : ∃ ended, run (replayTurn lab .profile latencyMs maxFreshnessMs
        case stopPct) (.new case) case.quotes = .ok ended ∧ ended.result = result := by
      rw [loop_eq_run] at hreplay
      cases hrun : run (replayTurn lab .profile latencyMs maxFreshnessMs case stopPct) (.new case)
          case.quotes with
      | error e =>
        rw [hrun] at hreplay
        cases hreplay
      | ok ended =>
        rw [hrun] at hreplay
        exact ⟨ended, rfl, Except.ok.inj hreplay⟩
    have htold : replayTriggers lab latencyMs maxFreshnessMs case = .ok (triggersOf ended) := by
      rw [replayTriggers, replayRun, hstop]
      show (run _ _ _).map triggersOf = _
      rw [hended]
      rfl
    rw [← told_eq_iff hcase (htriggers.symm.trans htold), ← hcontrol]
    constructor
    · intro h
      exact h.triggers.trans htold
    · intro h
      refine ⟨h.trans htold.symm, ?_⟩
      intro outcome houtcome
      rw [Option.mem_def] at houtcome
      cases ended with
      | goesOn state => exact nomatch hresult.trans houtcome
      | returns last =>
        obtain rfl : outcome = last := (Option.some.inj (hresult.trans houtcome)).symm
        rw [houtcome] at hreplay
        obtain ⟨earlier, leg, hlegs⟩ := exists_last_leg hcase hreplay
        cases hrows : controlObservations lab case controlArm with
        | error e =>
          rw [hrows] at h
          cases h
        | ok rows =>
          rw [hrows] at h
          have hstory : story rows = earlier.map (Leg.trigger true) ++ [leg.trigger false] := by
            have hrows := Except.ok.inj h
            simpa [triggersOf, hlegs] using hrows
          have hfound := find?_story rows
          have hnone : (earlier.map (Leg.trigger true)).find? (fun trigger => !trigger.scales) = none := by
            simp [Leg.trigger]
          rw [hstory, List.find?_append, hnone, Option.none_or] at hfound
          obtain ⟨row, hrow, hsame⟩ := Option.map_eq_some_iff.mp hfound.symm
          have hleg : outcome.legs.getLast? = some leg := by rw [hlegs, List.getLast?_concat]
          refine ⟨rows, row, leg, rfl, hrow, hleg, ?_, ?_⟩
          · exact congrArg Trigger.sequence hsame
          · exact congrArg Trigger.rule hsame

end Stories

namespace ControlTape

open ThirdsTape

def controlArm : EnvelopeArm where
  candidateId := "control"
  candidatePolicyId := "p"
  candidatePolicyHash := "h"
  canonicalPolicy :=
    { policyId := some "p"
      target1R := some 1
      target2R := some 4
      target1Quantity := some (3 / 10)
      initialStopPct := some (1 / 2)
      eodFlat := false }

theorem half_le_disaster : ∀ initial ∈ some (1 / 2 : ℚ), ∀ disaster ∈ (none : Option ℚ),
    0 < initial → 0 < disaster → initial ≤ disaster := by
  simp

/-- The fields of the control arm. -/
def profile : ProfileExitFields where
  profileId := "p"
  target1R := some 1
  target2R := some 4
  target1Quantity := 3 / 10
  initialStopPct := some (1 / 2)
  eodFlat := false
  policyId := some "p"
  policyFloor := controlArm.canonicalPolicy.policyFloor
  initial_le_disaster := half_le_disaster

def controlEntry (bids : List ℚ) : ExitEdgeCase :=
  { entry bids with
    profile := profile
    experiment :=
      { (entry bids).experiment with
        riskEnvelope := some { experimentId := "e", arms := [controlArm] } } }

theorem fromManagementSpec_controlArm :
    ProfileExitFields.fromManagementSpec lab.floatText controlArm.canonicalPolicy = .ok profile := rfl

/-- The partial of the first quote fills on the second, and nothing else happens. -/
abbrev quietEntry : ExitEdgeCase := controlEntry [2, 2]

end ControlTape

open ThirdsTape ControlTape in
theorem control_tells_replay_story_iff_quiet :
    TellsStory lab 0 0 quietEntry controlArm none ↔
      ConsumedQuotesDecideNothing lab 0 quietEntry :=
  control_tells_replay_story_iff lab quietEntry controlArm 0 0 1 (by decide +kernel)
    ⟨_, rfl, List.mem_singleton_self _⟩ none (by decide +kernel)

open ThirdsTape ControlTape in
/-- The partial fills at the entry premium; there the control arm records the breakeven stop, and the
replay goes on to a later quote. -/
theorem control_records_exit_on_fill_quote :
    ¬∀ (lab : LabPlatform) (case : ExitEdgeCase) (controlArm : EnvelopeArm)
        (latencyMs maxFreshnessMs : ℚ) (maxSequenceGap : ℤ) (result : Option PolicyOutcome),
      tapeProblem lab case maxFreshnessMs maxSequenceGap = none →
      (∃ experiment ∈ case.experiment.riskEnvelope, controlArm ∈ experiment.arms) →
      ProfileExitFields.fromManagementSpec lab.floatText controlArm.canonicalPolicy = .ok case.profile →
      replay lab .profile latencyMs maxFreshnessMs case = .ok result →
        TellsStory lab latencyMs maxFreshnessMs case controlArm result := by
  intro h
  have hstory := (h lab (controlEntry [2, 1, 9 / 10, 9 / 10]) controlArm 0 0 1
    ((replay lab .profile 0 0 (controlEntry [2, 1, 9 / 10, 9 / 10])).toOption.getD none)
    (by decide +kernel) ⟨_, rfl, List.mem_singleton_self _⟩ fromManagementSpec_controlArm
    (by decide +kernel)).triggers
  exact absurd hstory (by decide +kernel)

end Bhiksha.Lab
