import Bhiksha.Library.EarlyReturn
import Bhiksha.Ops.QuoteTape

/-! The paired replay of one entry: an exit is decided on one quote of the tape and filled at the bid
of a later one. -/

namespace Bhiksha

def ProfileLadderRule.text : ProfileLadderRule → String
  | hold => "hold"
  | initialStop => "initial_stop"
  | disasterStop => "disaster_stop"
  | target1Partial => "target_1_partial"
  | target2Runner => "target_2_runner"
  | highWaterGiveback => "high_water_giveback"
  | policyFloor => "policy_floor"
  | noProgress => "no_progress"
  | maxHold => "max_hold"
  | eodFlat => "eod_flat"

def ProfileFsmAction.text : ProfileFsmAction → String
  | hold => "hold"
  | squareOff => "square_off"
  | partialScale => "partial_scale"
  | stopToBreakeven => "stop_to_breakeven"
  | hardFlat => "hard_flat"

namespace Lab

open Library

structure Leg where
  triggerSequence : ℤ
  fillSequence : ℤ
  fillAt : String
  rule : String
  quantity : ℤ
  fillBid : ℚ
deriving DecidableEq, Repr

structure PolicyOutcome where
  policy : String
  exitTimestamp : String
  exitRule : String
  realizedPnlUsd : ℚ
  timeInTradeSeconds : ℚ
  legs : List Leg
deriving DecidableEq, Repr

/-- A decided exit that waits for its fill; `scales` of a part that leaves a runner. -/
structure PendingExit where
  trigger : QuoteTapeMark
  rule : String
  quantity : ℤ
  scales : Bool
deriving DecidableEq, Repr

/-- What the tape has filled of a position. -/
structure Book where
  remaining : ℤ
  pnl : ℚ := 0
  legs : List Leg := []
deriving DecidableEq, Repr

/-- Is this quote a fill for the pending exit: later, after the latency, and executable? -/
def fills (latencyMs maxFreshnessMs : ℚ) (pending : PendingExit) (quote : QuoteTapeMark) : Bool :=
  pending.trigger.sequence < quote.sequence ∧
    latencyMs ≤ (quote.receivedAt - pending.trigger.receivedAt) * 1000 ∧
    executable quote quote.ageMs maxFreshnessMs

/-- The book after a fill at this bid. -/
def fillAt (lab : LabPlatform) (case : ExitEdgeCase) (pending : PendingExit) (quote : QuoteTapeMark)
    (fill : ℚ) (book : Book) : Book :=
  let qty := min pending.quantity book.remaining
  { remaining := book.remaining - qty
    pnl := book.pnl + (fill - case.entryPremium) * qty * 100
    legs := book.legs ++ [
      { triggerSequence := pending.trigger.sequence
        fillSequence := quote.sequence
        fillAt := lab.isoformat quote.receivedAt
        rule := pending.rule
        quantity := qty
        fillBid := fill }] }

def outcomeOf (lab : LabPlatform) (case : ExitEdgeCase) (policy rule : String)
    (quote : QuoteTapeMark) (book : Book) : PolicyOutcome where
  policy := policy
  exitTimestamp := lab.isoformat quote.receivedAt
  exitRule := rule
  realizedPnlUsd := Python.roundTo 2 book.pnl
  timeInTradeSeconds := Python.roundTo 3 (quote.receivedAt - case.entryTimestamp)
  legs := book.legs

/-- `float(quote.bid)`. -/
def floatBid (quote : QuoteTapeMark) : Except PyException ℚ :=
  match quote.bid with
  | some bid => .ok bid
  | none => .error (.typeError "float() argument must be a string or a real number, not None")

/-- `evaluate_profile_exit` on one quote of the tape. -/
def evaluateQuote (lab : LabPlatform) (case : ExitEdgeCase) (fields : ProfileExitFields)
    (quote : QuoteTapeMark) (bid : ℚ) (state : ProfileExitState) :
    Except PyException (ProfileExitDecision × ProfileExitState) :=
  evaluateProfileExit lab.toPlatform fields case.entryPremium case.quantity
    { currentPremium := some bid, barTimeEt := some (lab.newYorkClock (decisionAt case quote)) }
    (some case.entryTimestamp) (decisionAt case quote) state true

/-- The exit that a decision leaves to be filled. -/
def pendingOf (quote : QuoteTapeMark) (decision : ProfileExitDecision) (remaining : ℤ) :
    Option PendingExit :=
  if decision.exit then
    some
      { trigger := quote
        rule := decision.rule.text
        quantity := if decision.exitQuantity = 0 then remaining else decision.exitQuantity
        scales := decision.fsmAction = .partialScale }
  else none

inductive ReplayPolicy where
  | profile
  | legacy
deriving DecidableEq, Repr

def ReplayPolicy.text : ReplayPolicy → String
  | profile => "profile"
  | legacy => "legacy"

/-- `strftime("%H:%M")`. -/
def clockText (clock : ClockTime) : String :=
  let two (n : ℕ) : String := if n < 10 then s!"0{n}" else s!"{n}"
  two (clock / 3600000000) ++ ":" ++ two (clock / 60000000 % 60)

/-- The rule that the legacy mechanics fire at this bid. -/
def legacyRule (lab : LabPlatform) (case : ExitEdgeCase) (stopPct : ℚ) (quote : QuoteTapeMark)
    (bid : ℚ) : Option String :=
  if bid ≤ case.entryPremium * (1 - stopPct) then some "legacy_option_stop"
  else if ∃ targetPct ∈ case.legacyConfig.profitTargetPct, case.entryPremium * (1 + targetPct) ≤ bid
    then some "legacy_full_target"
  else if case.legacyConfig.hardFlatTimeEt ≤
      clockText (lab.newYorkClock (decisionAt case quote)) then some "legacy_eod_flat"
  else none

/-- The loop's variables. -/
structure ReplayState where
  ladder : ProfileExitState
  book : Book
  pending : Option PendingExit := none
deriving DecidableEq, Repr

section Replay

variable (lab : LabPlatform) (policy : ReplayPolicy) (latencyMs maxFreshnessMs : ℚ)

/-- A quote while an exit is pending: its fill, or nothing. -/
def fillTurn (case : ExitEdgeCase) (state : ReplayState) (pending : PendingExit)
    (quote : QuoteTapeMark) : Except PyException (Turn ReplayState PolicyOutcome) := do
  if fills latencyMs maxFreshnessMs pending quote then
    let fill ← floatBid quote
    let book := fillAt lab case pending quote fill state.book
    if book.remaining ≤ 0 ∨ ¬ pending.scales then
      return .returns (outcomeOf lab case policy.text pending.rule quote book)
    else return .goesOn { state with book, pending := none }
  else return .goesOn state

/-- A quote that the policy decides on. -/
def decideTurn (case : ExitEdgeCase) (stopPct : ℚ) (state : ReplayState) (quote : QuoteTapeMark) :
    Except PyException (Turn ReplayState PolicyOutcome) := do
  if executable quote quote.ageMs maxFreshnessMs then
    let bid ← floatBid quote
    match policy with
    | .profile =>
      let (decision, ladder) ← evaluateQuote lab case case.profile quote bid state.ladder
      return .goesOn { state with ladder, pending := pendingOf quote decision state.book.remaining }
    | .legacy =>
      let pending := (legacyRule lab case stopPct quote bid).map fun rule =>
        ({ trigger := quote, rule, quantity := state.book.remaining, scales := false } : PendingExit)
      return .goesOn { state with pending }
  else return .goesOn state

def replayTurn (case : ExitEdgeCase) (stopPct : ℚ) (state : ReplayState) (quote : QuoteTapeMark) :
    Except PyException (Turn ReplayState PolicyOutcome) :=
  match state.pending with
  | some pending => fillTurn lab policy latencyMs maxFreshnessMs case state pending quote
  | none => decideTurn lab policy maxFreshnessMs case stopPct state quote

def ReplayState.new (case : ExitEdgeCase) : ReplayState where
  ladder := ProfileExitState.new case.entryPremium (some case.quantity)
  book := { remaining := case.quantity }

/-- `_replay`; it reads the legacy stop under both policies. -/
def replay (case : ExitEdgeCase) : Except PyException (Option PolicyOutcome) :=
  match case.legacyConfig.stopLossPct with
  | none => .error (.keyError "stop_loss_pct")
  | some stopPct =>
    loop (replayTurn lab policy latencyMs maxFreshnessMs case stopPct) (.new case) case.quotes

end Replay

end Lab

end Bhiksha
