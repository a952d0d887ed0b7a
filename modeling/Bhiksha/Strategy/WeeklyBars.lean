import Mathlib.Data.Rat.Floor
import Mathlib.Algebra.Order.Floor.Semiring

/-! Completed bars of the exchange calendar and the close rules that they confirm. Instants are
seconds; a New York date is a day number. -/

namespace Bhiksha.Weekly

/-- The exchange calendar and the New York clock. -/
structure ExchangeCalendar where
  newYorkDate : ℚ → ℤ
  /-- The open and the close of a session, if the date has one. -/
  session : ℤ → Option (ℚ × ℚ)
  nextSession : ℤ → ℤ
  /-- The instant of a wall-clock hour and minute on a date. -/
  newYorkTime : ℤ → ℕ → ℕ → ℚ

inductive Timeframe where
  | daily
  | minutes (width : ℕ)
deriving DecidableEq, Repr

inductive CloseRule where
  | closeAbove
  | closeBelow
deriving DecidableEq, Repr

structure Condition where
  timeframe : Timeframe
  rule : CloseRule
  price : ℚ
  count : ℕ
deriving DecidableEq, Repr

structure MinuteBar where
  timestamp : ℚ
  close : ℚ
deriving DecidableEq, Repr

/-- A completed bar with its closing price, if the closing minute was observed. -/
structure CompletedBar where
  start : ℚ
  finish : ℚ
  price : Option ℚ

/-- The price of a minute: the last row of the frame that gives it one. -/
def minutePrice (frame : List MinuteBar) (t : ℚ) : Option ℚ :=
  (frame.reverse.find? fun row =>
    row.timestamp = t ∧ (row.timestamp / 60).den = 1 ∧ 0 < row.close).map MinuteBar.close

/-- The width of a bar, in seconds. -/
def Timeframe.width (opening closing : ℚ) : Timeframe → ℚ
  | .daily => ⌊(closing - opening) / 60⌋ * 60
  | .minutes width => width * 60

/-- The bars of a session that have ended, up to the first that has not; the last is cut at the close. -/
def sessionBars (opening closing width now : ℚ) : List (ℚ × ℚ) :=
  ((List.range ⌈(closing - opening) / width⌉₊).map fun (k : ℕ) =>
    (opening + k * width, min (opening + (k + 1) * width) closing)).takeWhile
      fun bar => bar.2 ≤ now

/-- The dates from the first one to today. -/
def daysUntil (first today : ℤ) : List ℤ :=
  (List.range (today - first + 1).toNat).map fun (k : ℕ) => first + k

section Bars

variable (calendar : ExchangeCalendar)

/-- The price of a bar is that of its actual closing minute. -/
def completed (frame : List MinuteBar) (condition : Condition) (now boundary : ℚ) :
    List CompletedBar :=
  (daysUntil (calendar.newYorkDate boundary) (calendar.newYorkDate now)).flatMap fun day =>
    match calendar.session day with
    | none => []
    | some (opening, closing) =>
      (sessionBars opening closing (condition.timeframe.width opening closing) now).map fun bar =>
        ⟨bar.1, bar.2, minutePrice frame (bar.2 - 60)⟩

/-- The close rule. -/
def Condition.matches (condition : Condition) (price : ℚ) : Bool :=
  match condition.rule with
  | .closeAbove => condition.price < price
  | .closeBelow => price < condition.price

/-- The proved prefix of a condition's history. -/
structure Checkpoint where
  condition : Option Condition := none
  through : Option ℚ := none
  matchingCount : ℕ := 0
deriving DecidableEq, Repr

/-- What an advance over some bars comes to. -/
structure Coverage where
  checkpoint : Checkpoint
  confirmed : List ℚ
  gap : Option ℚ

/-- The bars in order, up to the first whose closing minute is missing. -/
def coverBars (condition : Condition) (startAt : ℚ) (checkpoint : Checkpoint) (run : ℕ) :
    List CompletedBar → Coverage
  | [] => ⟨checkpoint, [], none⟩
  | bar :: bars =>
    if bar.start < startAt then coverBars condition startAt checkpoint run bars
    else
      match bar.price with
      | none => ⟨checkpoint, [], some bar.start⟩
      | some price =>
        let run := if condition.matches price then run + 1 else 0
        let checkpoint :=
          { checkpoint with
            through := some bar.finish
            matchingCount := min run condition.count }
        let rest := coverBars condition startAt checkpoint run bars
        if condition.count ≤ run then { rest with confirmed := bar.finish :: rest.confirmed }
        else rest

/-- The checkpoint of another condition is dropped; the run of matching closes is kept. -/
def advanceCoverage (frame : List MinuteBar) (condition : Condition) (now boundary : ℚ)
    (checkpoint : Checkpoint) : Coverage :=
  let checkpoint : Checkpoint :=
    if checkpoint.condition = some condition then checkpoint else { condition := some condition }
  let startAt := checkpoint.through.getD boundary
  coverBars condition startAt checkpoint checkpoint.matchingCount
    (completed calendar frame condition now startAt)

end Bars

end Bhiksha.Weekly
