import Mathlib.Data.List.Dedup
import Bhiksha.Execution.ProfileFields
import Bhiksha.Library.Columns
import Bhiksha.Library.SortedBy

/-! The regular-session columns of a frame of bars. A cell that is null is `none`. -/

namespace Bhiksha.Newton

open Library

/-- What a frame takes from outside: the New York date and clock of an instant, and the square root. -/
structure FramePlatform where
  newYorkDate : ℚ → ℤ
  newYorkClock : ℚ → ClockTime
  sqrt : ℚ → ℚ

/-- A row of the frame: a bar, the columns that other transforms have left, and those of this module. -/
structure FrameRow where
  timestamp : ℚ
  openPrice : ℚ
  high : ℚ
  low : ℚ
  close : ℚ
  volume : ℚ
  velocity : Option ℚ := none
  jerk : Option ℚ := none
  vpoc4h : Option ℚ := none
  marketStage : Option String := none
  openingVwapRth : Option ℚ := none
  priorRthClose : Option ℚ := none
  dailyRthAtr : Option ℚ := none
  atrDistanceFromPriorRthClose : Option ℚ := none
  gapRthAtr : Option ℚ := none
  gapStateRthOpen : Option String := none
  relativeVolumeRth : Option ℚ := none
deriving DecidableEq, Repr

def FrameRow.tradeDate (platform : FramePlatform) (row : FrameRow) : ℤ :=
  platform.newYorkDate row.timestamp

/-- The hours of a transform, `market_open` and `market_close`. -/
structure SessionHours where
  marketOpen : ClockTime := clockTime 9 30
  marketClose : ClockTime := clockTime 16 0

namespace SessionHours

variable (hours : SessionHours) (platform : FramePlatform)

/-- The regular session is open at an instant. -/
def openAt (instant : ℚ) : Bool :=
  hours.marketOpen ≤ platform.newYorkClock instant ∧ platform.newYorkClock instant ≤ hours.marketClose

def isRth (row : FrameRow) : Bool := hours.openAt platform row.timestamp

def isAtOrAfterOpen (row : FrameRow) : Bool :=
  hours.marketOpen ≤ platform.newYorkClock row.timestamp

end SessionHours

def mean (values : List ℚ) : ℚ := values.sum / values.length

/-! ### `OpeningVwapRthTransform` -/

structure OpeningVwapRthTransform where
  hours : SessionHours := {}

def cumSum (xs : List ℚ) : List ℚ := prefixMap List.sum xs

/-- The running turnover and volume of the regular session of one date. -/
def OpeningVwapRthTransform.sums (transform : OpeningVwapRthTransform) (platform : FramePlatform)
    (rows : List FrameRow) : List (ℚ × ℚ) :=
  let isRth := transform.hours.isRth platform
  List.zipWith Prod.mk
    (cumSum (rows.map fun row => if isRth row then row.close * row.volume else 0))
    (cumSum (rows.map fun row => if isRth row then row.volume else 0))

def OpeningVwapRthTransform.apply (transform : OpeningVwapRthTransform) (platform : FramePlatform)
    (rows : List FrameRow) : List FrameRow :=
  withOver (FrameRow.tradeDate platform) (transform.sums platform)
    (fun row sums =>
      { row with
        openingVwapRth := sums.bind fun (pv, volume) =>
          if transform.hours.isRth platform row ∧ 0 < volume then some (pv / volume) else none }) rows

/-! ### `PriorRthCloseAtrTransform` -/

structure PriorRthCloseAtrTransform where
  atrWindow : ℤ := 14
  smallGapAtr : ℚ := 1 / 4
  largeGapAtr : ℚ := 1
  hours : SessionHours := {}

/-- The regular session of one date. -/
structure DailyRth where
  date : ℤ
  openPrice : ℚ
  high : ℚ
  low : ℚ
  close : ℚ
deriving DecidableEq, Repr

/-- The aggregate of a group of bars, unless it is empty. -/
def DailyRth.aggregate (date : ℤ) : List FrameRow → Option DailyRth
  | [] => none
  | first :: rest =>
    some
      { date := date
        openPrice := first.openPrice
        high := rest.foldl (fun high row => max high row.high) first.high
        low := rest.foldl (fun low row => min low row.low) first.low
        close := ((first :: rest).getLastD first).close }

/-- The daily columns that are joined back onto the bars of their date. -/
structure DailyContext where
  date : ℤ
  priorRthClose : Option ℚ
  dailyRthAtr : Option ℚ
  gapRthAtr : Option ℚ
  gapStateRthOpen : Option String
deriving DecidableEq, Repr

namespace PriorRthCloseAtrTransform

variable (transform : PriorRthCloseAtrTransform) (platform : FramePlatform)

/-- `atr_window`, as `__post_init__` leaves it. -/
def window : ℕ := (max 2 transform.atrWindow).toNat

/-- The regular sessions of the frame in the order of their dates. -/
def daily (rows : List FrameRow) : List DailyRth :=
  let rth := rows.filter (transform.hours.isRth platform)
  let dates := (rth.map (FrameRow.tradeDate platform)).reverse.dedup.reverse
  sortedBy DailyRth.date
    (dates.filterMap fun date =>
      DailyRth.aggregate date (ofGroup (FrameRow.tradeDate platform) date rth))

def priorCloses (days : List DailyRth) : List (Option ℚ) :=
  shiftColumn 1 (days.map fun day => some day.close)

def trueRange (day : DailyRth) : Option ℚ → ℚ
  | none => day.high - day.low
  | some prior => max (max (day.high - day.low) |day.high - prior|) |day.low - prior|

def trueRanges (days : List DailyRth) : List ℚ := List.zipWith trueRange days (priorCloses days)

def meanTrueRanges (days : List DailyRth) : List (Option ℚ) :=
  rolling transform.window 1 (fun ranges => some (mean ranges)) ((trueRanges days).map some)

def dailyRthAtrs (days : List DailyRth) : List (Option ℚ) :=
  shiftColumn 1 (transform.meanTrueRanges days)

/-- The distance of a price from the prior close in ATRs. -/
def inAtrs (price : ℚ) (prior atr : Option ℚ) : Option ℚ :=
  prior.bind fun prior => atr.bind fun atr => if 0 < atr then some ((price - prior) / atr) else none

/-- `_gap_state_expr`. -/
def gapState (gap : ℚ) : String :=
  let large := |transform.largeGapAtr|
  let small := |transform.smallGapAtr|
  if large ≤ gap then "gap_up_large"
  else if small ≤ gap then "gap_up_small"
  else if gap ≤ -large then "gap_down_large"
  else if gap ≤ -small then "gap_down_small"
  else "flat"

def context (day : DailyRth) (prior atr : Option ℚ) : DailyContext :=
  let gap := inAtrs day.openPrice prior atr
  { date := day.date
    priorRthClose := prior
    dailyRthAtr := atr
    gapRthAtr := gap
    gapStateRthOpen := gap.map transform.gapState }

def contexts (days : List DailyRth) : List DailyContext :=
  List.zipWith (fun day (prior, atr) => transform.context day prior atr) days
    (List.zipWith Prod.mk (priorCloses days) (transform.dailyRthAtrs days))

/-- The left join on the trade date, and the columns that are read off it. -/
def join (contexts : List DailyContext) (row : FrameRow) : FrameRow :=
  let joined := contexts.find? fun context => context.date = row.tradeDate platform
  let prior := joined.bind DailyContext.priorRthClose
  let atr := joined.bind DailyContext.dailyRthAtr
  let opened := transform.hours.isAtOrAfterOpen platform row
  { row with
    priorRthClose := prior
    dailyRthAtr := atr
    atrDistanceFromPriorRthClose := inAtrs row.close prior atr
    gapRthAtr := if opened then joined.bind DailyContext.gapRthAtr else none
    gapStateRthOpen := if opened then joined.bind DailyContext.gapStateRthOpen else none }

def apply (rows : List FrameRow) : List FrameRow :=
  rows.map (transform.join platform (transform.contexts (transform.daily platform rows)))

end PriorRthCloseAtrTransform

/-! ### `RelativeVolumeRthTransform` -/

structure RelativeVolumeRthTransform where
  period : ℤ
  hours : SessionHours := {}

namespace RelativeVolumeRthTransform

variable (transform : RelativeVolumeRthTransform) (platform : FramePlatform)

def window : ℕ := (max 2 transform.period).toNat

/-- The volume over its rolling mean. -/
def relativeVolumes (rows : List FrameRow) : List (Option ℚ) :=
  List.zipWith (fun row average => average.bind fun (average : ℚ) =>
      if 0 < average then some (row.volume / average) else none) rows
    (rolling transform.window transform.window (fun volumes => some (mean volumes))
      (rows.map fun row => some row.volume))

/-- The column of the regular bars, joined back onto their rows. -/
def apply (rows : List FrameRow) : List FrameRow :=
  withOver (transform.hours.isRth platform) transform.relativeVolumes
    (fun row relative =>
      { row with
        relativeVolumeRth := if transform.hours.isRth platform row then relative.join else none }) rows

end RelativeVolumeRthTransform

end Bhiksha.Newton
