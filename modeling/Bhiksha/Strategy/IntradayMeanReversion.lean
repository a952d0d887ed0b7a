import Bhiksha.MarketData.RthTransforms

/-! The mean-reversion signals over a frame of enriched bars. A truth value that is null is `none`. -/

namespace Bhiksha.Newton

open Library

/-! ### Null-aware expressions -/

def kleeneAnd : Option Bool → Option Bool → Option Bool
  | some false, _ => some false
  | _, some false => some false
  | some true, some true => some true
  | _, _ => none

def kleeneOr : Option Bool → Option Bool → Option Bool
  | some true, _ => some true
  | _, some true => some true
  | some false, some false => some false
  | _, _ => none

/-- `a < b`, null where either is. -/
def lessThan (a b : Option ℚ) : Option Bool := a.bind fun a => b.map fun b => decide (a < b)

/-- `a <= b`, null where either is. -/
def atMost (a b : Option ℚ) : Option Bool := a.bind fun a => b.map fun b => decide (a ≤ b)

/-- `fill_null(False)`. -/
def fillFalse (value : Option Bool) : Option Bool := some (value.getD false)

/-- The parameters, as they are read off the dictionary before the clamps. -/
structure MeanReversionParams where
  entryWindowStart : ClockTime := clockTime 9 30
  entryWindowEnd : ClockTime := clockTime 10 15
  stretchSource : String := "opening_vwap_rth"
  stretchThreshold : ℚ := 2
  zScoreWindow : ℤ := 30
  reversalRangeMinutes : ℤ := 5
  confirmingBars : ℤ := 1
  velocityFilter : String := "no_filter"
  velocityAtrThreshold : ℚ := 1 / 10
  stageFilter : String := "no_filter"
  gapStateFilter : String := "no_filter"
  relativeVolumeThreshold : Option ℚ := none
  useJerkConfirmation : Bool := true
  allowLong : Bool := true
  allowShort : Bool := true

/-- The columns of a date's rows up to the bar, moved down by one row. -/
structure PriorRange where
  reversalHigh : Option ℚ := none
  reversalLow : Option ℚ := none
  prevMaxStretch : Option ℚ := none
  prevMinStretch : Option ℚ := none
  prevMaxVelocity : Option ℚ := none
  prevMinVelocity : Option ℚ := none
deriving DecidableEq, Repr

/-- A row with the context columns of the playbook. -/
structure ContextRow where
  row : FrameRow
  stretchRaw : Option ℚ
  stretchValue : Option ℚ := none
  range : PriorRange := {}
  priorClose : Option ℚ := none
  priorHigh : Option ℚ := none
  priorLow : Option ℚ := none
deriving DecidableEq, Repr

structure SignalRow where
  context : ContextRow
  playbookReversalMidpoint : Option ℚ
  playbookReferencePrice : Option ℚ
  signal : Bool
  signalDirection : Option String
deriving DecidableEq, Repr

namespace MeanReversionParams

variable (params : MeanReversionParams) (platform : FramePlatform)

def zWindow : ℕ := (max 5 params.zScoreWindow).toNat

def reversalRange : ℕ := (max 2 params.reversalRangeMinutes).toNat

/-- `_stretch_raw_expr`. -/
def stretchRaw (row : FrameRow) : Option ℚ :=
  if params.stretchSource = "prior_rth_close_atr" then row.atrDistanceFromPriorRthClose
  else
    (if params.stretchSource = "vpoc_4h" then row.vpoc4h else row.openingVwapRth).bind fun reference =>
      if 0 < reference then some ((row.close - reference) / reference) else none

/-- `_reference_price_expr`. -/
def referencePrice (row : FrameRow) : Option ℚ :=
  if params.stretchSource = "vpoc_4h" then row.vpoc4h
  else if params.stretchSource = "prior_rth_close_atr" then row.priorRthClose
  else row.openingVwapRth

/-- The standard deviation of a sample. -/
def std (values : List ℚ) : ℚ :=
  platform.sqrt ((values.map fun value => (value - mean values) ^ 2).sum / (values.length - 1))

/-- `_stretch_value_expr`, on the rows of one date. -/
def stretchValues (rows : List ContextRow) : List (Option ℚ) :=
  let raws := rows.map ContextRow.stretchRaw
  if params.stretchSource = "prior_rth_close_atr" then raws
  else
    let minSamples := min 5 params.zWindow
    let means := rolling params.zWindow minSamples (fun values => some (mean values)) raws
    let stds := rolling params.zWindow minSamples (fun values => some (std platform values)) raws
    List.zipWith (fun raw (mean, std) =>
        std.bind fun (std : ℚ) => mean.bind fun (mean : ℚ) => raw.bind fun (raw : ℚ) =>
          if 0 < std then some ((raw - mean) / std) else none)
      raws (List.zipWith Prod.mk means stds)

/-- `rolling_max(window, min_samples=window).shift(1)`. -/
def priorMax (column : List (Option ℚ)) : List (Option ℚ) :=
  shiftColumn 1 (rolling params.reversalRange params.reversalRange List.max? column)

def priorMin (column : List (Option ℚ)) : List (Option ℚ) :=
  shiftColumn 1 (rolling params.reversalRange params.reversalRange List.min? column)

/-- The six columns of a date that look back over the reversal range. -/
def priorRanges (rows : List ContextRow) : List PriorRange :=
  let highs := params.priorMax (rows.map fun context => some context.row.high)
  let lows := params.priorMin (rows.map fun context => some context.row.low)
  let stretches := rows.map ContextRow.stretchValue
  let velocities := rows.map fun context => context.row.velocity
  let ranges : List PriorRange :=
    List.zipWith (fun high low => { reversalHigh := high, reversalLow := low }) highs lows
  let stretched : List PriorRange :=
    List.zipWith (fun range (stretch : Option ℚ × Option ℚ) =>
        { range with prevMaxStretch := stretch.1, prevMinStretch := stretch.2 })
      ranges (List.zipWith Prod.mk (params.priorMax stretches) (params.priorMin stretches))
  List.zipWith (fun (range : PriorRange) (velocity : Option ℚ × Option ℚ) =>
      { range with prevMaxVelocity := velocity.1, prevMinVelocity := velocity.2 })
    stretched (List.zipWith Prod.mk (params.priorMax velocities) (params.priorMin velocities))

/-- The close and the reversal range of the date's bar before. -/
def priorBars (rows : List ContextRow) : List (Option ℚ × Option ℚ × Option ℚ) :=
  List.zipWith Prod.mk (shiftColumn 1 (rows.map fun context => some context.row.close))
    (List.zipWith Prod.mk (shiftColumn 1 (rows.map fun context => context.range.reversalHigh))
      (shiftColumn 1 (rows.map fun context => context.range.reversalLow)))

/-- `|velocity| / daily_rth_atr_14 >= threshold`, where a division by zero gives no finite number. -/
def normalizedReaches (threshold : ℚ) (velocity atr : Option ℚ) : Bool :=
  match velocity, atr with
  | some velocity, some atr => atr = 0 ∨ threshold ≤ |velocity| / atr
  | _, _ => threshold ≤ 0

/-- `_velocity_filter_expr`. -/
def velocityFilterExpr (long : Bool) (context : ContextRow) : Option Bool :=
  if params.velocityFilter = "no_filter" then some true
  else
    let velocity := if long then context.range.prevMinVelocity else context.range.prevMaxVelocity
    let aligned := if long then lessThan velocity (some 0) else lessThan (some 0) velocity
    if params.velocityFilter = "aligned" then fillFalse aligned
    else
      let reaches := normalizedReaches |params.velocityAtrThreshold| velocity context.row.dailyRthAtr
      if params.velocityFilter = "climactic" then fillFalse (kleeneAnd aligned (some reaches))
      else fillFalse (kleeneAnd aligned (some (!reaches)))

/-- What a long and a short signal share. -/
def commonExpr (context : ContextRow) : Option Bool :=
  let barTime := platform.newYorkClock context.row.timestamp
  let time := some (decide (params.entryWindowStart ≤ barTime ∧ barTime ≤ params.entryWindowEnd))
  let stage := some (decide (params.stageFilter = "no_filter" ∨
    context.row.marketStage = some params.stageFilter))
  let gap := some (decide (params.gapStateFilter = "no_filter" ∨
    context.row.gapStateRthOpen = some params.gapStateFilter))
  let volume := match params.relativeVolumeThreshold with
    | none => some true
    | some threshold => fillFalse (atMost (some threshold) context.row.relativeVolumeRth)
  kleeneAnd (kleeneAnd (kleeneAnd time stage) gap) volume

def longSignal (context : ContextRow) : Option Bool :=
  let close := some context.row.close
  let breakout := lessThan context.range.reversalHigh close
  let confirmed :=
    if 2 ≤ max 1 params.confirmingBars then
      kleeneAnd breakout (lessThan context.priorHigh context.priorClose)
    else breakout
  let jerk := if params.useJerkConfirmation then lessThan (some 0) context.row.jerk else some true
  [some params.allowLong, params.commonExpr platform context,
    atMost context.range.prevMinStretch (some (-params.stretchThreshold)),
    lessThan context.stretchRaw (some 0), confirmed, params.velocityFilterExpr true context,
    jerk].foldl kleeneAnd (some true)

def shortSignal (context : ContextRow) : Option Bool :=
  let close := some context.row.close
  let breakout := lessThan close context.range.reversalLow
  let confirmed :=
    if 2 ≤ max 1 params.confirmingBars then
      kleeneAnd breakout (lessThan context.priorClose context.priorLow)
    else breakout
  let jerk := if params.useJerkConfirmation then lessThan context.row.jerk (some 0) else some true
  [some params.allowShort, params.commonExpr platform context,
    atMost (some params.stretchThreshold) context.range.prevMaxStretch,
    lessThan (some 0) context.stretchRaw, confirmed, params.velocityFilterExpr false context,
    jerk].foldl kleeneAnd (some true)

def signalRow (context : ContextRow) : SignalRow :=
  let long := params.longSignal platform context
  let short := params.shortSignal platform context
  { context := context
    playbookReversalMidpoint := context.range.reversalHigh.bind fun high =>
      context.range.reversalLow.map fun low => (high + low) / 2
    playbookReferencePrice := params.referencePrice context.row
    signal := (kleeneOr long short).getD false
    signalDirection :=
      if long = some true then some "long" else if short = some true then some "short" else none }

def contextDate (context : ContextRow) : ℤ := context.row.tradeDate platform

/-- `generate_signals` on a frame that has the required columns. -/
def generateSignals (rows : List FrameRow) : List SignalRow :=
  let raw := rows.map fun row => ({ row := row, stretchRaw := params.stretchRaw row } : ContextRow)
  let stretched := withOver (contextDate platform) (params.stretchValues platform)
    (fun context value => { context with stretchValue := value.join }) raw
  let ranged := withOver (contextDate platform) params.priorRanges
    (fun context range => { context with range := range.getD {} }) stretched
  let confirmed := withOver (contextDate platform) priorBars
    (fun context (prior : Option (Option ℚ × Option ℚ × Option ℚ)) =>
      { context with
        priorClose := prior.bind fun bar => bar.1
        priorHigh := prior.bind fun bar => bar.2.1
        priorLow := prior.bind fun bar => bar.2.2 }) ranged
  confirmed.map (params.signalRow platform)

end MeanReversionParams

end Bhiksha.Newton
