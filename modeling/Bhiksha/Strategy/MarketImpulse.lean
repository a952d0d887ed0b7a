import Bhiksha.MarketData.MarketImpulse

/-! The entry evaluation of the Market Impulse strategy on an enriched frame. -/

namespace Bhiksha

open Python

inductive SignalDirection where
  | long
  | short
deriving DecidableEq, Repr

def SignalDirection.text : SignalDirection → String
  | long => "long"
  | short => "short"

/-- A value in the features of a decision. -/
inductive Feature where
  | number (value : ℚ)
  | count (value : ℕ)
  | text (value : String)
  | missing
deriving DecidableEq, Repr

structure SignalDecision where
  deploymentId : String
  symbol : String
  timestamp : ℚ
  signal : Bool
  direction : Option SignalDirection
  reason : List String
  features : List (String × Feature)
deriving DecidableEq, Repr

namespace MarketImpulse

inductive EntryMode where
  | crossReclaim
  | sameBarShallowReclaim
  | closeLocationReclaim
  | continuationConfirmation
  | delayedReclaim
deriving DecidableEq, Repr

def EntryMode.text : EntryMode → String
  | crossReclaim => "cross_reclaim"
  | sameBarShallowReclaim => "same_bar_shallow_reclaim"
  | closeLocationReclaim => "close_location_reclaim"
  | continuationConfirmation => "continuation_confirmation"
  | delayedReclaim => "delayed_reclaim"

inductive ConfirmationType where
  | breakReclaimHighLow
  | closeBeyondReclaim
  | vmaMargin
deriving DecidableEq, Repr

/-- The parameters of a deployment, with the defaults of the strategy. Polars takes durations in
lower case only, so a timeframe is its own tag. -/
structure EntryParams where
  direction : String := ""
  entryMode : String := ""
  entryBufferMinutes : ℤ := 3
  entryWindowMinutes : ℤ := 60
  marketOpenHour : ℤ := 9
  marketOpenMinute : ℤ := 30
  maxVmaExcursionPct : Option ℚ := none
  minReclaimMarginPct : ℚ := 0
  minCloseLocation : Option ℚ := none
  confirmationWindowBars : ℤ := 2
  confirmationType : String := ""
  confirmationMarginPct : ℚ := 0
  useVolumeFilter : Bool := false
  vmaLength : ℕ := 10
  regimeTimeframe : String := "1h"
deriving DecidableEq, Repr

section Parameters

def entryModeAliases : List (String × EntryMode) :=
  [("market impulse (cross & reclaim)", .crossReclaim),
    ("mi shallow spring", .sameBarShallowReclaim),
    ("mi second touch", .delayedReclaim),
    ("mi high close reclaim", .closeLocationReclaim),
    ("mi push through", .continuationConfirmation)]

def legalEntryModes : List (String × EntryMode) :=
  [EntryMode.crossReclaim, .sameBarShallowReclaim, .closeLocationReclaim,
    .continuationConfirmation, .delayedReclaim].map fun mode => (mode.text, mode)

def normalizeEntryMode (value : String) : Except PyException EntryMode :=
  let text := strip value
  if text.isEmpty then .ok .crossReclaim
  else
    match (entryModeAliases ++ legalEntryModes).lookup text.toLower with
    | some mode => .ok mode
    | none =>
      .error (.valueError ("Unsupported Market Impulse entry_mode: " ++ reprString value))

def normalizeConfirmationType (value : String) : Except PyException ConfirmationType :=
  match strip value with
  | "" => .ok .breakReclaimHighLow
  | "break_reclaim_high_low" => .ok .breakReclaimHighLow
  | "close_beyond_reclaim" => .ok .closeBeyondReclaim
  | "vma_margin" => .ok .vmaMargin
  | _ =>
    .error (.valueError ("Unsupported Market Impulse confirmation_type " ++ reprString value ++
      "; expected one of (" ++ reprString "break_reclaim_high_low" ++ ", " ++
      reprString "close_beyond_reclaim" ++ ", " ++ reprString "vma_margin" ++ ")"))

variable (params : EntryParams)

def vmaCol : String := "vma_" ++ toString params.vmaLength

def regimeCol : String := "impulse_regime_" ++ params.regimeTimeframe

def directionFilter : Option String :=
  let text := (strip params.direction).toLower
  if text.isEmpty then none else some text

/-- `time(minutes // 60, minutes % 60)`, in seconds of the day. -/
def timeOfMinutes (minutes : ℤ) : Except PyException ℚ :=
  if 0 ≤ minutes ∧ minutes < 24 * 60 then .ok (minutes * 60)
  else .error (.valueError "hour must be in 0..23")

structure EntryWindow where
  start : ℚ
  finish : ℚ
deriving DecidableEq, Repr

def entryWindow : Except PyException EntryWindow := do
  let opening := params.marketOpenHour * 60 + params.marketOpenMinute
  let start ← timeOfMinutes (opening + params.entryBufferMinutes)
  let finish ← timeOfMinutes (opening + params.entryWindowMinutes)
  return ⟨start, finish⟩

/-- What an evaluation reads of the parameters before it looks at the rows. -/
inductive EntryPlan where
  | crossReclaim (window : EntryWindow)
  | singleBarReclaim (mode : EntryMode) (window : EntryWindow)
  | continuationConfirmation (window : EntryWindow) (type : ConfirmationType)
deriving DecidableEq, Repr

/-- The checks of the parameters, in the order of `evaluate_entry` and of the mode's own function;
the rows raise nothing. -/
def entryPlan : Except PyException EntryPlan := do
  let mode ← normalizeEntryMode params.entryMode
  match mode with
  | .crossReclaim => return .crossReclaim (← entryWindow params)
  | .delayedReclaim =>
    throw (.valueError ("Market Impulse entry_mode " ++ reprString mode.text ++
      " is research-only and not runtime-implemented"))
  | .sameBarShallowReclaim | .closeLocationReclaim =>
    refuseVolumeFilter
    return .singleBarReclaim mode (← entryWindow params)
  | .continuationConfirmation =>
    refuseVolumeFilter
    let window ← entryWindow params
    return .continuationConfirmation window (← normalizeConfirmationType params.confirmationType)
where
  refuseVolumeFilter : Except PyException Unit :=
    if params.useVolumeFilter then
      throw (.valueError ("Market Impulse descendant volume filter is not runtime-supported: " ++
        "relative_volume features are unavailable in the live loop"))
    else return ()

end Parameters

section Predicates

def EntryWindow.contains (window : EntryWindow) (time : ℚ) : Bool :=
  window.start ≤ time ∧ time ≤ window.finish

def timeReason (timeOk : Bool) : String :=
  if timeOk then "time_window_ok" else "time_window_blocked"

/-- `str` of an entry of the regime column, null before the first bucket. -/
def regimeText (regime : Option Regime) : String := (regime.map Regime.text).getD "None"

def regimeReason (regime : Option Regime) : String :=
  if regime = some .bullish then "regime_bullish"
  else if regime = some .bearish then "regime_bearish"
  else "regime_neutral"

def closeLocation (row : ImpulseRow) : ℚ :=
  if 0 < row.high - row.low then (row.close - row.low) / (row.high - row.low) else 1 / 2

def vmaExcursionPct (row : ImpulseRow) : Option ℚ :=
  if row.vma ≤ 0 then none
  else some (max (max (row.vma - row.low) 0) (max (row.high - row.vma) 0) / row.vma)

def sideExcursion (row : ImpulseRow) : SignalDirection → ℚ
  | .long => max (row.vma - row.low) 0
  | .short => max (row.high - row.vma) 0

def excursionOk (maxPct : Option ℚ) (side : SignalDirection) (row : ImpulseRow) : Bool :=
  match maxPct with
  | none => true
  | some cap => if row.vma ≤ 0 then false else sideExcursion row side / row.vma ≤ cap

def reclaimMarginOk (margin : ℚ) (side : SignalDirection) (row : ImpulseRow) : Bool :=
  match side with
  | .long => row.vma * (1 + margin) < row.close
  | .short => row.close < row.vma * (1 - margin)

def closeLocationOk (minimum : Option ℚ) (side : SignalDirection) (row : ImpulseRow) : Bool :=
  match minimum, side with
  | none, _ => true
  | some least, .long => least ≤ closeLocation row
  | some least, .short => closeLocation row ≤ 1 - least

/-- The row is in the regime of the side. -/
def regimeOf (side : SignalDirection) (row : ImpulseRow) : Bool :=
  match side with
  | .long => row.regime = some .bullish
  | .short => row.regime = some .bearish

/-- The bar pierces the average. -/
def pierces (side : SignalDirection) (row : ImpulseRow) : Bool :=
  match side with
  | .long => row.low ≤ row.vma
  | .short => row.vma ≤ row.high

/-- The bar closes beyond the average. -/
def closesBeyond (side : SignalDirection) (row : ImpulseRow) : Bool :=
  match side with
  | .long => row.vma < row.close
  | .short => row.close < row.vma

def allows (filter : Option String) (side : SignalDirection) : Bool :=
  filter = none ∨ filter = some side.text

def sideReasons (label : String) : SignalDirection → List String
  | .long => ["regime_bullish", label ++ "_long"]
  | .short => ["regime_bearish", label ++ "_short"]

end Predicates

section Evaluation

variable (params : EntryParams) (asEtTime : ℚ → ℚ) (deploymentId : String)

/-- Long is tried before short. -/
def chooseSide (ok : SignalDirection → Bool) : Option SignalDirection :=
  if ok .long ∧ allows (directionFilter params) .long then some .long
  else if ok .short ∧ allows (directionFilter params) .short then some .short
  else none

/-- The decision on the latest row for the side that fires, if one does. -/
def signalDecision (latest : ImpulseRow) (timeOk : Bool) (label : String) (side : Option SignalDirection)
    (waiting : List String) (features : List (String × Feature)) : SignalDecision where
  deploymentId := deploymentId
  symbol := latest.symbol
  timestamp := latest.timestamp
  signal := side.isSome
  direction := side
  reason :=
    timeReason timeOk ::
      match side with
      | some direction => sideReasons label direction
      | none => regimeReason latest.regime :: waiting
  features :=
    [("close", .number latest.close), (vmaCol params, .number latest.vma),
      (regimeCol params, .text (regimeText latest.regime))] ++ features

def evaluateCrossReclaimEntry (window : EntryWindow) (latest : ImpulseRow) : SignalDecision :=
  let timeOk := window.contains (asEtTime latest.timestamp)
  let side := if timeOk then
      chooseSide params fun side =>
        regimeOf side latest && pierces side latest && closesBeyond side latest
    else none
  signalDecision params deploymentId latest timeOk "cross_and_reclaim" side [] []

def evaluateSingleBarReclaimEntry (mode : EntryMode) (window : EntryWindow) (latest : ImpulseRow) :
    SignalDecision :=
  let timeOk := window.contains (asEtTime latest.timestamp)
  let side := chooseSide params fun side =>
    timeOk && regimeOf side latest && pierces side latest && closesBeyond side latest &&
      reclaimMarginOk params.minReclaimMarginPct side latest &&
      excursionOk params.maxVmaExcursionPct side latest &&
      closeLocationOk params.minCloseLocation side latest
  signalDecision params deploymentId latest timeOk mode.text side []
    [("close_location", .number (closeLocation latest)),
      ("vma_excursion_pct", ((vmaExcursionPct latest).map Feature.number).getD .missing)]

/-- A reclaim bar that waits for its confirmation. -/
structure Reclaim where
  index : ℕ
  high : ℚ
  low : ℚ
deriving DecidableEq, Repr

structure Pending where
  long : Option Reclaim
  short : Option Reclaim
deriving DecidableEq, Repr

def Pending.get (pending : Pending) : SignalDirection → Option Reclaim
  | .long => pending.long
  | .short => pending.short

/-- A confirmation, by its side, its reclaim bar and the bars since then. -/
structure Confirmation where
  side : SignalDirection
  reclaim : Reclaim
  age : ℕ
deriving DecidableEq, Repr

def confirmsContinuation (type : ConfirmationType) (side : SignalDirection) (row : ImpulseRow)
    (reclaim : Reclaim) : Bool :=
  match type, side with
  | .breakReclaimHighLow, .long => reclaim.high < row.high
  | .breakReclaimHighLow, .short => row.low < reclaim.low
  | .closeBeyondReclaim, .long => reclaim.high < row.close
  | .closeBeyondReclaim, .short => row.close < reclaim.low
  | .vmaMargin, .long => row.vma * (1 + params.confirmationMarginPct) ≤ row.close
  | .vmaMargin, .short => row.close ≤ row.vma * (1 - params.confirmationMarginPct)

/-- What becomes of the reclaim bar of a side on a row, and the confirmation if there is one. -/
def agePending (window : EntryWindow) (type : ConfirmationType) (index : ℕ) (row : ImpulseRow)
    (side : SignalDirection) (state : Option Reclaim) : Option Reclaim × Option Confirmation :=
  match state with
  | none => (none, none)
  | some reclaim =>
    let age := index - reclaim.index
    if params.confirmationWindowBars < age ∨ regimeOf side row = false then (none, none)
    else if age = 0 then (some reclaim, none)
    else if window.contains (asEtTime row.timestamp) &&
        confirmsContinuation params type side row reclaim then
      (none, some ⟨side, reclaim, age⟩)
    else (some reclaim, none)

def reclaims (side : SignalDirection) (row : ImpulseRow) : Bool :=
  regimeOf side row && excursionOk params.maxVmaExcursionPct side row &&
    reclaimMarginOk params.minReclaimMarginPct side row && pierces side row

/-- One row of the state machine; a confirmation of the short side overwrites one of the long. -/
def continuationRow (window : EntryWindow) (type : ConfirmationType) (index : ℕ) (pending : Pending)
    (row : ImpulseRow) : Pending × Option Confirmation :=
  let long := agePending params asEtTime window type index row .long pending.long
  let short := agePending params asEtTime window type index row .short pending.short
  let arm (side : SignalDirection) (state : Option Reclaim) : Option Reclaim :=
    if reclaims params side row then some ⟨index, row.high, row.low⟩ else state
  (⟨arm .long long.1, arm .short short.1⟩, short.2.or long.2)

/-- The state machine over the frame, with the confirmation on its last row. -/
def continuationRows (window : EntryWindow) (type : ConfirmationType) (frame : List ImpulseRow) :
    Pending × Option Confirmation :=
  frame.zipIdx.foldl
    (fun state entry => continuationRow params asEtTime window type entry.2 state.1 entry.1)
    (⟨none, none⟩, none)

def evaluateContinuationConfirmationEntry (window : EntryWindow) (type : ConfirmationType)
    (frame : List ImpulseRow) (latest : ImpulseRow) : SignalDecision :=
  let (pending, confirmed) := continuationRows params asEtTime window type frame
  let side := chooseSide params fun side => confirmed.any fun confirmation => confirmation.side = side
  let waiting := if pending.long.isSome ∨ pending.short.isSome then
      ["awaiting_continuation_confirmation"]
    else []
  signalDecision params deploymentId latest (window.contains (asEtTime latest.timestamp))
    "continuation_confirmation" side waiting
    (match confirmed with
      | none => []
      | some confirmation =>
        [("reclaim_bar_high", .number confirmation.reclaim.high),
          ("reclaim_bar_low", .number confirmation.reclaim.low),
          ("confirmation_age_bars", .count confirmation.age)])

def evaluatePlan (frame : List ImpulseRow) (latest : ImpulseRow) : EntryPlan → SignalDecision
  | .crossReclaim window => evaluateCrossReclaimEntry params asEtTime deploymentId window latest
  | .singleBarReclaim mode window =>
    evaluateSingleBarReclaimEntry params asEtTime deploymentId mode window latest
  | .continuationConfirmation window type =>
    evaluateContinuationConfirmationEntry params asEtTime deploymentId window type frame latest

def evaluateEntry (frame : List ImpulseRow) : Except PyException SignalDecision :=
  match frame.getLast? with
  | none => .error (.valueError "Cannot evaluate Market Impulse on an empty frame")
  | some latest => (entryPlan params).map (evaluatePlan params asEtTime deploymentId frame latest)

end Evaluation

end MarketImpulse

end Bhiksha
