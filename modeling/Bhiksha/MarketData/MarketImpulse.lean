import Mathlib.Algebra.Order.Ring.Rat
import Mathlib.Data.List.DropRight
import Bhiksha.Library.Causal
import Bhiksha.Python

/-! The Market Impulse columns, their resampling into a higher timeframe and the join back. Frames
are in time order, so the sorts of the source change nothing. An array entry that is not a number is
`none`. -/

namespace Bhiksha

open Library

/-- A one-minute bar. -/
structure PriceBar where
  timestamp : ℚ
  symbol : String
  high : ℚ
  low : ℚ
  close : ℚ
  volume : ℚ
deriving DecidableEq, Repr

inductive Regime where
  | bullish
  | bearish
  | neutral
deriving DecidableEq, Repr

def Regime.text : Regime → String
  | bullish => "bullish"
  | bearish => "bearish"
  | neutral => "neutral"

section Indicators

/-- `np.convolve(xs, np.ones(k), mode="full")[:n]`: the sums of the last `k` entries. -/
def convolveOnes (k : ℕ) : List ℚ → List ℚ := prefixMap fun p => (p.rtake k).sum

/-- The change of the last entry. -/
def lastDiff (p : List ℚ) : ℚ :=
  match p.reverse with
  | x :: y :: _ => x - y
  | _ => 0

def gains : List ℚ → List ℚ := prefixMap fun p => max (lastDiff p) 0

def losses : List ℚ → List ℚ := prefixMap fun p => max (-lastDiff p) 0

/-- The directional strength of the window, in percent. -/
def directional (d2 d4 : ℚ) : ℚ := if d2 + d4 = 0 then 0 else (d2 - d4) / (d2 + d4) * 100

/-- The weight of the newest close. -/
def vmaCoefficients (length : ℕ) (closes : List ℚ) : List ℚ :=
  List.zipWith (fun d2 d4 => 2 / (length + 1) * |directional d2 d4| / 100)
    (convolveOnes length (gains closes)) (convolveOnes length (losses closes))

/-- The recursion from the first close on. -/
def vmaAt : List (ℚ × ℚ) → ℚ
  | [] => 0
  | (_, first) :: rest => rest.foldl (fun vma entry => entry.1 * entry.2 + (1 - entry.1) * vma) first

def computeVma (length : ℕ) (closes : List ℚ) : List ℚ :=
  prefixMap vmaAt (List.zipWith Prod.mk (vmaCoefficients length closes) closes)

/-- The volume-weighted average, undefined without volume and in the first `period - 1` entries. -/
def computeVwma (period : ℕ) (rows : List (ℚ × ℚ)) : List (Option ℚ) :=
  (List.zipWith (fun sumVc sumV => if sumV = 0 then none else some (sumVc / sumV))
    (convolveOnes period (rows.map fun row => row.1 * row.2))
    (convolveOnes period (rows.map Prod.snd))).mapIdx
      fun i vwma => if i < period - 1 then none else vwma

/-- A comparison, false when an entry is not a number. -/
def above (x y : Option ℚ) : Bool := x.any fun a => y.any fun b => b < a

/-- Three periods at least; the regime compares the first three. -/
structure VwmaPeriods where
  fast : ℕ
  middle : ℕ
  slow : ℕ
  rest : List ℕ := []
deriving DecidableEq, Repr

def classifyRegime (fast middle slow : Option ℚ) : Regime :=
  if above middle fast && above slow middle then .bearish
  else if above fast middle && above middle slow then .bullish
  else .neutral

/-- The regime column of rows of a close and a volume. -/
def regimeColumn (periods : VwmaPeriods) (rows : List (ℚ × ℚ)) : List Regime :=
  List.zipWith (fun fast rest => classifyRegime fast rest.1 rest.2)
    (computeVwma periods.fast rows)
    (List.zipWith Prod.mk (computeVwma periods.middle rows) (computeVwma periods.slow rows))

theorem causal_convolveOnes (k : ℕ) : Causal (convolveOnes k) := causal_prefixMap _

theorem causal_computeVma (length : ℕ) : Causal (computeVma length) := by
  have hgains : Causal fun closes => convolveOnes length (gains closes) :=
    (causal_convolveOnes length).comp (causal_prefixMap _)
  have hlosses : Causal fun closes => convolveOnes length (losses closes) :=
    (causal_convolveOnes length).comp (causal_prefixMap _)
  have hcoefficients : Causal (vmaCoefficients length) := hgains.zipWith hlosses _
  exact (causal_prefixMap vmaAt).comp (hcoefficients.zipWith causal_id Prod.mk)

theorem causal_computeVwma (period : ℕ) : Causal (computeVwma period) := by
  have hsumVc : Causal fun rows : List (ℚ × ℚ) =>
      convolveOnes period (rows.map fun row => row.1 * row.2) :=
    (causal_convolveOnes period).comp (causal_map _)
  have hsumV : Causal fun rows : List (ℚ × ℚ) => convolveOnes period (rows.map Prod.snd) :=
    (causal_convolveOnes period).comp (causal_map _)
  exact (hsumVc.zipWith hsumV _).mapIdx _

theorem causal_regimeColumn (periods : VwmaPeriods) : Causal (regimeColumn periods) :=
  (causal_computeVwma _).zipWith
    ((causal_computeVwma _).zipWith (causal_computeVwma _) Prod.mk) _

theorem length_computeVma (length : ℕ) (closes : List ℚ) :
    (computeVma length closes).length = closes.length := by
  simp [computeVma, vmaCoefficients, convolveOnes, gains, losses]

theorem length_computeVwma (period : ℕ) (rows : List (ℚ × ℚ)) :
    (computeVwma period rows).length = rows.length := by
  simp [computeVwma, convolveOnes]

theorem length_regimeColumn (periods : VwmaPeriods) (rows : List (ℚ × ℚ)) :
    (regimeColumn periods rows).length = rows.length := by
  simp [regimeColumn, length_computeVwma]

end Indicators

/-- The windows of a timeframe, by the instant at which the window of an instant starts. -/
structure Windows where
  start : ℚ → ℚ
  start_le : ∀ t, start t ≤ t
  start_mono : ∀ t u, t ≤ u → start t ≤ start u
  start_idem : ∀ t, start (start t) = start t

/-- A window that starts at or before an instant starts no later than the instant's own. -/
theorem Windows.start_le_start (windows : Windows) {t u : ℚ} (h : windows.start u ≤ t) :
    windows.start u ≤ windows.start t := by
  have hmono := windows.start_mono _ _ h
  rwa [windows.start_idem] at hmono

/-- Windows of one length, from the epoch on. -/
def Windows.every (length : ℚ) (hlength : 0 < length) : Windows where
  start t := ⌊t / length⌋ * length
  start_le t := (le_div_iff₀ hlength).mp (Int.floor_le _)
  start_mono t u h := by
    have hfloor : ⌊t / length⌋ ≤ ⌊u / length⌋ := Int.floor_mono (by gcongr)
    gcongr
  start_idem t := by
    rw [mul_div_cancel_right₀ _ hlength.ne', Int.floor_intCast]

/-- A resampled bar, labelled by the start of its window. -/
structure TimeframeBar where
  start : ℚ
  close : ℚ
  volume : ℚ
deriving DecidableEq, Repr

section Resample

variable (windows : Windows)

/-- A bar joins the newest window or opens the next one; the newest window comes first. -/
def pushBar (resampled : List TimeframeBar) (bar : PriceBar) : List TimeframeBar :=
  match resampled with
  | [] => [⟨windows.start bar.timestamp, bar.close, bar.volume⟩]
  | newest :: older =>
    if newest.start = windows.start bar.timestamp then
      { newest with close := bar.close, volume := newest.volume + bar.volume } :: older
    else ⟨windows.start bar.timestamp, bar.close, bar.volume⟩ :: newest :: older

/-- `group_by_dynamic`: the last close and the total volume of every window that has a bar. -/
def resampleOhlcv (bars : List PriceBar) : List TimeframeBar :=
  (bars.foldl (pushBar windows) []).reverse

structure TimeframeRow where
  start : ℚ
  regime : Regime
deriving DecidableEq, Repr

def enrichTimeframe (periods : VwmaPeriods) (bars : List TimeframeBar) : List TimeframeRow :=
  List.zipWith (fun bar regime => ⟨bar.start, regime⟩) bars
    (regimeColumn periods (bars.map fun bar => (bar.close, bar.volume)))

/-- `join_asof(strategy="backward")`: the last row whose window starts at or before the instant. -/
def joinAsof (rows : List TimeframeRow) (t : ℚ) : Option Regime :=
  ((rows.filter fun row => row.start ≤ t).getLast?).map TimeframeRow.regime

end Resample

/-- A transform for one strategy. -/
structure MarketImpulseTransform where
  vmaLength : ℕ
  periods : VwmaPeriods
  windows : Windows
  /-- The New York time of day of an instant, in seconds. -/
  etTime : ℚ → ℚ

/-- The columns that the strategy reads. -/
structure ImpulseRow where
  timestamp : ℚ
  symbol : String
  high : ℚ
  low : ℚ
  close : ℚ
  vma : ℚ
  regime : Option Regime
deriving DecidableEq, Repr

namespace MarketImpulseTransform

variable (transform : MarketImpulseTransform)

/-- The bars from 09:30 to 16:00. -/
def filterMarketHours (bars : List PriceBar) : List PriceBar :=
  bars.filter fun bar =>
    9 * 3600 + 30 * 60 ≤ transform.etTime bar.timestamp ∧
      transform.etTime bar.timestamp ≤ 16 * 3600

/-- The timeframe's rows, from in-session bars. -/
def timeframeRows (market : List PriceBar) : List TimeframeRow :=
  enrichTimeframe transform.periods (resampleOhlcv transform.windows market)

def enrichedRow (rows : List TimeframeRow) (bar : PriceBar) (vma : ℚ) : ImpulseRow where
  timestamp := bar.timestamp
  symbol := bar.symbol
  high := bar.high
  low := bar.low
  close := bar.close
  vma := vma
  regime := joinAsof rows bar.timestamp

def join (market : List PriceBar) : List ImpulseRow :=
  List.zipWith (enrichedRow (transform.timeframeRows market)) market
    (computeVma transform.vmaLength (market.map PriceBar.close))

/-- `np.convolve` refuses an empty window. -/
def windowsGiven : Bool :=
  transform.vmaLength ≠ 0 ∧ transform.periods.fast ≠ 0 ∧ transform.periods.middle ≠ 0 ∧
    transform.periods.slow ≠ 0 ∧ 0 ∉ transform.periods.rest

def apply (frame : List PriceBar) : Except PyException (List ImpulseRow) :=
  let market := transform.filterMarketHours frame
  if market.isEmpty then .ok []
  else if transform.windowsGiven then .ok (transform.join market)
  else .error (.valueError "v cannot be empty")

end MarketImpulseTransform

end Bhiksha
