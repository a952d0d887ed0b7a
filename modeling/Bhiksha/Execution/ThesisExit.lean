import Mathlib.Algebra.Order.Field.Rat
import Mathlib.Tactic.Linarith
import Mathlib.Tactic.NormNum
import Bhiksha.Python

/-! The ATR trailing exit on the underlying. -/

namespace Bhiksha.Thesis

/-- A row of the bar frame; a number that is null or no number at all is missing. -/
structure Bar where
  symbol : String
  timestamp : ℚ
  high : Option ℚ
  low : Option ℚ
  columns : List (String × ℚ) := []
deriving DecidableEq, Repr

structure ExitDecision where
  deploymentId : String
  symbol : String
  timestamp : ℚ
  exit : Bool
  action : String := "hold"
  reason : List String := []
  cancelProtectionOrders : Bool := false
deriving DecidableEq, Repr

/-- What the evaluation reads of the deployment: its id, the strategy's direction and two of the
exit's parameters. -/
structure Deployment where
  deploymentId : String
  direction : String
  atrCol : Option String := none
  atrMultiple : Option ℚ := none

namespace Deployment

variable (deployment : Deployment)

def atrColumn : String := (deployment.atrCol.filter (· ≠ "")).getD "atr_14_exit"

/-- `_as_float(...) or 2.0`. -/
def multiple : ℚ := (deployment.atrMultiple.filter (· ≠ 0)).getD 2

def isLong : Bool := deployment.direction.toLower = "long"

def hold (latest : Bar) (reason : String) : ExitDecision where
  deploymentId := deployment.deploymentId
  symbol := latest.symbol
  timestamp := latest.timestamp
  exit := false
  reason := [reason]

/-- `_square_off`. -/
def squareOff (latest : Bar) (reasons : List String) : ExitDecision where
  deploymentId := deployment.deploymentId
  symbol := latest.symbol
  timestamp := latest.timestamp
  exit := true
  action := "square_off"
  reason := reasons
  cancelProtectionOrders := true

end Deployment

/-- When the position was entered, if that is known, and whether the frame's timestamps can be
compared with it. -/
structure EntryTime where
  timestamp : Option ℚ
  comparable : Bool := true

/-- The bars since the entry; the whole frame where the filter fails. -/
def sinceEntry (frame : List Bar) (entry : EntryTime) : List Bar :=
  match entry.timestamp with
  | none => frame
  | some entered => if entry.comparable then frame.filter (entered ≤ ·.timestamp) else frame

/-- `_evaluate_atr_trailing_underlying`; `text` is `str` of a float. -/
def evaluateAtrTrailingUnderlying (text : ℚ → String) (deployment : Deployment) (frame : List Bar)
    (latest : Bar) (entry : EntryTime) : ExitDecision :=
  let stop := s!"atr_trailing_underlying_stop:{deployment.atrColumn}x{text deployment.multiple}"
  match latest.columns.lookup deployment.atrColumn, latest.high, latest.low with
  | some atr, some high, some low =>
    if atr ≤ 0 then deployment.hold latest "atr_trailing_underlying_data_missing"
    else
      let bars := sinceEntry frame entry
      if deployment.isLong then
        let lowSinceEntry := (bars.filterMap Bar.low).min?.getD low
        let trailStop := lowSinceEntry - deployment.multiple * atr
        if low ≤ trailStop then deployment.squareOff latest [stop]
        else deployment.hold latest "thesis_exit_hold"
      else
        let highSinceEntry := (bars.filterMap Bar.high).max?.getD high
        let trailStop := highSinceEntry + deployment.multiple * atr
        if trailStop ≤ high then deployment.squareOff latest [stop]
        else deployment.hold latest "thesis_exit_hold"
  | _, _, _ => deployment.hold latest "atr_trailing_underlying_data_missing"

/-- `evaluate_underlying_thesis_exit` under the policy `atr_trailing_underlying`. -/
def evaluateUnderlyingThesisExit (text : ℚ → String) (deployment : Deployment) (frame : List Bar)
    (entry : EntryTime) : Option ExitDecision :=
  frame.getLast?.map fun latest => evaluateAtrTrailingUnderlying text deployment frame latest entry

section Law

variable (deployment : Deployment) (frame : List Bar) (latest : Bar) (entry : EntryTime)

/-- The latest bar has come back from the most favourable price since the entry by the multiple of
the ATR. -/
def Retraced (atr : ℚ) : Prop :=
  if deployment.isLong then
    ∃ best ∈ ((sinceEntry frame entry).filterMap Bar.high).max?, ∃ low ∈ latest.low,
      low ≤ best - deployment.multiple * atr
  else
    ∃ best ∈ ((sinceEntry frame entry).filterMap Bar.low).min?, ∃ high ∈ latest.high,
      best + deployment.multiple * atr ≤ high

/-- The latest bar lies beyond every bar since the entry, by the multiple of the ATR. -/
def BeyondEveryBar (atr : ℚ) : Prop :=
  ∃ high ∈ latest.high, ∃ low ∈ latest.low,
    if deployment.isLong then
      (sinceEntry frame entry).filterMap Bar.low ≠ [] ∧
        ∀ l ∈ (sinceEntry frame entry).filterMap Bar.low, low ≤ l - deployment.multiple * atr
    else
      (sinceEntry frame entry).filterMap Bar.high ≠ [] ∧
        ∀ h ∈ (sinceEntry frame entry).filterMap Bar.high, h + deployment.multiple * atr ≤ high

end Law

section Fires

variable {deployment : Deployment} {frame : List Bar} {latest : Bar}
  {entry : EntryTime} {atr : ℚ}

theorem le_min?_getD_sub_iff {xs : List ℚ} {x d : ℚ} (hd : 0 < d) :
    x ≤ xs.min?.getD x - d ↔ xs ≠ [] ∧ ∀ y ∈ xs, x ≤ y - d := by
  cases hmin : xs.min? with
  | none =>
    rw [List.min?_eq_none_iff] at hmin
    refine iff_of_false (fun h => ?_) fun h => h.1 hmin
    rw [Option.getD_none] at h
    linarith
  | some least =>
    obtain ⟨hmem, hleast⟩ := List.min?_eq_some_iff.mp hmin
    rw [Option.getD_some]
    constructor
    · intro h
      refine ⟨List.ne_nil_of_mem hmem, fun y hy => ?_⟩
      have hy' := hleast y hy
      linarith
    · rintro ⟨-, hall⟩
      exact hall least hmem

theorem max?_getD_add_le_iff {xs : List ℚ} {x d : ℚ} (hd : 0 < d) :
    xs.max?.getD x + d ≤ x ↔ xs ≠ [] ∧ ∀ y ∈ xs, y + d ≤ x := by
  cases hmax : xs.max? with
  | none =>
    rw [List.max?_eq_none_iff] at hmax
    refine iff_of_false (fun h => ?_) fun h => h.1 hmax
    rw [Option.getD_none] at h
    linarith
  | some greatest =>
    obtain ⟨hmem, hgreatest⟩ := List.max?_eq_some_iff.mp hmax
    rw [Option.getD_some]
    constructor
    · intro h
      refine ⟨List.ne_nil_of_mem hmem, fun y hy => ?_⟩
      have hy' := hgreatest y hy
      linarith
    · rintro ⟨-, hall⟩
      exact hall greatest hmem

/-- The extreme that the code trails is on the side of the bar under test. -/
theorem fires_iff (text : ℚ → String)
    (hatr : latest.columns.lookup deployment.atrColumn = some atr) (hpos : 0 < atr)
    (hmultiple : 0 < deployment.multiple) :
    (evaluateAtrTrailingUnderlying text deployment frame latest entry).action = "square_off" ↔
      BeyondEveryBar deployment frame latest entry atr := by
  have hd : 0 < deployment.multiple * atr := mul_pos hmultiple hpos
  unfold evaluateAtrTrailingUnderlying BeyondEveryBar
  rw [hatr]
  cases hhigh : latest.high with
  | none => simp [Deployment.hold]
  | some high =>
    cases hlow : latest.low with
    | none => simp [Deployment.hold]
    | some low =>
      simp only [if_neg hpos.not_ge, Option.mem_def, Option.some.injEq, exists_eq_left']
      split
      · rw [← le_min?_getD_sub_iff hd]
        split
        · next hle => exact iff_of_true rfl hle
        · next hle => exact iff_of_false (by simp [Deployment.hold]) hle
      · rw [← max?_getD_add_le_iff hd]
        split
        · next hle => exact iff_of_true rfl hle
        · next hle => exact iff_of_false (by simp [Deployment.hold]) hle

/-- A bar does not lie beyond itself. -/
theorem not_beyondEveryBar_of_mem (hpos : 0 < atr) (hmultiple : 0 < deployment.multiple)
    (hmem : latest ∈ sinceEntry frame entry) : ¬BeyondEveryBar deployment frame latest entry atr := by
  have hd : 0 < deployment.multiple * atr := mul_pos hmultiple hpos
  rintro ⟨high, hhigh, low, hlow, hbeyond⟩
  split at hbeyond
  · have hself := hbeyond.2 low (List.mem_filterMap.mpr ⟨latest, hmem, hlow⟩)
    linarith
  · have hself := hbeyond.2 high (List.mem_filterMap.mpr ⟨latest, hmem, hhigh⟩)
    linarith

/-- In a frame in time order the latest bar is one of the bars since the entry, if there are any. -/
theorem latest_mem_sinceEntry (hsorted : frame.Pairwise (·.timestamp ≤ ·.timestamp))
    (hlatest : frame.getLast? = some latest) (hbars : sinceEntry frame entry ≠ []) :
    latest ∈ sinceEntry frame entry := by
  have hmem : latest ∈ frame := List.mem_of_getLast? hlatest
  unfold sinceEntry at hbars ⊢
  split at hbars
  · exact hmem
  next entered _ =>
  split at hbars
  · next hcomparable =>
    rw [if_pos hcomparable]
    obtain ⟨bar, hbar⟩ := List.exists_mem_of_ne_nil _ hbars
    rw [List.mem_filter, decide_eq_true_eq] at hbar ⊢
    refine ⟨hmem, hbar.2.trans ?_⟩
    -- every bar is at or before the last one
    obtain ⟨init, rfl⟩ := List.getLast?_eq_some_iff.mp hlatest
    rcases List.mem_append.mp hbar.1 with hinit | hlast
    · exact (List.pairwise_append.mp hsorted).2.2 bar hinit latest (List.mem_singleton.mpr rfl)
    · rw [List.mem_singleton.mp hlast]
  · next hcomparable =>
    rw [if_neg hcomparable]
    exact hmem

/-- With bars in time order, at least one of them since the entry, the exit never fires. -/
theorem atr_trailing_never_fires (text : ℚ → String)
    (hsorted : frame.Pairwise (·.timestamp ≤ ·.timestamp))
    (hlatest : frame.getLast? = some latest) (hbars : sinceEntry frame entry ≠ [])
    (hatr : latest.columns.lookup deployment.atrColumn = some atr) (hpos : 0 < atr)
    (hmultiple : 0 < deployment.multiple) :
    (evaluateAtrTrailingUnderlying text deployment frame latest entry).action ≠ "square_off" := by
  rw [Ne, fires_iff text hatr hpos hmultiple]
  exact not_beyondEveryBar_of_mem hpos hmultiple (latest_mem_sinceEntry hsorted hlatest hbars)

end Fires

/-- The evaluation squares off whenever the latest bar has come back from the favourable extreme. -/
def FiresOnRetrace (text : ℚ → String) (deployment : Deployment) (frame : List Bar) (latest : Bar)
    (entry : EntryTime) (atr : ℚ) : Prop :=
  Retraced deployment frame latest entry atr →
    ∃ decision ∈ evaluateUnderlyingThesisExit text deployment frame entry,
      decision.action = "square_off"

theorem atr_trailing_fires_on_retrace_iff (text : ℚ → String) (deployment : Deployment)
    (frame : List Bar) (latest : Bar) (entry : EntryTime) (atr : ℚ)
    (hlatest : frame.getLast? = some latest)
    (hatr : latest.columns.lookup deployment.atrColumn = some atr) (hpos : 0 < atr)
    (hmultiple : 0 < deployment.multiple) :
    FiresOnRetrace text deployment frame latest entry atr ↔
      ¬Retraced deployment frame latest entry atr ∨
        BeyondEveryBar deployment frame latest entry atr := by
  have hfires : (∃ decision ∈ evaluateUnderlyingThesisExit text deployment frame entry,
      decision.action = "square_off") ↔ BeyondEveryBar deployment frame latest entry atr := by
    rw [← fires_iff text hatr hpos hmultiple]
    simp [evaluateUnderlyingThesisExit, hlatest]
  unfold FiresOnRetrace
  rw [hfires, imp_iff_not_or]

namespace LongTrade

def deployment : Deployment where
  deploymentId := "d1"
  direction := "long"
  atrMultiple := some 2

def peak : Bar := ⟨"SPY", 1, some 110, some 108, []⟩

def pullback : Bar := ⟨"SPY", 2, some 104, some 100, [("atr_14_exit", 1)]⟩

end LongTrade

/-- Ten dollars below the high since the entry, with an ATR of one dollar, the long trade is held. -/
theorem atr_trailing_holds_after_retrace : ¬FiresOnRetrace (fun _ => "2.0") LongTrade.deployment
    [LongTrade.peak, LongTrade.pullback] LongTrade.pullback ⟨some 0, true⟩ 1 := by
  intro hfires
  have hretraced : Retraced LongTrade.deployment [LongTrade.peak, LongTrade.pullback]
      LongTrade.pullback ⟨some 0, true⟩ 1 := by
    unfold Retraced
    rw [if_pos (by decide +kernel)]
    exact ⟨110, by decide +kernel, 100, rfl, by decide +kernel⟩
  obtain ⟨decision, hdecision, haction⟩ := hfires hretraced
  obtain rfl := Option.some.inj hdecision
  revert haction
  decide +kernel

theorem atr_trailing_fires_on_retrace_iff_long :
    FiresOnRetrace (fun _ => "2.0") LongTrade.deployment [LongTrade.peak, LongTrade.pullback]
        LongTrade.pullback ⟨some 0, true⟩ 1 ↔
      ¬Retraced LongTrade.deployment [LongTrade.peak, LongTrade.pullback] LongTrade.pullback
          ⟨some 0, true⟩ 1 ∨
        BeyondEveryBar LongTrade.deployment [LongTrade.peak, LongTrade.pullback] LongTrade.pullback
          ⟨some 0, true⟩ 1 :=
  atr_trailing_fires_on_retrace_iff _ _ _ _ _ 1 rfl rfl (by norm_num) (by decide +kernel)

end Bhiksha.Thesis
