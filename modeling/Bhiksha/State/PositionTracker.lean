import Mathlib.Data.Rat.Defs
import Mathlib.Data.List.Basic

/-! The tracked positions and the lifecycle records that the live loop works from. Prices are finite
floats, read as the rationals they denote, and a time is a rational number of seconds. -/

namespace Bhiksha.Live

inductive ExitMode where
  | strategy
  | hardFlat
  | emergency
deriving DecidableEq, Repr

structure TrackedPosition where
  symbol : String
  deploymentId : String
  tradeId : Option String := none
  optionSymbol : Option String := none
  quantity : ℤ := 0
  entryPrice : Option ℚ := none
  underlyingEntryPrice : Option ℚ := none
  entryTimestamp : Option ℚ := none
  source : String := "runtime"
  orderId : Option String := none
  stopOrderId : Option String := none
  stopPrice : Option ℚ := none
  targetOrderId : Option String := none
  targetPrice : Option ℚ := none
  targetActivationPrice : Option ℚ := none
  targetActivationHighPrice : Option ℚ := none
  targetActivatedAt : Option ℚ := none
  exitOrderId : Option String := none
  exitLimitPrice : Option ℚ := none
  exitSubmittedAt : Option ℚ := none
  exitMode : Option ExitMode := none
  exitRepriceCount : ℕ := 0
deriving DecidableEq, Repr

def liveEntryReconciliationHoldSource : String := "live_entry_reconcile_hold"

namespace TrackedPosition

/-- The columns that most callers of `open_position` leave at their defaults. -/
def withoutTargetActivation (p : TrackedPosition) : TrackedPosition :=
  { p with
    targetActivationPrice := none
    targetActivationHighPrice := none
    targetActivatedAt := none }

end TrackedPosition

inductive LifecycleState where
  | pendingEntry
  | openUnprotected
  | openProtected
  | targetActive
  | exitPending
  | closed
  | reconciliationHold
deriving DecidableEq, Repr

/-- A record of one deployment and symbol. -/
structure TradeLifecycle where
  state : LifecycleState
  optionSymbol : Option String := none
  orderId : Option String := none
deriving DecidableEq, Repr

end Bhiksha.Live
