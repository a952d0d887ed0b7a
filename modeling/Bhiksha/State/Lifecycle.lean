import Bhiksha.Library.AssocList
import Bhiksha.Library.ChangeLog
import Bhiksha.State.PositionTracker

/-! `state/lifecycle.py`: the record of what each deployment does with a symbol, written by the runtime
step by step and brought in line with the tracked positions at every sync. -/

namespace Bhiksha.Lifecycle

open Live (LifecycleState)

/-- The key of a record. -/
structure Slot where
  symbol : String
  deploymentId : String
deriving DecidableEq, Repr

structure TradeLifecycle extends Live.TradeLifecycle where
  symbol : String
  deploymentId : String
deriving DecidableEq, Repr

structure LifecycleTransition where
  symbol : String
  deploymentId : String
  previousState : Option LifecycleState
  newState : LifecycleState
  optionSymbol : Option String := none
  orderId : Option String := none
deriving DecidableEq, Repr

def TradeLifecycle.slot (record : TradeLifecycle) : Slot := ⟨record.symbol, record.deploymentId⟩

namespace LifecycleTransition

def slot (t : LifecycleTransition) : Slot := ⟨t.symbol, t.deploymentId⟩

/-- The record that a transition says is there now. -/
def record (t : LifecycleTransition) : TradeLifecycle :=
  { symbol := t.symbol
    deploymentId := t.deploymentId
    state := t.newState
    optionSymbol := t.optionSymbol
    orderId := t.orderId }

end LifecycleTransition

/-- `_transition`. -/
def transition (previous : Option TradeLifecycle) (current : TradeLifecycle) :
    Option LifecycleTransition :=
  if ∃ p ∈ previous, p.state = current.state ∧ p.optionSymbol = current.optionSymbol ∧
      p.orderId = current.orderId then
    none
  else
    some
      { symbol := current.symbol
        deploymentId := current.deploymentId
        previousState := previous.map (·.state)
        newState := current.state
        optionSymbol := current.optionSymbol
        orderId := current.orderId }

/-- `_records`: no slot twice, and each record under its own slot. -/
structure TradeLifecycleStore where
  records : List (Slot × TradeLifecycle)
  nodup : (records.map Prod.fst).Nodup
  named : ∀ entry ∈ records, entry.2.slot = entry.1

namespace TradeLifecycleStore

def empty : TradeLifecycleStore := ⟨[], List.nodup_nil, fun _ h => absurd h List.not_mem_nil⟩

variable (store : TradeLifecycleStore)

def get (symbol deploymentId : String) : Option TradeLifecycle :=
  store.records.lookup ⟨symbol, deploymentId⟩

def canSubmitEntry (symbol deploymentId : String) : Bool :=
  match store.get symbol deploymentId with
  | none => true
  | some record => record.state = .closed

/-- What every method of the store does with the record it has made. -/
def write (record : TradeLifecycle) : TradeLifecycleStore × Option LifecycleTransition :=
  ⟨⟨Library.put record.slot record store.records,
      Library.keys_put_nodup store.nodup record.slot record,
      fun entry h => (Library.mem_of_mem_put h).elim (fun heq => by rw [heq]) (store.named entry)⟩,
    transition (store.get record.symbol record.deploymentId) record⟩

/-- The methods that take the contract and the order of a slot. -/
def mark (state : LifecycleState) (symbol deploymentId : String) (optionSymbol orderId : Option String) :
    TradeLifecycleStore × Option LifecycleTransition :=
  store.write { symbol, deploymentId, state, optionSymbol, orderId }

def beginEntry (symbol deploymentId : String) (optionSymbol orderId : Option String) :
    TradeLifecycleStore × Option LifecycleTransition :=
  store.mark .pendingEntry symbol deploymentId optionSymbol orderId

def markOpen (symbol deploymentId : String) (optionSymbol orderId : Option String) (isProtected : Bool) :
    TradeLifecycleStore × Option LifecycleTransition :=
  store.mark (if isProtected then .openProtected else .openUnprotected)
    symbol deploymentId optionSymbol orderId

def markTargetActive (symbol deploymentId : String) (optionSymbol orderId : Option String) :
    TradeLifecycleStore × Option LifecycleTransition :=
  store.mark .targetActive symbol deploymentId optionSymbol orderId

def markExitPending (symbol deploymentId : String) (optionSymbol orderId : Option String) :
    TradeLifecycleStore × Option LifecycleTransition :=
  store.mark .exitPending symbol deploymentId optionSymbol orderId

def markClosed (symbol deploymentId : String) : TradeLifecycleStore × Option LifecycleTransition :=
  store.mark .closed symbol deploymentId none none

def markReconciliationHold (symbol deploymentId : String) (optionSymbol orderId : Option String) :
    TradeLifecycleStore × Option LifecycleTransition :=
  store.mark .reconciliationHold symbol deploymentId optionSymbol orderId

end TradeLifecycleStore

/-- A string that is there and not empty, as `bool(...)` reads it. -/
def isNamed (text : Option String) : Bool := text.isSome && text ≠ some ""

/-- `first or second`. -/
def orElse (first second : Option String) : Option String := if isNamed first then first else second

/-- A store and the transitions it has reported so far. -/
structure Account where
  store : TradeLifecycleStore
  transitions : List LifecycleTransition := []

def Account.note (account : Account)
    (step : TradeLifecycleStore → TradeLifecycleStore × Option LifecycleTransition) : Account :=
  ⟨(step account.store).1, account.transitions ++ (step account.store).2.toList⟩

/-- What `sync_from_positions` marks for one position. -/
def markPosition (position : Live.TrackedPosition) (store : TradeLifecycleStore) :
    TradeLifecycleStore × Option LifecycleTransition :=
  if position.exitMode ≠ none ∨ position.exitOrderId ≠ none then
    store.markExitPending position.symbol position.deploymentId position.optionSymbol
      (orElse position.exitOrderId position.orderId)
  else if isNamed position.targetOrderId then
    store.markTargetActive position.symbol position.deploymentId position.optionSymbol
      (orElse position.targetOrderId position.orderId)
  else
    store.markOpen position.symbol position.deploymentId position.optionSymbol position.orderId
      (isNamed position.stopOrderId)

def positionSlot (position : Live.TrackedPosition) : Slot := ⟨position.symbol, position.deploymentId⟩

/-- The states that a slot without a position is closed from. -/
def openStates : List LifecycleState := [.openUnprotected, .openProtected, .targetActive, .exitPending]

/-- The second loop of `sync_from_positions`, for one entry of the records. -/
def closeUntracked (activeKeys : List Slot) (account : Account) (entry : Slot × TradeLifecycle) : Account :=
  if entry.1 ∉ activeKeys ∧ entry.2.state ∈ openStates then
    -- The source writes under the entry's key, which is the slot of its record.
    account.note fun store => store.write
      { symbol := entry.2.symbol
        deploymentId := entry.2.deploymentId
        state := .closed }
  else
    account

/-- The first loop of `sync_from_positions`. -/
def Account.markAll (account : Account) (positions : List Live.TrackedPosition) : Account :=
  positions.foldl (fun account position => account.note (markPosition position)) account

def syncFromPositions (store : TradeLifecycleStore) (positions : List Live.TrackedPosition) : Account :=
  let marked := Account.markAll { store } positions
  marked.store.records.foldl (closeUntracked (positions.map positionSlot)) marked

/-- The calls that the runtime makes of the store. -/
inductive Command where
  | beginEntry (symbol deploymentId : String) (optionSymbol orderId : Option String)
  | markOpen (symbol deploymentId : String) (optionSymbol orderId : Option String) (isProtected : Bool)
  | markTargetActive (symbol deploymentId : String) (optionSymbol orderId : Option String)
  | markExitPending (symbol deploymentId : String) (optionSymbol orderId : Option String)
  | markClosed (symbol deploymentId : String)
  | markReconciliationHold (symbol deploymentId : String) (optionSymbol orderId : Option String)
  | syncFromPositions (positions : List Live.TrackedPosition)

def Command.perform (account : Account) : Command → Account
  | .beginEntry symbol deploymentId optionSymbol orderId =>
    account.note (·.beginEntry symbol deploymentId optionSymbol orderId)
  | .markOpen symbol deploymentId optionSymbol orderId isProtected =>
    account.note (·.markOpen symbol deploymentId optionSymbol orderId isProtected)
  | .markTargetActive symbol deploymentId optionSymbol orderId =>
    account.note (·.markTargetActive symbol deploymentId optionSymbol orderId)
  | .markExitPending symbol deploymentId optionSymbol orderId =>
    account.note (·.markExitPending symbol deploymentId optionSymbol orderId)
  | .markClosed symbol deploymentId => account.note (·.markClosed symbol deploymentId)
  | .markReconciliationHold symbol deploymentId optionSymbol orderId =>
    account.note (·.markReconciliationHold symbol deploymentId optionSymbol orderId)
  | .syncFromPositions positions =>
    let synced := Lifecycle.syncFromPositions account.store positions
    ⟨synced.store, account.transitions ++ synced.transitions⟩

/-- A run of calls, with the transitions that they returned. -/
def perform (commands : List Command) : Account := commands.foldl Command.perform ⟨.empty, []⟩

end Bhiksha.Lifecycle
