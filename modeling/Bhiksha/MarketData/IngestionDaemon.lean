import Mathlib.Data.Finset.Basic
import Mathlib.Data.Rat.Defs
import Bhiksha.Library.AssocList

/-! `market_data/daemon.py` and `market_data/bar_store.py`: the heartbeat that fetches the last completed
bar of every symbol and publishes those that are new, and the rolling window of bars behind the strategies.
Prices are finite floats, read as the rationals they denote, and a time is a number of microseconds. -/

namespace Bhiksha.Feed

abbrev Time := ℤ

structure Candle where
  timestamp : Time
  open_ : ℚ
  high : ℚ
  low : ℚ
  close : ℚ
  volume : ℚ
deriving DecidableEq, Repr

structure Bar extends Candle where
  symbol : String
deriving DecidableEq, Repr

structure BarClosedEvent where
  symbol : String
  timeframe : String
  provider : String
  bar : Bar
deriving DecidableEq, Repr

/-- A `deque` of bounded length after an `append`. -/
def keepLast (limit : ℕ) (bars : List Bar) : List Bar := bars.drop (bars.length - limit)

structure RollingBarStore where
  maxBarsPerSymbol : ℕ
  bars : List (String × List Bar) := []
  bounded : ∀ entry ∈ bars, entry.2.length ≤ maxBarsPerSymbol

namespace RollingBarStore

variable (store : RollingBarStore)

def get (symbol : String) : List Bar := (store.bars.lookup symbol).getD []

def latest (symbol : String) : Option Bar := (store.get symbol).getLast?

def appendTo (symbol : String) (bar : Bar) : RollingBarStore where
  maxBarsPerSymbol := store.maxBarsPerSymbol
  bars := Library.put symbol (keepLast store.maxBarsPerSymbol (store.get symbol ++ [bar])) store.bars
  bounded entry h := (Library.mem_of_mem_put h).elim
    (fun heq => by rw [heq, keepLast, List.length_drop]; omega) (store.bounded entry)

def append (bar : Bar) : RollingBarStore := store.appendTo bar.symbol bar

/-- `extend`, which keeps what it appended before the bar that it refuses. -/
def extend (symbol : String) (store : RollingBarStore) : List Bar → RollingBarStore × Except String Unit
  | [] => (store, .ok ())
  | bar :: rest =>
    if bar.symbol ≠ symbol then
      (store, .error ("Expected bars for " ++ symbol ++ ", found " ++ bar.symbol))
    else
      extend symbol (store.appendTo symbol bar) rest

end RollingBarStore

/-- The exceptions of a fetch, as `_is_retryable_provider_error` tells them apart. -/
inductive FetchError where
  | timeout
  | request
  | httpStatus (statusCode : ℕ)
  | other (text : String)
deriving DecidableEq, Repr

def isRetryableProviderError : FetchError → Bool
  | .timeout => true
  | .request => true
  | .httpStatus statusCode => statusCode = 429 || 500 ≤ statusCode
  | .other _ => false

/-- What `fetch_one` hands over for a symbol. -/
abbrev Outcome := Except FetchError (Option Bar)

/-- The calls that the loop makes for a symbol. -/
inductive Call where
  | onFetchError (symbol provider : String) (exc : FetchError)
  | onFetchRecovered (symbol provider : String)
  | publish (event : BarClosedEvent)
deriving DecidableEq, Repr

/-- What ends `run` with an exception. -/
inductive Failure where
  | fetch (exc : FetchError)
  | callback
deriving DecidableEq, Repr

structure DataIngestionDaemon where
  symbols : List String
  provider : String
  /-- Whether `on_fetch_error` and `on_fetch_recovered` were given. -/
  reportsErrors : Bool := true
  reportsRecoveries : Bool := true
  stopped : Bool := false
  lastSeen : List (String × Time) := []
  degradedSymbols : Finset String := ∅

namespace DataIngestionDaemon

variable (d : DataIngestionDaemon)

def stop : DataIngestionDaemon := { d with stopped := true }

/-- The loop's body for one symbol: the daemon after it, the calls it made, and whether it published. A
callback that raises ends it. -/
def look (symbol : String) (outcome : Outcome) (callbackRaises : Bool) :
    DataIngestionDaemon × List Call × Except Failure Bool :=
  match outcome with
  | .error exc =>
    if isRetryableProviderError exc then
      let degraded := { d with degradedSymbols := insert symbol d.degradedSymbols }
      if d.reportsErrors then
        (degraded, [.onFetchError symbol d.provider exc],
          if callbackRaises then .error .callback else .ok false)
      else
        (degraded, [], .ok false)
    else
      (d, [], .error (.fetch exc))
  | .ok fetched =>
    let reports := symbol ∈ d.degradedSymbols ∧ d.reportsRecoveries
    let notices := if reports then [Call.onFetchRecovered symbol d.provider] else []
    let recovered := { d with degradedSymbols := d.degradedSymbols.erase symbol }
    if reports ∧ callbackRaises then
      (recovered, notices, .error .callback)
    else
      match fetched with
      | none => (recovered, notices, .ok false)
      | some bar =>
        if ∃ previous ∈ d.lastSeen.lookup symbol, bar.timestamp ≤ previous then
          (recovered, notices, .ok false)
        else
          ({ recovered with lastSeen := Library.put symbol bar.timestamp d.lastSeen },
            notices ++ [.publish ⟨symbol, "1m", d.provider, bar⟩], .ok true)

end DataIngestionDaemon

end Bhiksha.Feed
