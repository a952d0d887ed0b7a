import Bhiksha.MarketData.IngestionDaemon

/-! How bars reach the strategies in `app/runtime.py`: the daemon publishes to the event bus, the main loop
of `run_session` routes what it takes from there to a queue for each symbol, and a worker for each symbol
stores and evaluates. They run as tasks of one event loop, so a run is a schedule of their steps. -/

namespace Bhiksha.Feed

/-- Where `DataIngestionDaemon.run` stands. -/
inductive Phase where
  /-- Before the test of the outer loop. -/
  | asleep
  | sweeping (rest : List (String × Outcome))
  | ended (result : Except Failure ℕ)

structure Pipeline where
  daemon : DataIngestionDaemon
  maxBars : Option ℕ
  phase : Phase := .asleep
  published : ℕ := 0
  /-- The runtime's queue of the event bus, which has no bound. -/
  queue : List BarClosedEvent := []
  symbolQueues : String → List BarClosedEvent := fun _ => []
  seen : ℕ := 0
  /-- Whether the main loop still takes events. -/
  routing : Bool := true
  store : RollingBarStore

/-- What a schedule leaves to see. -/
inductive Mark where
  /-- The daemon's loop comes to what was fetched for a symbol. The outcomes that a `break` cuts off of the
  sweep leave no mark. -/
  | fetched (symbol : String) (outcome : Outcome)
  | called (call : Call)
  | handled (event : BarClosedEvent)
  /-- The worker appends a bar to the store, which is before the strategies see it. -/
  | evaluated (bar : Bar)

/-- Whose turn it is, with what its surroundings do at it. -/
inductive Turn where
  | stop
  /-- The outer loop's test and, if it goes on, the fetches of a wake. -/
  | wake (answers : List (Except FetchError (Option Candle)))
  /-- The inner loop's next symbol. -/
  | look (callbackRaises : Bool)
  | route
  | work (symbol : String)

/-- A bar source names the bar after the symbol it was asked for. -/
def fetchLatestCompletedBar (symbol : String) (answer : Except FetchError (Option Candle)) : Outcome :=
  answer.map (Option.map fun candle => { candle with symbol })

def reachesLimit (maxBars : Option ℕ) (count : ℕ) : Prop := ∃ limit ∈ maxBars, limit ≤ count

instance (maxBars : Option ℕ) (count : ℕ) : Decidable (reachesLimit maxBars count) :=
  inferInstanceAs (Decidable (∃ limit ∈ maxBars, limit ≤ count))

def Call.event? : Call → Option BarClosedEvent
  | .publish event => some event
  | _ => none

namespace Pipeline

/-- `run_session` once the store is warm. -/
def start (symbols : List String) (provider : String) (maxBars : Option ℕ) (store : RollingBarStore) :
    Pipeline where
  daemon := { symbols, provider }
  maxBars := maxBars
  store := store

variable (p : Pipeline)

def wake (answers : List (Except FetchError (Option Candle))) : Pipeline :=
  match p.phase with
  | .asleep =>
    if p.daemon.stopped then { p with phase := .ended (.ok p.published) }
    else
      { p with phase := .sweeping (p.daemon.symbols.zipWith
          (fun symbol answer => (symbol, fetchLatestCompletedBar symbol answer)) answers) }
  | _ => p

def look (callbackRaises : Bool) : Pipeline × List Mark :=
  match p.phase with
  | .sweeping ((symbol, outcome) :: rest) =>
    if p.daemon.stopped then ({ p with phase := .asleep }, [])
    else
      let looked := p.daemon.look symbol outcome callbackRaises
      let next := { p with daemon := looked.1, queue := p.queue ++ looked.2.1.filterMap Call.event? }
      let marks := Mark.fetched symbol outcome :: looked.2.1.map Mark.called
      match looked.2.2 with
      | .error failure => ({ next with phase := .ended (.error failure) }, marks)
      | .ok false => ({ next with phase := .sweeping rest }, marks)
      | .ok true =>
        if reachesLimit p.maxBars (p.published + 1) then
          ({ next with daemon := looked.1.stop, published := p.published + 1, phase := .asleep }, marks)
        else
          ({ next with published := p.published + 1, phase := .sweeping rest }, marks)
  | .sweeping [] => ({ p with phase := .asleep }, [])
  | _ => (p, [])

/-- The main loop of `run_session`: it leaves at the limit, and stops the daemon. -/
def route : Pipeline :=
  match p.routing, p.queue with
  | true, event :: rest =>
    let routed := { p with
      queue := rest
      symbolQueues := Function.update p.symbolQueues event.symbol (p.symbolQueues event.symbol ++ [event])
      seen := p.seen + 1 }
    if reachesLimit p.maxBars (p.seen + 1) then { routed with daemon := p.daemon.stop, routing := false }
    else routed
  | _, _ => p

/-- `_symbol_worker` with the guard of `_handle_bar_event`, which has no await before the append. -/
def work (symbol : String) : Pipeline × List Mark :=
  match p.symbolQueues symbol with
  | [] => (p, [])
  | event :: rest =>
    let taken := { p with symbolQueues := Function.update p.symbolQueues symbol rest }
    if ∃ latest ∈ p.store.latest event.bar.symbol, event.bar.timestamp ≤ latest.timestamp then
      (taken, [.handled event])
    else
      ({ taken with store := p.store.append event.bar }, [.handled event, .evaluated event.bar])

def step : Turn → Pipeline × List Mark
  | .stop => ({ p with daemon := p.daemon.stop }, [])
  | .wake answers => (p.wake answers, [])
  | .look callbackRaises => p.look callbackRaises
  | .route => (p.route, [])
  | .work symbol => p.work symbol

/-- A schedule of turns, with the marks it leaves. A task that cannot move lets its turn pass. -/
def run (p : Pipeline) : List Turn → Pipeline × List Mark
  | [] => (p, [])
  | turn :: rest =>
    let next := p.step turn
    let final := next.1.run rest
    (final.1, next.2 ++ final.2)

end Pipeline

end Bhiksha.Feed
