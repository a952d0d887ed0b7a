import Bhiksha.Library.Rising
import Bhiksha.App.BarPipeline

/-! What the strategies see of a symbol: in whatever order the daemon, the main loop and the workers move,
the bars evaluated are the fetched ones that are later than the warm start and than every bar before them. -/

namespace Bhiksha.Feed

open Library

section Store

variable {store : RollingBarStore} {limit : ℕ} {bars : List Bar} {bar : Bar} {symbol other : String}

theorem keepLast_append_of_le {front : List Bar} (h : limit ≤ bars.length) :
    keepLast limit (front ++ bars) = keepLast limit bars := by
  unfold keepLast
  have hlength : (front ++ bars).length - limit = front.length + (bars.length - limit) := by
    rw [List.length_append]
    omega
  rw [hlength, List.drop_append, List.drop_eq_nil_of_le (Nat.le_add_right _ _), List.nil_append,
    Nat.add_sub_cancel_left]

theorem keepLast_of_le (h : bars.length ≤ limit) : keepLast limit bars = bars := by
  unfold keepLast
  rw [Nat.sub_eq_zero_of_le h, List.drop_zero]

/-- A window that is kept bar by bar is the window of the whole history. -/
theorem keepLast_append_keepLast (limit : ℕ) (bars : List Bar) (bar : Bar) :
    keepLast limit (keepLast limit bars ++ [bar]) = keepLast limit (bars ++ [bar]) := by
  by_cases hfull : limit ≤ bars.length
  · have hkept : (keepLast limit bars).length = limit := by
      rw [keepLast, List.length_drop]
      omega
    have hsplit : bars ++ [bar] =
        bars.take (bars.length - limit) ++ (keepLast limit bars ++ [bar]) := by
      rw [keepLast, ← List.append_assoc, List.take_append_drop]
    have hroom : limit ≤ (keepLast limit bars ++ [bar]).length := by
      rw [List.length_append, hkept]
      exact Nat.le_add_right limit _
    rw [hsplit, keepLast_append_of_le hroom]
  · have hroom : bars.length ≤ limit := by omega
    rw [keepLast_of_le hroom]

theorem getLast?_keepLast (h : 0 < limit) (bars : List Bar) :
    (keepLast limit bars).getLast? = bars.getLast? := by
  unfold keepLast
  rw [List.getLast?_drop]
  cases bars with
  | nil => rfl
  | cons first rest =>
    apply if_neg
    rw [List.length_cons]
    omega

theorem get_append (store : RollingBarStore) (bar : Bar) (symbol : String) :
    (store.append bar).get symbol =
      if symbol = bar.symbol then keepLast store.maxBarsPerSymbol (store.get symbol ++ [bar])
      else store.get symbol := by
  unfold RollingBarStore.append RollingBarStore.appendTo
  rw [RollingBarStore.get, lookup_put]
  by_cases hsymbol : symbol = bar.symbol
  · rw [if_pos hsymbol, if_pos hsymbol, hsymbol, Option.getD_some]
  · rw [if_neg hsymbol, if_neg hsymbol, RollingBarStore.get]

theorem length_get_le (store : RollingBarStore) (symbol : String) :
    (store.get symbol).length ≤ store.maxBarsPerSymbol := by
  unfold RollingBarStore.get
  cases hlookup : store.bars.lookup symbol with
  | none => exact Nat.zero_le _
  | some bars => exact store.bounded (symbol, bars) (mem_of_lookup hlookup)

end Store

/-! ### One look of the daemon -/

section Look

variable {d : DataIngestionDaemon} {symbol : String} {outcome : Outcome} {callbackRaises : Bool}

/-- What a look does to the bars of its symbol: it publishes a bar that is new, or it holds none back that
is, unless it fails. -/
inductive Looks (d : DataIngestionDaemon) (symbol : String) (outcome : Outcome) :
    DataIngestionDaemon → List Call → Except Failure Bool → Prop where
  | failed {next : DataIngestionDaemon} {calls : List Call} {failure : Failure}
      (hcalls : calls.filterMap Call.event? = []) : Looks d symbol outcome next calls (.error failure)
  | quiet {next : DataIngestionDaemon} {calls : List Call} (hcalls : calls.filterMap Call.event? = [])
      (hseen : next.lastSeen = d.lastSeen)
      (hold : ∀ bar, outcome = .ok (some bar) → ¬After (d.lastSeen.lookup symbol) bar.timestamp) :
      Looks d symbol outcome next calls (.ok false)
  | fresh {next : DataIngestionDaemon} {calls : List Call} {bar : Bar} (houtcome : outcome = .ok (some bar))
      (hcalls : calls.filterMap Call.event? = [⟨symbol, "1m", d.provider, bar⟩])
      (hnew : After (d.lastSeen.lookup symbol) bar.timestamp)
      (hseen : next.lastSeen = put symbol bar.timestamp d.lastSeen) :
      Looks d symbol outcome next calls (.ok true)

theorem looks (d : DataIngestionDaemon) (symbol : String) (outcome : Outcome) (callbackRaises : Bool) :
    Looks d symbol outcome (d.look symbol outcome callbackRaises).1
      (d.look symbol outcome callbackRaises).2.1 (d.look symbol outcome callbackRaises).2.2 := by
  unfold DataIngestionDaemon.look
  cases outcome with
  | error exc =>
    simp only
    by_cases hretry : isRetryableProviderError exc = true
    · rw [if_pos hretry]
      by_cases hreports : d.reportsErrors = true
      · rw [if_pos hreports]
        cases callbackRaises with
        | true => exact .failed rfl
        | false => exact .quiet rfl rfl (fun bar h => by cases h)
      · rw [if_neg hreports]
        exact .quiet rfl rfl (fun bar h => by cases h)
    · rw [if_neg hretry]
      exact .failed rfl
  | ok fetched =>
    simp only
    have hnotices (h : Prop) [Decidable h] :
        (if h then [Call.onFetchRecovered symbol d.provider] else []).filterMap Call.event? = [] := by
      split <;> rfl
    by_cases hraises : (symbol ∈ d.degradedSymbols ∧ d.reportsRecoveries = true) ∧ callbackRaises = true
    · rw [if_pos hraises]
      exact .failed (hnotices _)
    · rw [if_neg hraises]
      cases fetched with
      | none => exact .quiet (hnotices _) rfl (fun bar h => by cases h)
      | some bar =>
        simp only
        by_cases hold : ∃ previous ∈ d.lastSeen.lookup symbol, bar.timestamp ≤ previous
        · rw [if_pos hold]
          refine .quiet (hnotices _) rfl ?_
          rintro _ ⟨⟩ hafter
          obtain ⟨previous, hprevious, hle⟩ := hold
          exact absurd (hafter previous hprevious) (not_lt.mpr hle)
        · rw [if_neg hold]
          refine .fresh rfl ?_ ?_ rfl
          · rw [List.filterMap_append, hnotices]
            rfl
          · intro previous hprevious
            exact not_le.mp fun hle => hold ⟨previous, hprevious, hle⟩

end Look

/-! ### The flow of one symbol -/

section Flow

variable {start : RollingBarStore} {symbol : String} {marks : List Mark} {p : Pipeline}

def fetchedBar? (symbol : String) : Mark → Option Bar
  | .fetched asked (.ok (some bar)) => if asked = symbol then some bar else none
  | _ => none

def publishedBar? (symbol : String) : Mark → Option Bar
  | .called (.publish event) => if event.symbol = symbol then some event.bar else none
  | _ => none

def handledBar? (symbol : String) : Mark → Option Bar
  | .handled event => if event.symbol = symbol then some event.bar else none
  | _ => none

def evaluatedBar? (symbol : String) : Mark → Option Bar
  | .evaluated bar => if bar.symbol = symbol then some bar else none
  | _ => none

/-- The bars fetched for a symbol, in the order in which the daemon came to them. -/
def fetchedBars (symbol : String) (marks : List Mark) : List Bar := marks.filterMap (fetchedBar? symbol)

def publishedBars (symbol : String) (marks : List Mark) : List Bar :=
  marks.filterMap (publishedBar? symbol)

def handledBars (symbol : String) (marks : List Mark) : List Bar := marks.filterMap (handledBar? symbol)

/-- The bars of a symbol that its worker stored and evaluated, in the order in which it did. -/
def evaluatedBars (symbol : String) (marks : List Mark) : List Bar :=
  marks.filterMap (evaluatedBar? symbol)

def eventBars (symbol : String) (events : List BarClosedEvent) : List Bar :=
  (events.filter fun event => event.symbol = symbol).map BarClosedEvent.bar

/-- An exception has ended `run`. -/
def Pipeline.Failed (p : Pipeline) : Prop := ∃ failure, p.phase = .ended (.error failure)

abbrev Bar.time (bar : Bar) : Time := bar.timestamp

theorem Pipeline.not_failed {p : Pipeline} (h : p.phase = .asleep ∨ ∃ rest, p.phase = .sweeping rest) :
    ¬p.Failed := by
  rintro ⟨failure, hfailure⟩
  rcases h with h | ⟨rest, h⟩
  · rw [h] at hfailure
    cases hfailure
  · rw [h] at hfailure
    cases hfailure

/-- The time that a bar has to pass in the store at the start. -/
def warmTime (start : RollingBarStore) (symbol : String) : Option Time :=
  (start.latest symbol).map Bar.time

/-- What the daemon did with the bars of a symbol that it was given: it published those that rise, but for
what an exception made it lose, and remembers the last of them. -/
def Heard (failed : Prop) (seen : Option Time) (fetched published : List Bar) : Prop :=
  ∃ lost, rising Bar.time none fetched = published ++ lost ∧
    (¬failed → lost = [] ∧ seen = reached Bar.time none fetched)

/-- Where the bars of a symbol are. -/
structure Flow (start : RollingBarStore) (symbol : String) (marks : List Mark) (p : Pipeline) : Prop where
  agenda : ∀ rest, p.phase = .sweeping rest → ∀ pair ∈ rest, ∀ bar, pair.2 = .ok (some bar) →
    bar.symbol = pair.1
  bus : ∀ event ∈ p.queue, event.bar.symbol = event.symbol
  lanes : ∀ lane, ∀ event ∈ p.symbolQueues lane, event.symbol = lane ∧ event.bar.symbol = lane
  published : Heard p.Failed (p.daemon.lastSeen.lookup symbol) (fetchedBars symbol marks)
    (publishedBars symbol marks)
  queued : publishedBars symbol marks = handledBars symbol marks ++
    (p.symbolQueues symbol).map BarClosedEvent.bar ++ eventBars symbol p.queue
  evaluated : evaluatedBars symbol marks =
    rising Bar.time (warmTime start symbol) (handledBars symbol marks)
  stored : p.store.get symbol = keepLast start.maxBarsPerSymbol (start.get symbol ++ evaluatedBars symbol marks)
  capacity : p.store.maxBarsPerSymbol = start.maxBarsPerSymbol

theorem fetchedBars_append (earlier later : List Mark) :
    fetchedBars symbol (earlier ++ later) = fetchedBars symbol earlier ++ fetchedBars symbol later :=
  List.filterMap_append ..

theorem publishedBars_append (earlier later : List Mark) :
    publishedBars symbol (earlier ++ later) = publishedBars symbol earlier ++ publishedBars symbol later :=
  List.filterMap_append ..

theorem handledBars_append (earlier later : List Mark) :
    handledBars symbol (earlier ++ later) = handledBars symbol earlier ++ handledBars symbol later :=
  List.filterMap_append ..

theorem evaluatedBars_append (earlier later : List Mark) :
    evaluatedBars symbol (earlier ++ later) = evaluatedBars symbol earlier ++ evaluatedBars symbol later :=
  List.filterMap_append ..

theorem publishedBars_called (calls : List Call) :
    publishedBars symbol (calls.map Mark.called) = eventBars symbol (calls.filterMap Call.event?) := by
  induction calls with
  | nil => rfl
  | cons call rest ih =>
    cases call with
    | onFetchError => exact ih
    | onFetchRecovered => exact ih
    | publish event =>
      unfold publishedBars eventBars at ih ⊢
      rw [List.map_cons, List.filterMap_cons, List.filterMap_cons]
      by_cases hsymbol : event.symbol = symbol
      · simp [publishedBar?, Call.event?, hsymbol, ih]
      · simp [publishedBar?, Call.event?, hsymbol, ih]

theorem called_quiet (calls : List Call) :
    fetchedBars symbol (calls.map Mark.called) = [] ∧ handledBars symbol (calls.map Mark.called) = [] ∧
      evaluatedBars symbol (calls.map Mark.called) = [] := by
  induction calls with
  | nil => exact ⟨rfl, rfl, rfl⟩
  | cons call rest ih => exact ih

theorem eventBars_append (earlier later : List BarClosedEvent) :
    eventBars symbol (earlier ++ later) = eventBars symbol earlier ++ eventBars symbol later := by
  unfold eventBars
  rw [List.filter_append, List.map_append]

theorem flow_start (symbols : List String) (provider : String) (maxBars : Option ℕ)
    (store : RollingBarStore) (symbol : String) :
    Flow store symbol [] (.start symbols provider maxBars store) where
  agenda rest h := by cases h
  bus event h := absurd h List.not_mem_nil
  lanes lane event h := absurd h List.not_mem_nil
  published := ⟨[], rfl, fun _ => ⟨rfl, rfl⟩⟩
  queued := rfl
  evaluated := rfl
  stored := by
    have hroom := length_get_le store symbol
    rw [show evaluatedBars symbol [] = [] from rfl, List.append_nil, keepLast_of_le hroom]
    rfl
  capacity := rfl

theorem Flow.stop (h : Flow start symbol marks p) :
    Flow start symbol marks { p with daemon := p.daemon.stop } :=
  { h with }

theorem fetchLatestCompletedBar_symbol {answer : Except FetchError (Option Candle)} {bar : Bar}
    (h : fetchLatestCompletedBar symbol answer = .ok (some bar)) : bar.symbol = symbol := by
  cases answer with
  | error exc => cases h
  | ok candle =>
    cases candle with
    | none => cases h
    | some candle =>
      cases h
      rfl

theorem Flow.wake (h : Flow start symbol marks p) (answers : List (Except FetchError (Option Candle))) :
    Flow start symbol marks (p.wake answers) := by
  unfold Pipeline.wake
  cases hphase : p.phase with
  | sweeping rest => exact h
  | ended result => exact h
  | asleep =>
    have hrunning : ¬p.Failed := Pipeline.not_failed (Or.inl hphase)
    obtain ⟨lost, hlost, hall⟩ := h.published
    simp only
    split
    · exact { h with
        agenda := fun rest hrest => by cases hrest
        published := ⟨lost, hlost, fun _ => hall hrunning⟩ }
    · refine { h with
        agenda := ?_
        published := ⟨lost, hlost, fun _ => hall hrunning⟩ }
      rintro _ ⟨⟩ pair hpair bar hbar
      obtain ⟨i, hi, rfl⟩ := List.mem_iff_getElem.mp hpair
      rw [List.getElem_zipWith] at hbar ⊢
      exact fetchLatestCompletedBar_symbol hbar

theorem Flow.route (h : Flow start symbol marks p) : Flow start symbol marks p.route := by
  unfold Pipeline.route
  cases hrouting : p.routing with
  | false => exact h
  | true =>
    cases hqueue : p.queue with
    | nil => exact h
    | cons event rest =>
      have hevent : event.bar.symbol = event.symbol := h.bus event (hqueue ▸ List.mem_cons_self)
      have hbus : ∀ other ∈ rest, other.bar.symbol = other.symbol := by
        intro other hother
        exact h.bus other (hqueue ▸ List.mem_cons_of_mem event hother)
      have hlanes : ∀ lane, ∀ other ∈ Function.update p.symbolQueues event.symbol
          (p.symbolQueues event.symbol ++ [event]) lane, other.symbol = lane ∧ other.bar.symbol = lane := by
        intro lane other hother
        by_cases hlane : lane = event.symbol
        · subst hlane
          rw [Function.update_self] at hother
          rcases List.mem_append.mp hother with hold | hnew
          · exact h.lanes event.symbol other hold
          · obtain rfl := List.mem_singleton.mp hnew
            exact ⟨rfl, hevent⟩
        · rw [Function.update_of_ne hlane] at hother
          exact h.lanes lane other hother
      have hqueued : publishedBars symbol marks = handledBars symbol marks ++
          (Function.update p.symbolQueues event.symbol (p.symbolQueues event.symbol ++ [event])
            symbol).map BarClosedEvent.bar ++ eventBars symbol rest := by
        rw [h.queued, hqueue]
        by_cases hsymbol : event.symbol = symbol
        · subst hsymbol
          rw [Function.update_self]
          simp [eventBars]
        · rw [Function.update_of_ne (Ne.symm hsymbol)]
          simp [eventBars, hsymbol]
      simp only
      split
      · exact { h with
          bus := hbus
          lanes := hlanes
          queued := hqueued }
      · exact { h with
          bus := hbus
          lanes := hlanes
          queued := hqueued }

/-- The guard of `_handle_bar_event` is the one that thins the stream. -/
theorem Flow.guard (h : Flow start symbol marks p) {event : BarClosedEvent} {rest : List BarClosedEvent}
    (hlane : p.symbolQueues symbol = event :: rest) :
    (∃ latest ∈ p.store.latest symbol, event.bar.timestamp ≤ latest.timestamp) ↔
      ¬After (reached Bar.time (warmTime start symbol) (handledBars symbol marks)) event.bar.time := by
  by_cases hcapacity : 0 < start.maxBarsPerSymbol
  · have hlatest : reached Bar.time (warmTime start symbol) (handledBars symbol marks) =
        (p.store.latest symbol).map Bar.time := by
      rw [reached_eq_getLast, ← h.evaluated]
      unfold RollingBarStore.latest
      rw [h.stored, getLast?_keepLast hcapacity, List.getLast?_append]
      cases (evaluatedBars symbol marks).getLast? with
      | none => rfl
      | some bar => rfl
    rw [hlatest]
    unfold After
    simp
  · -- Without room nothing is stored, and the daemon has already thinned the stream.
    have hempty (store : RollingBarStore) (hstore : store.maxBarsPerSymbol = 0) :
        store.latest symbol = none := by
      have hlength := length_get_le store symbol
      rw [hstore, Nat.le_zero, List.length_eq_zero_iff] at hlength
      rw [RollingBarStore.latest, hlength, List.getLast?_nil]
    have hzero : start.maxBarsPerSymbol = 0 := by omega
    have hwarm : warmTime start symbol = none := by
      rw [warmTime, hempty start hzero, Option.map_none]
    obtain ⟨lost, hlost, -⟩ := h.published
    have hrises : (rising Bar.time none (fetchedBars symbol marks)).Pairwise fun a b => a.time < b.time :=
      pairwise_rising _ _
    rw [hlost, h.queued, hlane, List.map_cons] at hrises
    have hnew : After (reached Bar.time (warmTime start symbol) (handledBars symbol marks)) event.bar.time := by
      intro t ht
      rw [hwarm, reached_eq_getLast, Option.or_none] at ht
      obtain ⟨bar, hbar, rfl⟩ := Option.map_eq_some_iff.mp ht
      have hmem : bar ∈ handledBars symbol marks :=
        (rising_sublist _ _).subset (List.mem_of_getLast? hbar)
      simp only [List.append_assoc, List.cons_append] at hrises
      exact (List.pairwise_append.mp hrises).2.2 bar hmem event.bar List.mem_cons_self
    have hnone := hempty p.store (h.capacity.trans hzero)
    rw [hnone]
    simp [hnew]

theorem handledBars_handled (event : BarClosedEvent) (rest : List Mark) :
    handledBars symbol (.handled event :: rest) =
      (if event.symbol = symbol then [event.bar] else []) ++ handledBars symbol rest := by
  unfold handledBars
  rw [List.filterMap_cons]
  by_cases hsymbol : event.symbol = symbol <;> simp [handledBar?, hsymbol]

theorem Flow.work (h : Flow start symbol marks p) (lane : String) :
    Flow start symbol (marks ++ (p.work lane).2) (p.work lane).1 := by
  unfold Pipeline.work
  cases hlane : p.symbolQueues lane with
  | nil =>
    rw [List.append_nil]
    exact h
  | cons event rest =>
    obtain ⟨hevent, hbar⟩ := h.lanes lane event (hlane ▸ List.mem_cons_self)
    have hlanes : ∀ other, ∀ e ∈ Function.update p.symbolQueues lane rest other,
        e.symbol = other ∧ e.bar.symbol = other := by
      intro other e he
      by_cases hother : other = lane
      · subst hother
        rw [Function.update_self] at he
        exact h.lanes other e (hlane ▸ List.mem_cons_of_mem event he)
      · rw [Function.update_of_ne hother] at he
        exact h.lanes other e he
    have hqueued (more : List Mark) (hpublished : publishedBars symbol more = [])
        (hhandled : handledBars symbol more = if lane = symbol then [event.bar] else []) :
        publishedBars symbol (marks ++ more) = handledBars symbol (marks ++ more) ++
          (Function.update p.symbolQueues lane rest symbol).map BarClosedEvent.bar ++
            eventBars symbol p.queue := by
      rw [publishedBars_append, handledBars_append, hpublished, hhandled, List.append_nil, h.queued]
      by_cases hsymbol : lane = symbol
      · subst hsymbol
        rw [Function.update_self, if_pos rfl, hlane]
        simp
      · rw [Function.update_of_ne (Ne.symm hsymbol), if_neg hsymbol, List.append_nil]
    simp only
    rw [hbar]
    by_cases hsymbol : lane = symbol
    · subst hsymbol
      have hguard := h.guard hlane
      by_cases hold : ∃ latest ∈ p.store.latest lane, event.bar.timestamp ≤ latest.timestamp
      · rw [if_pos hold]
        have hhandled : handledBars lane [.handled event] = [event.bar] := by
          rw [handledBars_handled, if_pos hevent]
          rfl
        have hevaluated : evaluatedBars lane (marks ++ [.handled event]) = evaluatedBars lane marks := by
          rw [evaluatedBars_append]
          exact List.append_nil _
        have hquiet : fetchedBars lane [.handled event] = [] ∧ publishedBars lane [.handled event] = [] :=
          ⟨rfl, rfl⟩
        refine { h with
          lanes := hlanes
          published := ?_
          queued := hqueued _ rfl (by rw [hhandled, if_pos rfl])
          evaluated := ?_
          stored := ?_ }
        · rw [fetchedBars_append, publishedBars_append, hquiet.1, hquiet.2, List.append_nil, List.append_nil]
          exact h.published
        · rw [hevaluated, handledBars_append, hhandled, rising_append, ← h.evaluated, rising,
            if_neg (hguard.mp hold)]
          exact (List.append_nil _).symm
        · rw [hevaluated]
          exact h.stored
      · rw [if_neg hold]
        have hhandled : handledBars lane [.handled event, .evaluated event.bar] = [event.bar] := by
          rw [handledBars_handled, if_pos hevent]
          rfl
        have hevaluated : evaluatedBars lane (marks ++ [.handled event, .evaluated event.bar]) =
            evaluatedBars lane marks ++ [event.bar] := by
          have hnew : evaluatedBars lane [.evaluated event.bar] = [event.bar] := by
            rw [evaluatedBars, List.filterMap_cons, evaluatedBar?, if_pos hbar]
            rfl
          rw [evaluatedBars_append, ← hnew]
          rfl
        have hquiet : fetchedBars lane [.handled event, .evaluated event.bar] = [] ∧
            publishedBars lane [.handled event, .evaluated event.bar] = [] := ⟨rfl, rfl⟩
        refine { h with
          lanes := hlanes
          published := ?_
          queued := hqueued _ rfl (by rw [hhandled, if_pos rfl])
          evaluated := ?_
          stored := ?_
          capacity := h.capacity }
        · rw [fetchedBars_append, publishedBars_append, hquiet.1, hquiet.2, List.append_nil, List.append_nil]
          exact h.published
        · rw [hevaluated, handledBars_append, hhandled, rising_append, ← h.evaluated, rising,
            if_pos (not_not.mp fun hnew => hold (hguard.mpr hnew))]
          rfl
        · rw [hevaluated, get_append, if_pos hbar.symm, h.stored, h.capacity, ← List.append_assoc,
            keepLast_append_keepLast]
    · -- Another lane's bar is of another symbol.
      have hother : event.symbol ≠ symbol := fun heq => hsymbol (hevent.symm.trans heq)
      have hforeign : event.bar.symbol ≠ symbol := fun heq => hsymbol (hbar.symm.trans heq)
      have hquiet (more : List Mark) (hmore : more = [.handled event] ∨
          more = [.handled event, .evaluated event.bar]) :
          fetchedBars symbol more = [] ∧ publishedBars symbol more = [] ∧ handledBars symbol more = [] ∧
            evaluatedBars symbol more = [] := by
        rcases hmore with rfl | rfl
        · simp [fetchedBars, publishedBars, handledBars, evaluatedBars, fetchedBar?, publishedBar?,
            handledBar?, evaluatedBar?, hother]
        · simp [fetchedBars, publishedBars, handledBars, evaluatedBars, fetchedBar?, publishedBar?,
            handledBar?, evaluatedBar?, hother, hforeign]
      have hframe (store : RollingBarStore) (more : List Mark) (hmore : more = [.handled event] ∨
          more = [.handled event, .evaluated event.bar]) (hget : store.get symbol = p.store.get symbol)
          (hroom : store.maxBarsPerSymbol = p.store.maxBarsPerSymbol) :
          Flow start symbol (marks ++ more) { p with
            symbolQueues := Function.update p.symbolQueues lane rest
            store := store } := by
        obtain ⟨hfetched, hpublished, hhandled, hevaluated⟩ := hquiet more hmore
        refine { h with
          lanes := hlanes
          published := ?_
          queued := hqueued more hpublished (by rw [hhandled, if_neg hsymbol])
          evaluated := ?_
          stored := ?_
          capacity := hroom.trans h.capacity }
        · rw [fetchedBars_append, publishedBars_append, hfetched, hpublished, List.append_nil, List.append_nil]
          exact h.published
        · rw [evaluatedBars_append, handledBars_append, hevaluated, hhandled, List.append_nil, List.append_nil]
          exact h.evaluated
        · rw [evaluatedBars_append, hevaluated, List.append_nil]
          exact hget.trans h.stored
      split
      · exact hframe p.store _ (Or.inl rfl) rfl rfl
      · refine hframe (p.store.append event.bar) _ (Or.inr rfl) ?_ rfl
        rw [get_append, if_neg (Ne.symm hforeign)]

theorem fetchedBars_fetched (bar : Bar) : fetchedBars symbol [.fetched symbol (.ok (some bar))] = [bar] := by
  rw [fetchedBars, List.filterMap_cons, fetchedBar?, if_pos rfl, List.filterMap_nil]

/-- A bar that is held back adds nothing, and nothing is added where there is no bar. -/
theorem thinned_quiet {seen : Option Time} {outcome : Outcome}
    (hold : ∀ bar, outcome = .ok (some bar) → ¬After seen bar.timestamp) :
    rising Bar.time seen (fetchedBars symbol [.fetched symbol outcome]) = [] ∧
      reached Bar.time seen (fetchedBars symbol [.fetched symbol outcome]) = seen := by
  cases outcome with
  | error exc => exact ⟨rfl, rfl⟩
  | ok fetched =>
    cases fetched with
    | none => exact ⟨rfl, rfl⟩
    | some bar =>
      have hbar := hold bar rfl
      rw [fetchedBars_fetched, rising, reached, if_neg hbar, if_neg hbar]
      exact ⟨rfl, rfl⟩

theorem Looks.stop {d next : DataIngestionDaemon} {outcome : Outcome} {calls : List Call}
    {result : Except Failure Bool} (h : Looks d symbol outcome next calls result) :
    Looks d symbol outcome next.stop calls result := by
  cases h with
  | failed hcalls => exact .failed hcalls
  | quiet hcalls hseen hold => exact .quiet hcalls hseen hold
  | fresh houtcome hcalls hnew hseen => exact .fresh houtcome hcalls hnew hseen

/-- A look of the symbol itself. -/
theorem Heard.look {fetched published : List Bar} {d next : DataIngestionDaemon}
    {outcome : Outcome} {calls : List Call} {result : Except Failure Bool}
    (h : Heard False (d.lastSeen.lookup symbol) fetched published)
    (hlooks : Looks d symbol outcome next calls result) :
    Heard (∃ failure, result = .error failure) (next.lastSeen.lookup symbol)
      (fetched ++ fetchedBars symbol [.fetched symbol outcome])
      (published ++ eventBars symbol (calls.filterMap Call.event?)) := by
  obtain ⟨lost, hlost, hall⟩ := h
  obtain ⟨rfl, hseen⟩ := hall not_false
  rw [List.append_nil] at hlost
  unfold Heard
  rw [rising_append, reached_append, ← hseen, hlost]
  cases hlooks with
  | @failed failure hcalls =>
    refine ⟨rising Bar.time (d.lastSeen.lookup symbol) (fetchedBars symbol [.fetched symbol outcome]), ?_,
      fun hgood => absurd ⟨failure, rfl⟩ hgood⟩
    rw [hcalls, eventBars, List.filter_nil, List.map_nil, List.append_nil]
  | quiet hcalls hsame hold =>
    obtain ⟨hnone, hsee⟩ := @thinned_quiet symbol (d.lastSeen.lookup symbol) outcome hold
    refine ⟨[], ?_, fun _ => ⟨rfl, ?_⟩⟩
    · rw [hcalls, hnone, eventBars, List.filter_nil, List.map_nil, List.append_nil, List.append_nil]
    · rw [hsame, hsee]
  | @fresh bar houtcome hcalls hnew hsame =>
    subst houtcome
    rw [fetchedBars_fetched, rising, reached, if_pos hnew, if_pos hnew]
    refine ⟨[], ?_, fun _ => ⟨rfl, ?_⟩⟩
    · rw [hcalls]
      simp [eventBars, rising]
    · rw [hsame, lookup_put, if_pos rfl]
      rfl

theorem eventBars_looks {d next : DataIngestionDaemon} {asked : String} {outcome : Outcome}
    {calls : List Call} {result : Except Failure Bool} (hlooks : Looks d asked outcome next calls result)
    (hne : asked ≠ symbol) : eventBars symbol (calls.filterMap Call.event?) = [] := by
  cases hlooks with
  | failed hcalls => rw [hcalls]; rfl
  | quiet hcalls => rw [hcalls]; rfl
  | fresh houtcome hcalls =>
    rw [hcalls, eventBars, List.filter_cons_of_neg (by simpa using hne)]
    rfl

theorem lookup_looks {d next : DataIngestionDaemon} {asked : String} {outcome : Outcome}
    {calls : List Call} {result : Except Failure Bool} (hlooks : Looks d asked outcome next calls result)
    (hne : asked ≠ symbol) (hgood : ¬∃ failure, result = .error failure) :
    next.lastSeen.lookup symbol = d.lastSeen.lookup symbol := by
  cases hlooks with
  | failed => exact absurd ⟨_, rfl⟩ hgood
  | quiet _ hsame => rw [hsame]
  | fresh _ _ _ hsame => rw [hsame, lookup_put, if_neg (Ne.symm hne)]

/-- What a look leaves of the flow, whatever becomes of the loop after it. -/
theorem Flow.looked (h : Flow start symbol marks p) {asked : String} {outcome : Outcome}
    {rest : List (String × Outcome)} (hphase : p.phase = .sweeping ((asked, outcome) :: rest))
    {calls : List Call} {result : Except Failure Bool} {next : Pipeline}
    (hlooks : Looks p.daemon asked outcome next.daemon calls result)
    (hagenda : ∀ left, next.phase = .sweeping left → left = rest)
    (hfailed : next.Failed ↔ ∃ failure, result = .error failure)
    (hqueue : next.queue = p.queue ++ calls.filterMap Call.event?)
    (hlanes : next.symbolQueues = p.symbolQueues) (hstore : next.store = p.store) :
    Flow start symbol (marks ++ (.fetched asked outcome :: calls.map Mark.called)) next := by
  have hrunning : ¬p.Failed := Pipeline.not_failed (Or.inr ⟨_, hphase⟩)
  have hnamed := h.agenda _ hphase
  obtain ⟨hnofetch, hnohandled, hnoevaluated⟩ := @called_quiet symbol calls
  have hpublished : publishedBars symbol (marks ++ (.fetched asked outcome :: calls.map Mark.called)) =
      publishedBars symbol marks ++ eventBars symbol (calls.filterMap Call.event?) := by
    rw [publishedBars_append, ← publishedBars_called]
    rfl
  have hfetched : fetchedBars symbol (marks ++ (.fetched asked outcome :: calls.map Mark.called)) =
      fetchedBars symbol marks ++ fetchedBars symbol [.fetched asked outcome] := by
    have hcalls : fetchedBars symbol (.fetched asked outcome :: calls.map Mark.called) =
        fetchedBars symbol [.fetched asked outcome] ++ fetchedBars symbol (calls.map Mark.called) :=
      fetchedBars_append [.fetched asked outcome] _
    rw [fetchedBars_append, hcalls, hnofetch, List.append_nil]
  have hhandled : handledBars symbol (marks ++ (.fetched asked outcome :: calls.map Mark.called)) =
      handledBars symbol marks := by
    rw [handledBars_append]
    exact (congrArg _ hnohandled).trans (List.append_nil _)
  have hevaluated : evaluatedBars symbol (marks ++ (.fetched asked outcome :: calls.map Mark.called)) =
      evaluatedBars symbol marks := by
    rw [evaluatedBars_append]
    exact (congrArg _ hnoevaluated).trans (List.append_nil _)
  constructor
  · intro left hleft pair hpair
    rw [hagenda left hleft] at hpair
    exact hnamed pair (List.mem_cons_of_mem _ hpair)
  · intro event hevent
    rw [hqueue] at hevent
    rcases List.mem_append.mp hevent with hold | hnew
    · exact h.bus event hold
    · cases hlooks with
      | failed hcalls =>
        rw [hcalls] at hnew
        cases hnew
      | quiet hcalls =>
        rw [hcalls] at hnew
        cases hnew
      | fresh houtcome hcalls =>
        rw [hcalls] at hnew
        obtain rfl := List.mem_singleton.mp hnew
        exact hnamed _ List.mem_cons_self _ houtcome
  · rw [hlanes]
    exact h.lanes
  · rw [hpublished, hfetched, hfailed]
    have hheard : Heard False (p.daemon.lastSeen.lookup symbol) (fetchedBars symbol marks)
        (publishedBars symbol marks) := by
      obtain ⟨lost, hlost, hall⟩ := h.published
      exact ⟨lost, hlost, fun _ => hall hrunning⟩
    by_cases hsymbol : asked = symbol
    · subst hsymbol
      exact hheard.look hlooks
    · -- Nothing of another symbol's look is about this one.
      have hnone : fetchedBars symbol [.fetched asked outcome] = [] := by
        cases outcome with
        | error exc => rfl
        | ok fetched =>
          cases fetched with
          | none => rfl
          | some bar => rw [fetchedBars, List.filterMap_cons, fetchedBar?, if_neg hsymbol]; rfl
      obtain ⟨lost, hlost, hall⟩ := hheard
      rw [hnone, eventBars_looks hlooks hsymbol, List.append_nil, List.append_nil]
      refine ⟨lost, hlost, fun hgood => ?_⟩
      rw [lookup_looks hlooks hsymbol hgood]
      exact hall not_false
  · rw [hpublished, hhandled, hlanes, hqueue, eventBars_append, h.queued]
    simp only [List.append_assoc]
  · rw [hevaluated, hhandled]
    exact h.evaluated
  · rw [hevaluated, hstore]
    exact h.stored
  · rw [hstore]
    exact h.capacity

theorem Flow.look (h : Flow start symbol marks p) (callbackRaises : Bool) :
    Flow start symbol (marks ++ (p.look callbackRaises).2) (p.look callbackRaises).1 := by
  have hasleep : ¬p.Failed → Flow start symbol (marks ++ []) { p with phase := .asleep } := by
    intro hrunning
    obtain ⟨lost, hlost, hall⟩ := h.published
    rw [List.append_nil]
    exact { h with
      agenda := fun rest hrest => by cases hrest
      published := ⟨lost, hlost, fun _ => hall hrunning⟩ }
  unfold Pipeline.look
  cases hphase : p.phase with
  | asleep =>
    rw [List.append_nil]
    exact h
  | ended result =>
    rw [List.append_nil]
    exact h
  | sweeping agenda =>
    have hrunning : ¬p.Failed := Pipeline.not_failed (Or.inr ⟨agenda, hphase⟩)
    cases agenda with
    | nil => exact hasleep hrunning
    | cons pair rest =>
      obtain ⟨asked, outcome⟩ := pair
      simp only
      split
      · exact hasleep hrunning
      · have hlooks := looks p.daemon asked outcome callbackRaises
        generalize p.daemon.look asked outcome callbackRaises = looked at hlooks ⊢
        obtain ⟨next, calls, result⟩ := looked
        simp only at hlooks ⊢
        cases result with
        | error failure =>
          refine h.looked hphase hlooks (fun left hleft => by cases hleft) ?_ rfl rfl rfl
          exact ⟨fun _ => ⟨failure, rfl⟩, fun _ => ⟨failure, rfl⟩⟩
        | ok fresh =>
          have hgood {q : Pipeline} (hq : q.phase = .asleep ∨ q.phase = .sweeping rest) :
              q.Failed ↔ ∃ failure, (.ok fresh : Except Failure Bool) = .error failure := by
            constructor
            · intro hbad
              exact absurd hbad (Pipeline.not_failed (hq.imp_right fun hsweep => ⟨rest, hsweep⟩))
            · rintro ⟨failure, hfailure⟩
              cases hfailure
          cases fresh with
          | false =>
            exact h.looked hphase hlooks (fun left hleft => (Phase.sweeping.inj hleft).symm)
              (hgood (Or.inr rfl)) rfl rfl rfl
          | true =>
            simp only
            split
            · exact h.looked hphase hlooks.stop (fun left hleft => by cases hleft) (hgood (Or.inl rfl))
                rfl rfl rfl
            · exact h.looked hphase hlooks (fun left hleft => (Phase.sweeping.inj hleft).symm)
                (hgood (Or.inr rfl)) rfl rfl rfl

theorem Flow.step (h : Flow start symbol marks p) (turn : Turn) :
    Flow start symbol (marks ++ (p.step turn).2) (p.step turn).1 := by
  cases turn with
  | stop =>
    rw [show (p.step .stop).2 = [] from rfl, List.append_nil]
    exact h.stop
  | wake answers =>
    rw [show (p.step (.wake answers)).2 = [] from rfl, List.append_nil]
    exact h.wake answers
  | look callbackRaises => exact h.look callbackRaises
  | route =>
    rw [show (p.step .route).2 = [] from rfl, List.append_nil]
    exact h.route
  | work lane => exact h.work lane

theorem Flow.run (h : Flow start symbol marks p) (schedule : List Turn) :
    Flow start symbol (marks ++ (p.run schedule).2) (p.run schedule).1 := by
  induction schedule generalizing p marks with
  | nil =>
    rw [show (p.run []).2 = [] from rfl, List.append_nil]
    exact h
  | cons turn rest ih =>
    have hnext := ih (h.step turn)
    rwa [List.append_assoc] at hnext

end Flow

/-- No bar of the symbol is on its way, and no exception has ended the daemon. -/
def Pipeline.Drained (p : Pipeline) (symbol : String) : Prop :=
  ¬p.Failed ∧ p.symbolQueues symbol = [] ∧ ∀ event ∈ p.queue, event.symbol ≠ symbol

/-- The bars of a symbol that wait for its worker, in its queue and behind them on the bus. -/
def Pipeline.waiting (p : Pipeline) (symbol : String) : List Bar :=
  (p.symbolQueues symbol).map BarClosedEvent.bar ++ eventBars symbol p.queue

theorem Pipeline.Drained.waiting_eq {p : Pipeline} {symbol : String} (h : p.Drained symbol) :
    p.waiting symbol = [] := by
  obtain ⟨-, hlane, hbus⟩ := h
  have hempty : eventBars symbol p.queue = [] := by
    rw [eventBars, List.map_eq_nil_iff, List.filter_eq_nil_iff]
    intro event hevent
    simpa using hbus event hevent
  rw [Pipeline.waiting, hlane, hempty, List.map_nil, List.append_nil]

/-- Under every schedule of the daemon, the main loop and the workers, the bars of a symbol that are
evaluated rise strictly in time; they are the fetched bars that are later than the store's at the start and
than every fetched bar before them, in order, up to those that wait and to what an exception lost; and the
store holds the last of what it began with and of them. -/
theorem evaluated_bars_rise (symbols : List String) (provider : String) (maxBars : Option ℕ)
    (store : RollingBarStore) (schedule : List Turn) (symbol : String) :
    let outcome := (Pipeline.start symbols provider maxBars store).run schedule
    (evaluatedBars symbol outcome.2).Pairwise (fun a b => a.timestamp < b.timestamp) ∧
    (∃ lost : List Bar, (¬outcome.1.Failed → lost = []) ∧
      rising Bar.time (warmTime store symbol) (fetchedBars symbol outcome.2) =
        evaluatedBars symbol outcome.2 ++ (outcome.1.waiting symbol ++ lost).filter
          fun bar => After (warmTime store symbol) bar.time) ∧
    (outcome.1.Drained symbol →
      rising Bar.time (warmTime store symbol) (fetchedBars symbol outcome.2) =
        evaluatedBars symbol outcome.2) ∧
    outcome.1.store.get symbol =
      keepLast store.maxBarsPerSymbol (store.get symbol ++ evaluatedBars symbol outcome.2) := by
  intro outcome
  have hflow := (flow_start symbols provider maxBars store symbol).run schedule
  rw [List.nil_append] at hflow
  change Flow store symbol outcome.2 outcome.1 at hflow
  obtain ⟨lost, hlost, hall⟩ := hflow.published
  have hstream : rising Bar.time none (fetchedBars symbol outcome.2) =
      handledBars symbol outcome.2 ++ (outcome.1.waiting symbol ++ lost) := by
    rw [hlost, hflow.queued, Pipeline.waiting]
    simp only [List.append_assoc]
  have hrises : (handledBars symbol outcome.2 ++ (outcome.1.waiting symbol ++ lost)).Pairwise
      fun a b => a.time < b.time := by
    rw [← hstream]
    exact pairwise_rising none _
  have hpassed : rising Bar.time (warmTime store symbol) (fetchedBars symbol outcome.2) =
      evaluatedBars symbol outcome.2 ++ (outcome.1.waiting symbol ++ lost).filter
        fun bar => After (warmTime store symbol) bar.time := by
    -- The worker's check of the published stream decides as it would of the fetched one.
    calc rising Bar.time (warmTime store symbol) (fetchedBars symbol outcome.2)
        = rising Bar.time (warmTime store symbol)
            (rising Bar.time none (fetchedBars symbol outcome.2)) :=
          (rising_rising (fun t h => absurd h (Option.not_mem_none t)) _).symm
      _ = (handledBars symbol outcome.2 ++ (outcome.1.waiting symbol ++ lost)).filter
            fun bar => After (warmTime store symbol) bar.time := by
          rw [hstream, rising_of_pairwise _ hrises]
      _ = evaluatedBars symbol outcome.2 ++ (outcome.1.waiting symbol ++ lost).filter
            fun bar => After (warmTime store symbol) bar.time := by
          rw [List.filter_append, hflow.evaluated,
            rising_of_pairwise _ (List.pairwise_append.mp hrises).1]
  refine ⟨?_, ⟨lost, fun hgood => (hall hgood).1, hpassed⟩, fun hdrained => ?_, hflow.stored⟩
  · rw [hflow.evaluated]
    exact pairwise_rising _ _
  · rw [hpassed, hdrained.waiting_eq, (hall hdrained.1).1]
    exact List.append_nil _

/-! ### What operators are told -/

section Notices

variable {symbol : String} {marks : List Mark} {p : Pipeline}

inductive Notice where
  | failed (exc : FetchError)
  | recovered
deriving DecidableEq

def notice? (symbol : String) : Mark → Option Notice
  | .called (.onFetchError named _ exc) => if named = symbol then some (.failed exc) else none
  | .called (.onFetchRecovered named _) => if named = symbol then some .recovered else none
  | _ => none

def outcome? (symbol : String) : Mark → Option Outcome
  | .fetched asked outcome => if asked = symbol then some outcome else none
  | _ => none

/-- The calls of `on_fetch_error` and `on_fetch_recovered` for a symbol. -/
def notices (symbol : String) (marks : List Mark) : List Notice := marks.filterMap (notice? symbol)

/-- What the daemon came to of the fetches for a symbol, the failures included. -/
def outcomes (symbol : String) (marks : List Mark) : List Outcome := marks.filterMap (outcome? symbol)

def Notice.exc? : Notice → Option FetchError
  | .failed exc => some exc
  | .recovered => none

def retryable? : Outcome → Option FetchError
  | .error exc => if isRetryableProviderError exc then some exc else none
  | .ok _ => none

/-- What one look of a symbol tells of it. -/
inductive Tells (d : DataIngestionDaemon) (symbol : String) :
    Outcome → DataIngestionDaemon → List Notice → Except Failure Bool → Prop where
  | failing {exc : FetchError} {next : DataIngestionDaemon} {result : Except Failure Bool}
      (hretry : isRetryableProviderError exc = true)
      (hdegraded : next.degradedSymbols = insert symbol d.degradedSymbols) :
      Tells d symbol (.error exc) next [.failed exc] result
  | fatal {exc : FetchError} {next : DataIngestionDaemon} {failure : Failure}
      (hfatal : isRetryableProviderError exc = false)
      (hdegraded : next.degradedSymbols = d.degradedSymbols) :
      Tells d symbol (.error exc) next [] (.error failure)
  | recovering {fetched : Option Bar} {next : DataIngestionDaemon} {result : Except Failure Bool}
      (hwas : symbol ∈ d.degradedSymbols) (hdegraded : next.degradedSymbols = d.degradedSymbols.erase symbol) :
      Tells d symbol (.ok fetched) next [.recovered] result
  | healthy {fetched : Option Bar} {next : DataIngestionDaemon} {result : Except Failure Bool}
      (hwas : symbol ∉ d.degradedSymbols) (hdegraded : next.degradedSymbols = d.degradedSymbols) :
      Tells d symbol (.ok fetched) next [] result

theorem tells {d : DataIngestionDaemon} (herrors : d.reportsErrors = true)
    (hrecoveries : d.reportsRecoveries = true) (symbol : String) (outcome : Outcome) (callbackRaises : Bool) :
    Tells d symbol outcome (d.look symbol outcome callbackRaises).1
      (notices symbol ((d.look symbol outcome callbackRaises).2.1.map Mark.called))
      (d.look symbol outcome callbackRaises).2.2 := by
  unfold DataIngestionDaemon.look
  cases outcome with
  | error exc =>
    simp only
    by_cases hretry : isRetryableProviderError exc = true
    · rw [if_pos hretry, if_pos herrors]
      have hnotice : notices symbol ([Call.onFetchError symbol d.provider exc].map Mark.called) =
          [.failed exc] := by
        simp [notices, notice?]
      simp only
      rw [hnotice]
      exact .failing hretry rfl
    · rw [if_neg hretry]
      exact .fatal (Bool.eq_false_iff.mpr hretry) rfl
  | ok fetched =>
    simp only
    -- A publication tells nothing, so only the recovery notice counts.
    have hpublish (earlier : List Call) (event : BarClosedEvent) :
        notices symbol ((earlier ++ [Call.publish event]).map Mark.called) =
          notices symbol (earlier.map Mark.called) := by
      rw [List.map_append, notices, List.filterMap_append]
      exact List.append_nil _
    by_cases hwas : symbol ∈ d.degradedSymbols
    · have hreports : symbol ∈ d.degradedSymbols ∧ d.reportsRecoveries = true := ⟨hwas, hrecoveries⟩
      have hnotice : notices symbol ([Call.onFetchRecovered symbol d.provider].map Mark.called) =
          [.recovered] := by
        simp [notices, notice?]
      rw [if_pos hreports]
      by_cases hraises : (symbol ∈ d.degradedSymbols ∧ d.reportsRecoveries = true) ∧ callbackRaises = true
      · rw [if_pos hraises, hnotice]
        exact .recovering hwas rfl
      · rw [if_neg hraises]
        cases fetched with
        | none =>
          simp only
          rw [hnotice]
          exact .recovering hwas rfl
        | some bar =>
          simp only
          split
          · rw [hnotice]
            exact .recovering hwas rfl
          · rw [hpublish, hnotice]
            exact .recovering hwas rfl
    · have hreports : ¬(symbol ∈ d.degradedSymbols ∧ d.reportsRecoveries = true) := fun h => hwas h.1
      have hsame : d.degradedSymbols.erase symbol = d.degradedSymbols := Finset.erase_eq_of_notMem hwas
      rw [if_neg hreports, if_neg (fun h => hreports h.1)]
      cases fetched with
      | none => exact .healthy hwas hsame
      | some bar =>
        simp only
        split
        · exact .healthy hwas hsame
        · rw [hpublish]
          exact .healthy hwas hsame

/-- What has been told of a symbol. -/
structure Noticed (symbol : String) (marks : List Mark) (p : Pipeline) : Prop where
  reportsErrors : p.daemon.reportsErrors = true
  reportsRecoveries : p.daemon.reportsRecoveries = true
  degraded : symbol ∈ p.daemon.degradedSymbols ↔ ∃ exc, (notices symbol marks).getLast? = some (.failed exc)
  follows : ∀ before after, notices symbol marks = before ++ .recovered :: after →
    ∃ exc, before.getLast? = some (.failed exc)
  errors : (notices symbol marks).filterMap Notice.exc? = (outcomes symbol marks).filterMap retryable?
  current : ¬p.Failed → (symbol ∈ p.daemon.degradedSymbols ↔
    ∃ exc, (outcomes symbol marks).getLast? = some (.error exc))

theorem noticed_start (symbols : List String) (provider : String) (maxBars : Option ℕ)
    (store : RollingBarStore) (symbol : String) :
    Noticed symbol [] (.start symbols provider maxBars store) where
  reportsErrors := rfl
  reportsRecoveries := rfl
  degraded := by simp [Pipeline.start, notices]
  follows before after h := by simp [notices] at h
  errors := rfl
  current _ := by simp [Pipeline.start, outcomes]

theorem notices_append (earlier later : List Mark) :
    notices symbol (earlier ++ later) = notices symbol earlier ++ notices symbol later :=
  List.filterMap_append ..

theorem outcomes_append (earlier later : List Mark) :
    outcomes symbol (earlier ++ later) = outcomes symbol earlier ++ outcomes symbol later :=
  List.filterMap_append ..

/-- Marks that are no fetch of the symbol and no notice about it change nothing. -/
theorem Noticed.frame (h : Noticed symbol marks p) {more : List Mark} {next : Pipeline}
    (hnotices : notices symbol more = []) (houtcomes : outcomes symbol more = [])
    (herrors : next.daemon.reportsErrors = p.daemon.reportsErrors)
    (hrecoveries : next.daemon.reportsRecoveries = p.daemon.reportsRecoveries)
    (hdegraded : symbol ∈ next.daemon.degradedSymbols ↔ symbol ∈ p.daemon.degradedSymbols)
    (hfailed : p.Failed → next.Failed) : Noticed symbol (marks ++ more) next := by
  have hsame : notices symbol (marks ++ more) = notices symbol marks := by
    rw [notices_append, hnotices, List.append_nil]
  have houts : outcomes symbol (marks ++ more) = outcomes symbol marks := by
    rw [outcomes_append, houtcomes, List.append_nil]
  constructor
  · exact herrors.trans h.reportsErrors
  · exact hrecoveries.trans h.reportsRecoveries
  · rw [hsame, hdegraded]
    exact h.degraded
  · rw [hsame]
    exact h.follows
  · rw [hsame, houts]
    exact h.errors
  · intro hgood
    rw [hdegraded, houts]
    exact h.current fun hbad => hgood (hfailed hbad)

theorem look_frame (d : DataIngestionDaemon) (asked : String) (outcome : Outcome) (callbackRaises : Bool) :
    (d.look asked outcome callbackRaises).1.reportsErrors = d.reportsErrors ∧
      (d.look asked outcome callbackRaises).1.reportsRecoveries = d.reportsRecoveries := by
  unfold DataIngestionDaemon.look
  cases outcome with
  | error exc =>
    simp only
    split
    · split <;> exact ⟨rfl, rfl⟩
    · exact ⟨rfl, rfl⟩
  | ok fetched =>
    simp only
    split
    · exact ⟨rfl, rfl⟩
    · cases fetched with
      | none => exact ⟨rfl, rfl⟩
      | some bar =>
        simp only
        split <;> exact ⟨rfl, rfl⟩

/-- A look tells nothing of other symbols. -/
theorem Tells.degraded_of_ne {d next : DataIngestionDaemon} {asked : String} {outcome : Outcome}
    {told : List Notice} {result : Except Failure Bool} (h : Tells d asked outcome next told result)
    (hne : asked ≠ symbol) : symbol ∈ next.degradedSymbols ↔ symbol ∈ d.degradedSymbols := by
  cases h with
  | failing _ hdegraded => rw [hdegraded, Finset.mem_insert, or_iff_right (Ne.symm hne)]
  | fatal _ hdegraded => rw [hdegraded]
  | recovering _ hdegraded => rw [hdegraded, Finset.mem_erase, and_iff_right (Ne.symm hne)]
  | healthy _ hdegraded => rw [hdegraded]

theorem notices_look_of_ne {d : DataIngestionDaemon} {asked : String} {outcome : Outcome}
    {callbackRaises : Bool} (hne : asked ≠ symbol) :
    notices symbol ((d.look asked outcome callbackRaises).2.1.map Mark.called) = [] := by
  have hnotice (h : Prop) [Decidable h] : notices symbol
      ((if h then [Call.onFetchRecovered asked d.provider] else []).map Mark.called) = [] := by
    split
    · simp [notices, notice?, hne]
    · rfl
  have hpublish (earlier : List Call) (event : BarClosedEvent) :
      notices symbol ((earlier ++ [Call.publish event]).map Mark.called) =
        notices symbol (earlier.map Mark.called) := by
    rw [List.map_append, notices, List.filterMap_append]
    exact List.append_nil _
  unfold DataIngestionDaemon.look
  cases outcome with
  | error exc =>
    simp only
    split
    · split
      · simp [notices, notice?, hne]
      · rfl
    · rfl
  | ok fetched =>
    simp only
    split
    · exact hnotice _
    · cases fetched with
      | none => exact hnotice _
      | some bar =>
        simp only
        split
        · exact hnotice _
        · rw [hpublish]
          exact hnotice _

theorem follows_append {P : List Notice → Prop} {old new : List Notice}
    (hold : ∀ before after, old = before ++ .recovered :: after → P before)
    (hnew : ∀ before after, new = before ++ .recovered :: after → P (old ++ before)) :
    ∀ before after, old ++ new = before ++ .recovered :: after → P before := by
  intro before after h
  rcases List.append_eq_append_iff.mp h with ⟨middle, rfl, hmiddle⟩ | ⟨middle, hmiddle, htail⟩
  · exact hnew middle after hmiddle
  · cases middle with
    | nil =>
      rw [List.append_nil] at hmiddle
      have hpast := hnew [] after htail.symm
      rwa [List.append_nil, hmiddle] at hpast
    | cons first rest =>
      obtain ⟨rfl, -⟩ := List.cons.inj htail
      exact hold before rest hmiddle

/-- A look of the symbol itself. -/
theorem Noticed.told (h : Noticed symbol marks p) {outcome : Outcome} {told : List Notice}
    {result : Except Failure Bool} {next : Pipeline} {more : List Mark}
    (htells : Tells p.daemon symbol outcome next.daemon told result)
    (herrors : next.daemon.reportsErrors = p.daemon.reportsErrors)
    (hrecoveries : next.daemon.reportsRecoveries = p.daemon.reportsRecoveries)
    (hfailed : next.Failed ↔ ∃ failure, result = .error failure)
    (hnotices : notices symbol more = told) (houtcomes : outcomes symbol more = [outcome]) :
    Noticed symbol (marks ++ more) next := by
  have hall : notices symbol (marks ++ more) = notices symbol marks ++ told := by
    rw [notices_append, hnotices]
  have houts : outcomes symbol (marks ++ more) = outcomes symbol marks ++ [outcome] := by
    rw [outcomes_append, houtcomes]
  refine ⟨herrors.trans h.reportsErrors, hrecoveries.trans h.reportsRecoveries, ?_, ?_, ?_, ?_⟩
  · rw [hall]
    cases htells with
    | failing _ hdegraded => simp [hdegraded]
    | fatal _ hdegraded => rw [hdegraded, List.append_nil]; exact h.degraded
    | recovering _ hdegraded => simp [hdegraded]
    | healthy _ hdegraded => rw [hdegraded, List.append_nil]; exact h.degraded
  · rw [hall]
    apply follows_append h.follows
    intro before after hnew
    cases htells with
    | @failing exc =>
      cases before with
      | nil => cases (List.cons.inj hnew).1
      | cons first rest => exact absurd (List.cons.inj hnew).2.symm (by simp)
    | fatal => exact absurd hnew.symm (by simp)
    | recovering hwas =>
      cases before with
      | nil =>
        rw [List.append_nil]
        exact h.degraded.mp hwas
      | cons first rest => exact absurd (List.cons.inj hnew).2.symm (by simp)
    | healthy => exact absurd hnew.symm (by simp)
  · rw [hall, houts, List.filterMap_append, List.filterMap_append, h.errors]
    cases htells with
    | failing hretry => simp [Notice.exc?, retryable?, hretry]
    | fatal hfatal => simp [retryable?, hfatal]
    | recovering => rfl
    | healthy => rfl
  · intro hgood
    rw [houts]
    cases htells with
    | failing _ hdegraded => simp [hdegraded]
    | fatal => exact absurd (hfailed.mpr ⟨_, rfl⟩) hgood
    | recovering _ hdegraded => simp [hdegraded]
    | healthy hwas hdegraded => simp [hdegraded, hwas]

theorem Tells.stop {d next : DataIngestionDaemon} {outcome : Outcome} {told : List Notice}
    {result : Except Failure Bool} (h : Tells d symbol outcome next told result) :
    Tells d symbol outcome next.stop told result := by
  cases h with
  | failing hretry hdegraded => exact .failing hretry hdegraded
  | fatal hfatal hdegraded => exact .fatal hfatal hdegraded
  | recovering hwas hdegraded => exact .recovering hwas hdegraded
  | healthy hwas hdegraded => exact .healthy hwas hdegraded

theorem outcomes_called (calls : List Call) : outcomes symbol (calls.map Mark.called) = [] := by
  induction calls with
  | nil => rfl
  | cons call rest ih => exact ih

theorem outcomes_fetched (asked : String) (outcome : Outcome) (calls : List Call) :
    outcomes symbol (.fetched asked outcome :: calls.map Mark.called) =
      if asked = symbol then [outcome] else [] := by
  have hcalls := @outcomes_called symbol calls
  unfold outcomes at hcalls ⊢
  rw [List.filterMap_cons, hcalls]
  by_cases hsymbol : asked = symbol <;> simp [outcome?, hsymbol]

theorem Noticed.look (h : Noticed symbol marks p) (callbackRaises : Bool) :
    Noticed symbol (marks ++ (p.look callbackRaises).2) (p.look callbackRaises).1 := by
  have hstill (next : Pipeline) (hdaemon : next.daemon = p.daemon) (hfailed : p.Failed → next.Failed) :
      Noticed symbol (marks ++ []) next :=
    h.frame rfl rfl (by rw [hdaemon]) (by rw [hdaemon]) (by rw [hdaemon]) hfailed
  unfold Pipeline.look
  cases hphase : p.phase with
  | asleep => exact hstill p rfl id
  | ended result => exact hstill p rfl id
  | sweeping agenda =>
    have hrunning : ¬p.Failed := Pipeline.not_failed (Or.inr ⟨agenda, hphase⟩)
    cases agenda with
    | nil => exact hstill _ rfl fun hbad => absurd hbad hrunning
    | cons pair rest =>
      obtain ⟨asked, outcome⟩ := pair
      simp only
      split
      · exact hstill _ rfl fun hbad => absurd hbad hrunning
      · have htells := tells h.reportsErrors h.reportsRecoveries asked outcome callbackRaises
        obtain ⟨herrors, hrecoveries⟩ := look_frame p.daemon asked outcome callbackRaises
        have hother : asked ≠ symbol →
            notices symbol ((p.daemon.look asked outcome callbackRaises).2.1.map Mark.called) = [] :=
          notices_look_of_ne
        generalize p.daemon.look asked outcome callbackRaises = looked at htells herrors hrecoveries hother ⊢
        obtain ⟨daemon, calls, result⟩ := looked
        simp only at htells herrors hrecoveries hother ⊢
        have hlooked (next : Pipeline) (hdaemon : next.daemon = daemon ∨ next.daemon = daemon.stop)
            (hfailed : next.Failed ↔ ∃ failure, result = .error failure) :
            Noticed symbol (marks ++ (.fetched asked outcome :: calls.map Mark.called)) next := by
          have hnext : Tells p.daemon asked outcome next.daemon (notices asked (calls.map Mark.called)) result ∧
              next.daemon.reportsErrors = p.daemon.reportsErrors ∧
              next.daemon.reportsRecoveries = p.daemon.reportsRecoveries := by
            rcases hdaemon with hdaemon | hdaemon
            · rw [hdaemon]
              exact ⟨htells, herrors, hrecoveries⟩
            · rw [hdaemon]
              exact ⟨htells.stop, herrors, hrecoveries⟩
          obtain ⟨htold, hflag, hflag'⟩ := hnext
          have houts := @outcomes_fetched symbol asked outcome calls
          by_cases hsymbol : asked = symbol
          · subst hsymbol
            rw [if_pos rfl] at houts
            exact h.told htold hflag hflag' hfailed rfl houts
          · rw [if_neg hsymbol] at houts
            exact h.frame (hother hsymbol) houts hflag hflag' (htold.degraded_of_ne hsymbol)
              fun hbad => absurd hbad hrunning
        cases result with
        | error failure => exact hlooked _ (Or.inl rfl) ⟨fun _ => ⟨failure, rfl⟩, fun _ => ⟨failure, rfl⟩⟩
        | ok fresh =>
          have hgood {q : Pipeline} (hq : q.phase = .asleep ∨ q.phase = .sweeping rest) :
              q.Failed ↔ ∃ failure, (.ok fresh : Except Failure Bool) = .error failure := by
            constructor
            · intro hbad
              exact absurd hbad (Pipeline.not_failed (hq.imp_right fun hsweep => ⟨rest, hsweep⟩))
            · rintro ⟨failure, hfailure⟩
              cases hfailure
          cases fresh with
          | false => exact hlooked _ (Or.inl rfl) (hgood (Or.inr rfl))
          | true =>
            simp only
            split
            · exact hlooked _ (Or.inr rfl) (hgood (Or.inl rfl))
            · exact hlooked _ (Or.inl rfl) (hgood (Or.inr rfl))

theorem Noticed.step (h : Noticed symbol marks p) (turn : Turn) :
    Noticed symbol (marks ++ (p.step turn).2) (p.step turn).1 := by
  cases turn with
  | look callbackRaises => exact h.look callbackRaises
  | stop => exact h.frame rfl rfl rfl rfl Iff.rfl id
  | wake answers =>
    show Noticed symbol (marks ++ []) (p.wake answers)
    unfold Pipeline.wake
    cases hphase : p.phase with
    | asleep =>
      have hrunning : ¬p.Failed := Pipeline.not_failed (Or.inl hphase)
      simp only
      split
      · exact h.frame rfl rfl rfl rfl Iff.rfl fun hbad => absurd hbad hrunning
      · exact h.frame rfl rfl rfl rfl Iff.rfl fun hbad => absurd hbad hrunning
    | sweeping rest => exact h.frame rfl rfl rfl rfl Iff.rfl id
    | ended result => exact h.frame rfl rfl rfl rfl Iff.rfl id
  | route =>
    show Noticed symbol (marks ++ []) p.route
    unfold Pipeline.route
    cases p.routing with
    | false => exact h.frame rfl rfl rfl rfl Iff.rfl id
    | true =>
      cases p.queue with
      | nil => exact h.frame rfl rfl rfl rfl Iff.rfl id
      | cons event rest =>
        simp only
        split
        · exact h.frame rfl rfl rfl rfl Iff.rfl id
        · exact h.frame rfl rfl rfl rfl Iff.rfl id
  | work lane =>
    show Noticed symbol (marks ++ (p.work lane).2) (p.work lane).1
    unfold Pipeline.work
    cases p.symbolQueues lane with
    | nil => exact h.frame rfl rfl rfl rfl Iff.rfl id
    | cons event rest =>
      simp only
      split
      · exact h.frame rfl rfl rfl rfl Iff.rfl id
      · exact h.frame rfl rfl rfl rfl Iff.rfl id

theorem Noticed.run (h : Noticed symbol marks p) (schedule : List Turn) :
    Noticed symbol (marks ++ (p.run schedule).2) (p.run schedule).1 := by
  induction schedule generalizing p marks with
  | nil =>
    rw [show (p.run []).2 = [] from rfl, List.append_nil]
    exact h
  | cons turn rest ih =>
    have hnext := ih (h.step turn)
    rwa [List.append_assoc] at hnext

end Notices

/-- Under every schedule, the errors told of a symbol are its retryable failures, all of them and in order; a
recovery is told only right after such an error, so never twice for one outage; and while the daemon runs, the
last thing told is an error exactly when the last thing fetched for the symbol was one. -/
theorem recoveries_follow_failures (symbols : List String) (provider : String) (maxBars : Option ℕ)
    (store : RollingBarStore) (schedule : List Turn) (symbol : String) :
    let outcome := (Pipeline.start symbols provider maxBars store).run schedule
    (notices symbol outcome.2).filterMap Notice.exc? = (outcomes symbol outcome.2).filterMap retryable? ∧
    (∀ before after, notices symbol outcome.2 = before ++ .recovered :: after →
      ∃ exc, before.getLast? = some (.failed exc)) ∧
    (¬outcome.1.Failed → ((∃ exc, (notices symbol outcome.2).getLast? = some (.failed exc)) ↔
      ∃ exc, (outcomes symbol outcome.2).getLast? = some (.error exc))) := by
  intro outcome
  have hnoticed := (noticed_start symbols provider maxBars store symbol).run schedule
  rw [List.nil_append] at hnoticed
  change Noticed symbol outcome.2 outcome.1 at hnoticed
  refine ⟨hnoticed.errors, hnoticed.follows, fun hgood => ?_⟩
  rw [← hnoticed.degraded]
  exact hnoticed.current hgood

end Bhiksha.Feed
