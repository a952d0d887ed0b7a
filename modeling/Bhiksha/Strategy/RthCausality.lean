import Mathlib.Data.Int.ConditionallyCompleteOrder
import Bhiksha.Library.Coalesce
import Bhiksha.Strategy.IntradayMeanReversion

/-! When the columns and signals of a bar are the same on the whole frame as on the rows up to the bar. -/

namespace Bhiksha.Newton

open Library

/-! ### The daily columns -/

section Daily

variable {transform : PriorRthCloseAtrTransform} {platform : FramePlatform} {rows : List FrameRow}
  {days : List DailyRth}

/-- The regular bars of one date. -/
def rthOn (transform : PriorRthCloseAtrTransform) (platform : FramePlatform) (date : ℤ)
    (rows : List FrameRow) : List FrameRow :=
  ofGroup (FrameRow.tradeDate platform) date (rows.filter (transform.hours.isRth platform))

theorem aggregate_date {date : ℤ} {group : List FrameRow} {day : DailyRth}
    (h : DailyRth.aggregate date group = some day) : day.date = date := by
  cases group with
  | nil => cases h
  | cons first rest =>
    cases h
    rfl

theorem mem_daily_iff {day : DailyRth} : day ∈ transform.daily platform rows ↔
    DailyRth.aggregate day.date (rthOn transform platform day.date rows) = some day := by
  unfold PriorRthCloseAtrTransform.daily
  simp only [mem_sortedBy, List.mem_filterMap]
  constructor
  · rintro ⟨date, -, haggregate⟩
    rw [aggregate_date haggregate]
    exact haggregate
  · intro haggregate
    refine ⟨day.date, ?_, haggregate⟩
    rw [List.mem_reverse, List.mem_dedup, List.mem_reverse, List.mem_map]
    cases hgroup : rthOn transform platform day.date rows with
    | nil =>
      rw [hgroup] at haggregate
      cases haggregate
    | cons first rest =>
      have hmem : first ∈ rthOn transform platform day.date rows := by simp [hgroup]
      obtain ⟨hrth, hdate⟩ := List.mem_filter.mp hmem
      exact ⟨first, hrth, of_decide_eq_true hdate⟩

theorem daily_sorted (transform : PriorRthCloseAtrTransform) (platform : FramePlatform)
    (rows : List FrameRow) :
    (transform.daily platform rows).Pairwise fun a b => a.date < b.date := by
  unfold PriorRthCloseAtrTransform.daily
  dsimp only
  set rth := rows.filter (transform.hours.isRth platform) with hrth
  set dates := (rth.map (FrameRow.tradeDate platform)).reverse.dedup.reverse with hdates
  set days := dates.filterMap fun date =>
    DailyRth.aggregate date (ofGroup (FrameRow.tradeDate platform) date rth) with hdays
  have hnodup : dates.Nodup := List.nodup_reverse.mpr (List.nodup_dedup _)
  have hdistinct : days.Pairwise fun a b => a.date ≠ b.date := by
    rw [hdays, List.pairwise_filterMap]
    refine hnodup.imp ?_
    intro date date' hne day hday day' hday'
    rw [aggregate_date hday, aggregate_date hday']
    exact hne
  have hsorted : (sortedBy DailyRth.date days).Pairwise fun a b => a.date ≤ b.date :=
    sortedBy_pairwise days
  have hstill : (sortedBy DailyRth.date days).Pairwise fun a b => a.date ≠ b.date :=
    (sortedBy_perm days).symm.pairwise hdistinct (fun hne => hne.symm)
  exact hsorted.imp₂ (fun _ _ hle hne => lt_of_le_of_ne hle hne) hstill

/-- The context of a day by the sessions before it. -/
def contextAfter (transform : PriorRthCloseAtrTransform) (earlier : List DailyRth) (day : DailyRth) :
    DailyContext :=
  transform.context day (earlier.map fun day => some day.close).getLast?.join
    (transform.meanTrueRanges earlier).getLast?.join

theorem causal_priorCloses : Causal PriorRthCloseAtrTransform.priorCloses :=
  (causal_shiftColumn 1).comp (causal_map _)

theorem length_priorCloses (days : List DailyRth) :
    (PriorRthCloseAtrTransform.priorCloses days).length = days.length := by
  simp [PriorRthCloseAtrTransform.priorCloses]

theorem causal_meanTrueRanges : Causal transform.meanTrueRanges := by
  have htrue : Causal PriorRthCloseAtrTransform.trueRanges :=
    causal_id.zipWith causal_priorCloses PriorRthCloseAtrTransform.trueRange
  exact (causal_rolling _ _ _).comp ((causal_map some).comp htrue)

theorem length_meanTrueRanges (days : List DailyRth) :
    (transform.meanTrueRanges days).length = days.length := by
  simp [PriorRthCloseAtrTransform.meanTrueRanges, PriorRthCloseAtrTransform.trueRanges,
    length_priorCloses]

/-- A day's context depends on its open and on the sessions before it. -/
theorem getElem?_contexts (transform : PriorRthCloseAtrTransform) {k : ℕ} {day : DailyRth}
    (h : days[k]? = some day) :
    (transform.contexts days)[k]? = some (contextAfter transform (days.take k) day) := by
  have hk : k < days.length := (List.getElem?_eq_some_iff.mp h).1
  have hprior : (PriorRthCloseAtrTransform.priorCloses days)[k]? =
      some (((days.take k).map fun day => some day.close).getLast?.join) :=
    getElem?_shiftColumn_one (causal_map _) (fun xs => List.length_map _) hk
  have hatr : (transform.dailyRthAtrs days)[k]? =
      some ((transform.meanTrueRanges (days.take k)).getLast?.join) :=
    getElem?_shiftColumn_one causal_meanTrueRanges length_meanTrueRanges hk
  unfold PriorRthCloseAtrTransform.contexts
  rw [List.getElem?_zipWith, List.getElem?_zipWith, h, hprior, hatr]
  rfl

theorem map_date_contexts (transform : PriorRthCloseAtrTransform) (days : List DailyRth) :
    (transform.contexts days).map DailyContext.date = days.map DailyRth.date := by
  apply List.ext_getElem?
  intro k
  rw [List.getElem?_map, List.getElem?_map]
  cases h : days[k]? with
  | some day =>
    rw [getElem?_contexts transform h]
    rfl
  | none =>
    have hlength : (transform.contexts days).length ≤ days.length := by
      unfold PriorRthCloseAtrTransform.contexts
      rw [List.length_zipWith]
      exact min_le_left _ _
    rw [List.getElem?_eq_none_iff.mpr (hlength.trans (List.getElem?_eq_none_iff.mp h))]
    rfl

/-- The context that is joined onto a date with a session. -/
theorem find?_contexts_of_mem (transform : PriorRthCloseAtrTransform)
    (hsorted : days.Pairwise fun a b => a.date < b.date) {day : DailyRth}
    (hday : day ∈ days) :
    (transform.contexts days).find? (fun context => context.date = day.date) =
      some (contextAfter transform (days.filter fun other => other.date < day.date) day) := by
  obtain ⟨before, after, rfl⟩ := List.append_of_mem hday
  have hat : (before ++ day :: after)[before.length]? = some day := by simp
  have hcontext := getElem?_contexts transform hat
  rw [List.take_left] at hcontext
  rw [filter_lt_of_sorted hsorted]
  have hnodup : ((transform.contexts (before ++ day :: after)).map DailyContext.date).Nodup := by
    rw [map_date_contexts transform]
    exact List.pairwise_map.mpr (hsorted.imp fun hlt => hlt.ne)
  exact find?_key hnodup (List.mem_of_getElem? hcontext)

theorem find?_contexts_of_not_mem {date : ℤ} (h : ∀ day ∈ days, day.date ≠ date) :
    (transform.contexts days).find? (fun context => context.date = date) = none := by
  rw [List.find?_eq_none]
  intro context hcontext hdate
  have hmem : context.date ∈ days.map DailyRth.date := by
    rw [← map_date_contexts transform]
    exact List.mem_map_of_mem hcontext
  obtain ⟨day, hday, heq⟩ := List.mem_map.mp hmem
  exact h day hday (heq.trans (of_decide_eq_true hdate))

/-! ### The join on a prefix of the frame -/

variable {seen later : List FrameRow} {date : ℤ}

theorem rthOn_append : rthOn transform platform date (seen ++ later) =
    rthOn transform platform date seen ++ rthOn transform platform date later := by
  unfold rthOn
  rw [List.filter_append, ofGroup_append]

/-- No row of an earlier date comes after the rows seen. -/
theorem rthOn_eq_nil (hlater : ∀ row ∈ later, date < row.tradeDate platform) :
    rthOn transform platform date later = [] := by
  unfold rthOn ofGroup
  rw [List.filter_eq_nil_iff]
  intro row hrow hdate
  have hmem := (List.mem_filter.mp hrow).1
  exact (hlater row hmem).ne' (of_decide_eq_true hdate)

/-- The earlier sessions are complete in the rows seen. -/
theorem earlier_sessions_eq (transform : PriorRthCloseAtrTransform)
    (hlater : ∀ row ∈ later, date ≤ row.tradeDate platform) :
    (transform.daily platform (seen ++ later)).filter (fun day => day.date < date) =
      (transform.daily platform seen).filter (fun day => day.date < date) := by
  have hsorted (rows : List FrameRow) :
      ((transform.daily platform rows).filter fun day => day.date < date).Pairwise
        fun a b => a.date < b.date :=
    (daily_sorted transform platform rows).filter _
  apply eq_of_strictly_sorted (hsorted _) (hsorted _)
  intro day
  rw [List.mem_filter, List.mem_filter, mem_daily_iff, mem_daily_iff]
  refine and_congr_left fun hearlier => ?_
  have hempty : rthOn transform platform day.date later = [] :=
    rthOn_eq_nil fun row hrow => lt_of_lt_of_le (of_decide_eq_true hearlier) (hlater row hrow)
  rw [rthOn_append, hempty, List.append_nil]

theorem not_mem_daily_of_nil (h : rthOn transform platform date rows = []) :
    ∀ day ∈ transform.daily platform rows, day.date ≠ date := by
  intro day hday heq
  rw [mem_daily_iff, heq, h] at hday
  cases hday

/-- A date with a regular bar has a session, which opens with the first one. -/
theorem exists_mem_daily {first : FrameRow} {rest : List FrameRow}
    (h : rthOn transform platform date rows = first :: rest) :
    ∃ day, day ∈ transform.daily platform rows ∧ day.date = date ∧
      day.openPrice = first.openPrice := by
  obtain ⟨day, hday, hdate, hopen⟩ : ∃ day, DailyRth.aggregate date (first :: rest) = some day ∧
      day.date = date ∧ day.openPrice = first.openPrice := ⟨_, rfl, rfl, rfl⟩
  refine ⟨day, mem_daily_iff.mpr ?_, hdate, hopen⟩
  rw [hdate, h, hday]

/-- The context of a session depends on its first bar, once there is one. -/
theorem joined_eq_of_opened (hlater : ∀ row ∈ later, date ≤ row.tradeDate platform)
    (hopened : rthOn transform platform date seen ≠ []) :
    (transform.contexts (transform.daily platform (seen ++ later))).find?
        (fun context => context.date = date) =
      (transform.contexts (transform.daily platform seen)).find?
        (fun context => context.date = date) := by
  obtain ⟨first, rest, hgroup⟩ := List.exists_cons_of_ne_nil hopened
  have hwhole : rthOn transform platform date (seen ++ later) =
      first :: (rest ++ rthOn transform platform date later) := by
    rw [rthOn_append, hgroup, List.cons_append]
  obtain ⟨day, hday, hdate, hopen⟩ := exists_mem_daily hgroup
  obtain ⟨day', hday', hdate', hopen'⟩ := exists_mem_daily hwhole
  subst hdate
  have hseen := find?_contexts_of_mem transform (daily_sorted transform platform seen) hday
  have hall := find?_contexts_of_mem transform (daily_sorted transform platform (seen ++ later)) hday'
  rw [hdate', earlier_sessions_eq transform hlater] at hall
  rw [hseen, hall]
  unfold contextAfter PriorRthCloseAtrTransform.context
  rw [hopen, hopen', hdate']

/-- Before the first session a context holds nothing. -/
theorem join_first_session {row : FrameRow} {contexts : List DailyContext} {day : DailyRth}
    (h : contexts.find? (fun context => context.date = row.tradeDate platform) =
      some (contextAfter transform [] day)) :
    transform.join platform contexts row = transform.join platform [] row := by
  unfold PriorRthCloseAtrTransform.join
  rw [h]
  rfl

end Daily

/-! ### The columns of a frame -/

/-- The three transforms, one after the other. -/
def enrich (platform : FramePlatform) (vwap : OpeningVwapRthTransform)
    (prior : PriorRthCloseAtrTransform) (relative : RelativeVolumeRthTransform)
    (rows : List FrameRow) : List FrameRow :=
  prior.apply platform (relative.apply platform (vwap.apply platform rows))

/-- The bar at row `i` comes before the first regular bar of its date, which is still to come, and an
earlier date has had one. -/
def OpensLater (hours : SessionHours) (platform : FramePlatform) (timestamps : List ℚ) (i : ℕ) : Prop :=
  ∃ instant, timestamps[i]? = some instant ∧
    (∀ earlier ∈ timestamps.take (i + 1), hours.openAt platform earlier = true →
      platform.newYorkDate earlier ≠ platform.newYorkDate instant) ∧
    (∃ later ∈ timestamps, hours.openAt platform later = true ∧
      platform.newYorkDate later = platform.newYorkDate instant) ∧
    ∃ earlier ∈ timestamps, hours.openAt platform earlier = true ∧
      platform.newYorkDate earlier < platform.newYorkDate instant

section Frames

variable {platform : FramePlatform} {vwap : OpeningVwapRthTransform}
  {prior : PriorRthCloseAtrTransform} {relative : RelativeVolumeRthTransform}
  {params : MeanReversionParams}

theorem groupwise_vwap : Groupwise (FrameRow.tradeDate platform) (FrameRow.tradeDate platform)
    (vwap.apply platform) := by
  have hsum : Causal cumSum := causal_prefixMap List.sum
  refine groupwise_withOver _ _ ?_ ?_ _ ?_
  · exact (hsum.comp (causal_map _)).zipWith (hsum.comp (causal_map _)) Prod.mk
  · intro rows
    simp [OpeningVwapRthTransform.sums, cumSum]
  · intro row sums
    rfl

theorem groupwise_relative : Groupwise (relative.hours.isRth platform) (relative.hours.isRth platform)
    (relative.apply platform) := by
  refine groupwise_withOver _ _ ?_ ?_ _ ?_
  · exact causal_id.zipWith ((causal_rolling _ _ _).comp (causal_map _)) _
  · intro rows
    simp [RelativeVolumeRthTransform.relativeVolumes]
  · intro row value
    rfl

/-- The columns of the other two transforms do not look ahead. -/
theorem causal_columns :
    Causal fun rows => relative.apply platform (vwap.apply platform rows) :=
  groupwise_relative.causal.comp groupwise_vwap.causal

theorem map_timestamp_columns (rows : List FrameRow) :
    (relative.apply platform (vwap.apply platform rows)).map FrameRow.timestamp =
      rows.map FrameRow.timestamp := by
  have hvwap : (vwap.apply platform rows).map FrameRow.timestamp = rows.map FrameRow.timestamp := by
    unfold OpeningVwapRthTransform.apply
    apply map_withOver
    intro row sums
    rfl
  rw [← hvwap]
  unfold RelativeVolumeRthTransform.apply
  apply map_withOver
  intro row value
  rfl

theorem causal_priorMax (params : MeanReversionParams) : Causal params.priorMax :=
  (causal_shiftColumn 1).comp (causal_rolling _ _ _)

theorem causal_priorMin (params : MeanReversionParams) : Causal params.priorMin :=
  (causal_shiftColumn 1).comp (causal_rolling _ _ _)

theorem causal_stretchValues (params : MeanReversionParams) (platform : FramePlatform) :
    Causal (params.stretchValues platform) := by
  unfold MeanReversionParams.stretchValues
  dsimp only
  split_ifs
  · exact causal_map _
  · exact (causal_map _).zipWith
      (((causal_rolling _ _ _).comp (causal_map _)).zipWith
        ((causal_rolling _ _ _).comp (causal_map _)) Prod.mk) _

theorem length_stretchValues (params : MeanReversionParams) (platform : FramePlatform)
    (rows : List ContextRow) :
    (params.stretchValues platform rows).length = rows.length := by
  unfold MeanReversionParams.stretchValues
  dsimp only
  split_ifs
  · exact List.length_map _
  · simp

theorem causal_priorRanges (params : MeanReversionParams) : Causal params.priorRanges := by
  have hranges := ((causal_priorMax params).comp
      (causal_map fun context : ContextRow => some context.row.high)).zipWith
    ((causal_priorMin params).comp
      (causal_map fun context : ContextRow => some context.row.low))
    fun high low => ({ reversalHigh := high, reversalLow := low } : PriorRange)
  have hboth (column : ContextRow → Option ℚ) :
      Causal fun rows => List.zipWith Prod.mk (params.priorMax (rows.map column))
        (params.priorMin (rows.map column)) :=
    ((causal_priorMax params).comp (causal_map column)).zipWith
      ((causal_priorMin params).comp (causal_map column)) Prod.mk
  exact (hranges.zipWith (hboth ContextRow.stretchValue) _).zipWith
    (hboth fun context => context.row.velocity) _

theorem length_priorRanges (params : MeanReversionParams) (rows : List ContextRow) :
    (params.priorRanges rows).length = rows.length := by
  simp [MeanReversionParams.priorRanges, MeanReversionParams.priorMax, MeanReversionParams.priorMin]

theorem causal_priorBars : Causal MeanReversionParams.priorBars := by
  have hcolumn (column : ContextRow → Option ℚ) :
      Causal fun rows : List ContextRow => shiftColumn 1 (rows.map column) :=
    (causal_shiftColumn 1).comp (causal_map column)
  exact (hcolumn _).zipWith ((hcolumn _).zipWith (hcolumn _) Prod.mk) Prod.mk

theorem length_priorBars (rows : List ContextRow) :
    (MeanReversionParams.priorBars rows).length = rows.length := by
  simp [MeanReversionParams.priorBars]

/-- The signals of a date are made of the rows of the date. -/
theorem groupwise_signals (platform : FramePlatform) (params : MeanReversionParams) :
    Groupwise (FrameRow.tradeDate platform)
      (fun signal : SignalRow => MeanReversionParams.contextDate platform signal.context)
      (params.generateSignals platform) := by
  let date := MeanReversionParams.contextDate platform
  have hraw : Groupwise (FrameRow.tradeDate platform) date
      (List.map fun row => ({ row := row, stretchRaw := params.stretchRaw row } : ContextRow)) :=
    groupwise_map fun _ => rfl
  have hstretched := (groupwise_withOver date date (causal_stretchValues params platform)
    (length_stretchValues params platform)
    (fun context value => { context with stretchValue := value.join }) (fun _ _ => rfl)).comp hraw
  have hranged := (groupwise_withOver date date (causal_priorRanges params)
    (length_priorRanges params) (fun context range => { context with range := range.getD {} })
    (fun _ _ => rfl)).comp hstretched
  have hconfirmed := (groupwise_withOver date date causal_priorBars length_priorBars
    (fun context (prior : Option (Option ℚ × Option ℚ × Option ℚ)) =>
      { context with
        priorClose := prior.bind fun bar => bar.1
        priorHigh := prior.bind fun bar => bar.2.1
        priorLow := prior.bind fun bar => bar.2.2 }) (fun _ _ => rfl)).comp hranged
  have hsignal : Groupwise date (fun signal : SignalRow => date signal.context)
      (List.map (params.signalRow platform)) := groupwise_map fun _ => rfl
  exact hsignal.comp hconfirmed

/-- What the signals are made from is kept beside them. -/
theorem map_row_signals (platform : FramePlatform) (params : MeanReversionParams)
    (rows : List FrameRow) :
    (params.generateSignals platform rows).map (fun signal => signal.context.row) = rows := by
  unfold MeanReversionParams.generateSignals
  dsimp only
  rw [List.map_map]
  have hrow (context : ContextRow) :
      ((fun signal : SignalRow => signal.context.row) ∘ params.signalRow platform) context =
        context.row := rfl
  rw [List.map_congr_left fun context _ => hrow context]
  refine (map_withOver ContextRow.row ContextRow.row ?_ _).trans ?_
  · intro context bar
    rfl
  refine (map_withOver ContextRow.row ContextRow.row ?_ _).trans ?_
  · intro context range
    rfl
  refine (map_withOver ContextRow.row ContextRow.row ?_ _).trans ?_
  · intro context value
    rfl
  rw [List.map_map]
  exact List.map_id _

/-- The columns and signals of a frame. -/
def liveSignals (platform : FramePlatform) (vwap : OpeningVwapRthTransform)
    (prior : PriorRthCloseAtrTransform) (relative : RelativeVolumeRthTransform)
    (params : MeanReversionParams) (rows : List FrameRow) : List SignalRow :=
  params.generateSignals platform (enrich platform vwap prior relative rows)

/-- Where the row's date is joined alike, its columns and signals are alike. -/
theorem signals_eq_of_joined {seen later : List FrameRow} {row : FrameRow} {i : ℕ}
    (hi : seen.length = i + 1) (hrow : seen[i]? = some row)
    (hjoined : ∀ other : FrameRow, other.tradeDate platform = row.tradeDate platform →
      prior.join platform (prior.contexts (prior.daily platform (seen ++ later))) other =
        prior.join platform (prior.contexts (prior.daily platform seen)) other) :
    (params.generateSignals platform (prior.apply platform seen))[i]? =
      (params.generateSignals platform (prior.apply platform (seen ++ later)))[i]? := by
  have hkey (contexts : List DailyContext) (other : FrameRow) :
      (prior.join platform contexts other).tradeDate platform = other.tradeDate platform := rfl
  set whole := prior.contexts (prior.daily platform (seen ++ later)) with hwhole
  have hlt : i < (seen ++ later).length := by
    rw [List.length_append]
    omega
  have hat : (prior.apply platform (seen ++ later))[i]? = some (prior.join platform whole row) := by
    unfold PriorRthCloseAtrTransform.apply
    rw [List.getElem?_map, List.getElem?_append_left (by omega), hrow]
    rfl
  refine (groupwise_signals platform params).getElem?_eq (Nat.lt_succ_self i) ?_ hat ?_
  · have hdates (contexts : List DailyContext) (rows : List FrameRow) :
        (rows.map (prior.join platform contexts)).map (FrameRow.tradeDate platform) =
          rows.map (FrameRow.tradeDate platform) := List.map_map
    unfold PriorRthCloseAtrTransform.apply
    rw [hdates, hdates, ← List.map_take, List.take_left' hi]
  · unfold PriorRthCloseAtrTransform.apply
    rw [hkey, ofGroup_map (hkey _), ofGroup_map (hkey _), ofGroup_append, List.map_append]
    have hsame : (ofGroup (FrameRow.tradeDate platform) (row.tradeDate platform) seen).map
          (prior.join platform (prior.contexts (prior.daily platform seen))) =
        (ofGroup (FrameRow.tradeDate platform) (row.tradeDate platform) seen).map
          (prior.join platform whole) := by
      apply List.map_congr_left
      intro other hother
      exact (hjoined other (of_decide_eq_true (List.mem_filter.mp hother).2)).symm
    rw [hsame]
    exact List.prefix_append _ _

theorem rthOn_ne_nil_iff (prior : PriorRthCloseAtrTransform) (platform : FramePlatform) (date : ℤ)
    (rows : List FrameRow) :
    rthOn prior platform date rows ≠ [] ↔ ∃ instant ∈ rows.map FrameRow.timestamp,
      prior.hours.openAt platform instant = true ∧ platform.newYorkDate instant = date := by
  constructor
  · intro hsome
    obtain ⟨row, hrow⟩ := List.exists_mem_of_ne_nil _ hsome
    obtain ⟨hrth, hdate⟩ := List.mem_filter.mp hrow
    obtain ⟨hmem, hopen⟩ := List.mem_filter.mp hrth
    exact ⟨row.timestamp, List.mem_map_of_mem hmem, hopen, of_decide_eq_true hdate⟩
  · rintro ⟨instant, hinstant, hopen, hdate⟩
    obtain ⟨row, hmem, rfl⟩ := List.mem_map.mp hinstant
    have hrow : row ∈ rthOn prior platform date rows :=
      List.mem_filter.mpr ⟨List.mem_filter.mpr ⟨hmem, hopen⟩, decide_eq_true hdate⟩
    exact List.ne_nil_of_mem hrow

theorem earlier_ne_nil_iff {date : ℤ} {rows : List FrameRow} :
    (prior.daily platform rows).filter (fun day => day.date < date) ≠ [] ↔
      ∃ instant ∈ rows.map FrameRow.timestamp, prior.hours.openAt platform instant = true ∧
        platform.newYorkDate instant < date := by
  constructor
  · intro hsome
    obtain ⟨day, hmem⟩ := List.exists_mem_of_ne_nil _ hsome
    obtain ⟨hday, hearlier⟩ := List.mem_filter.mp hmem
    have hgroup : rthOn prior platform day.date rows ≠ [] := by
      intro hnil
      exact not_mem_daily_of_nil hnil day hday rfl
    obtain ⟨instant, hmem, hopen, hdate⟩ := (rthOn_ne_nil_iff _ _ _ _).mp hgroup
    exact ⟨instant, hmem, hopen, hdate ▸ of_decide_eq_true hearlier⟩
  · rintro ⟨instant, hmem, hopen, hearlier⟩
    obtain ⟨first, rest, hgroup⟩ :=
      List.exists_cons_of_ne_nil ((rthOn_ne_nil_iff _ _ _ _).mpr ⟨instant, hmem, hopen, rfl⟩)
    obtain ⟨day, hday, hdate, -⟩ := exists_mem_daily hgroup
    have hmem : day ∈ (prior.daily platform rows).filter fun day => day.date < date :=
      List.mem_filter.mpr ⟨hday, decide_eq_true (hdate ▸ hearlier)⟩
    exact List.ne_nil_of_mem hmem

theorem join_congr {contexts contexts' : List DailyContext} {row : FrameRow}
    (h : contexts.find? (fun context => context.date = row.tradeDate platform) =
      contexts'.find? (fun context => context.date = row.tradeDate platform)) :
    prior.join platform contexts row = prior.join platform contexts' row := by
  unfold PriorRthCloseAtrTransform.join
  rw [h]

/-- The columns and signals of a row on the first rows of a table are those on the whole of it exactly
when the session of its date does not open later. -/
theorem signals_prefix_iff (prior : PriorRthCloseAtrTransform) (params : MeanReversionParams)
    {seen later : List FrameRow} {row : FrameRow} {i : ℕ}
    (hi : seen.length = i + 1) (hrow : seen[i]? = some row)
    (hlater : ∀ other ∈ later, row.tradeDate platform ≤ other.tradeDate platform) :
    (params.generateSignals platform (prior.apply platform seen))[i]? =
        (params.generateSignals platform (prior.apply platform (seen ++ later)))[i]? ↔
      ¬(rthOn prior platform (row.tradeDate platform) seen = [] ∧
        rthOn prior platform (row.tradeDate platform) (seen ++ later) ≠ [] ∧
        (prior.daily platform seen).filter (fun day => day.date < row.tradeDate platform) ≠ []) := by
  by_cases hopened : rthOn prior platform (row.tradeDate platform) seen = []
  swap
  · refine iff_of_true ?_ fun h => hopened h.1
    refine signals_eq_of_joined hi hrow fun other hdate => join_congr ?_
    rw [hdate]
    exact joined_eq_of_opened hlater hopened
  have hnone : (prior.contexts (prior.daily platform seen)).find?
      (fun context => context.date = row.tradeDate platform) = none :=
    find?_contexts_of_not_mem (not_mem_daily_of_nil hopened)
  by_cases hcloses : rthOn prior platform (row.tradeDate platform) (seen ++ later) = []
  · refine iff_of_true ?_ fun h => h.2.1 hcloses
    refine signals_eq_of_joined hi hrow fun other hdate => join_congr ?_
    rw [hdate, hnone]
    exact find?_contexts_of_not_mem (not_mem_daily_of_nil hcloses)
  obtain ⟨first, rest, hgroup⟩ := List.exists_cons_of_ne_nil hcloses
  obtain ⟨day, hday, hdate, -⟩ := exists_mem_daily hgroup
  have hfound := find?_contexts_of_mem prior (daily_sorted prior platform (seen ++ later)) hday
  rw [hdate, earlier_sessions_eq prior hlater] at hfound
  by_cases hearlier : (prior.daily platform seen).filter
      (fun day => day.date < row.tradeDate platform) = []
  · refine iff_of_true ?_ fun h => h.2.2 hearlier
    rw [hearlier] at hfound
    refine signals_eq_of_joined hi hrow fun other hother => ?_
    rw [← hother] at hfound hnone
    rw [join_first_session hfound]
    exact (join_congr (by rw [hnone]; rfl)).symm
  · -- the whole frame knows the prior close, the rows seen do not
    refine iff_of_false ?_ fun h => h ⟨hopened, hcloses, hearlier⟩
    intro hsame
    have hrows := congrArg (fun signal : Option SignalRow =>
      signal.map fun signal => signal.context.row.priorRthClose) hsame
    have hprior (rows : List FrameRow) :
        ((params.generateSignals platform rows)[i]?).map
            (fun signal => signal.context.row.priorRthClose) =
          (rows[i]?).map FrameRow.priorRthClose := by
      have hkept := congrArg (fun rows : List FrameRow => (rows[i]?).map FrameRow.priorRthClose)
        (map_row_signals platform params rows)
      rw [← hkept, List.getElem?_map, Option.map_map]
      rfl
    rw [hprior, hprior] at hrows
    unfold PriorRthCloseAtrTransform.apply at hrows
    rw [List.getElem?_map, List.getElem?_map, List.getElem?_append_left (by omega), hrow] at hrows
    have hjoined (contexts : List DailyContext) :
        (prior.join platform contexts row).priorRthClose =
          (contexts.find? fun context => context.date = row.tradeDate platform).bind
            DailyContext.priorRthClose := rfl
    rw [Option.map_some, Option.map_some, Option.map_some, Option.map_some, hjoined, hjoined, hnone,
      hfound] at hrows
    obtain ⟨last, hlast⟩ : ∃ last, ((prior.daily platform seen).filter
        (fun day => day.date < row.tradeDate platform)).getLast? = some last :=
      ⟨_, List.getLast?_eq_getLast_of_ne_nil hearlier⟩
    simp [contextAfter, PriorRthCloseAtrTransform.context, List.getLast?_map, hlast] at hrows

end Frames

/-- A bar's columns and signals are the same on the whole frame as on the rows up to the bar exactly
when it does not come before the open of a session that follows another. -/
theorem live_signals_causal_iff (platform : FramePlatform) (vwap : OpeningVwapRthTransform)
    (prior : PriorRthCloseAtrTransform) (relative : RelativeVolumeRthTransform)
    (params : MeanReversionParams) (rows : List FrameRow) (hdate : Monotone platform.newYorkDate)
    (hrows : rows.Pairwise fun a b => a.timestamp < b.timestamp) (i : ℕ) (hi : i < rows.length) :
    (liveSignals platform vwap prior relative params (rows.take (i + 1)))[i]? =
        (liveSignals platform vwap prior relative params rows)[i]? ↔
      ¬ OpensLater prior.hours platform (rows.map FrameRow.timestamp) i := by
  set table := relative.apply platform (vwap.apply platform rows) with htable
  have hcolumns : relative.apply platform (vwap.apply platform (rows.take (i + 1))) =
      table.take (i + 1) := causal_columns (i + 1) rows
  have hstamps : table.map FrameRow.timestamp = rows.map FrameRow.timestamp :=
    map_timestamp_columns rows
  have hlength : table.length = rows.length := by
    have hlengths := congrArg List.length hstamps
    rwa [List.length_map, List.length_map] at hlengths
  have hseen : (table.take (i + 1)).length = i + 1 := by
    rw [List.length_take]
    omega
  obtain ⟨row, hrow⟩ : ∃ row, (table.take (i + 1))[i]? = some row :=
    ⟨_, List.getElem?_eq_getElem (by omega)⟩
  have hincreasing : table.Pairwise fun a b => a.timestamp < b.timestamp := by
    have hmap : (rows.map FrameRow.timestamp).Pairwise (· < ·) := List.pairwise_map.mpr hrows
    rw [← hstamps] at hmap
    exact List.pairwise_map.mp hmap
  have hlater : ∀ other ∈ table.drop (i + 1), row.tradeDate platform ≤ other.tradeDate platform := by
    intro other hother
    rw [← List.take_append_drop (i + 1) table] at hincreasing
    have hlt := (List.pairwise_append.mp hincreasing).2.2 row (List.mem_of_getElem? hrow) other hother
    exact hdate hlt.le
  have hwhole : table.take (i + 1) ++ table.drop (i + 1) = table := List.take_append_drop _ _
  have hiff := signals_prefix_iff prior params hseen hrow hlater
  rw [hwhole] at hiff
  unfold liveSignals enrich
  rw [hcolumns, hiff, ← hstamps]
  apply not_congr
  have hat : (table.map FrameRow.timestamp)[i]? = some row.timestamp := by
    have hrow' : table[i]? = some row := by
      rw [← hrow, List.getElem?_take_of_lt (Nat.lt_succ_self i)]
    rw [List.getElem?_map, hrow']
    rfl
  have hunopened : rthOn prior platform (row.tradeDate platform) (table.take (i + 1)) = [] ↔
      ∀ earlier ∈ (table.map FrameRow.timestamp).take (i + 1),
        prior.hours.openAt platform earlier = true →
          platform.newYorkDate earlier ≠ platform.newYorkDate row.timestamp := by
    have hnot := not_congr (rthOn_ne_nil_iff prior platform (row.tradeDate platform)
      (table.take (i + 1)))
    rw [not_not] at hnot
    rw [hnot, List.map_take]
    simp only [not_exists, not_and]
    rfl
  constructor
  · rintro ⟨hopened, hcloses, hearlier⟩
    obtain ⟨earlier, hmem, hrest⟩ := earlier_ne_nil_iff.mp hearlier
    rw [List.map_take] at hmem
    exact ⟨row.timestamp, hat, hunopened.mp hopened, (rthOn_ne_nil_iff _ _ _ _).mp hcloses, earlier,
      List.mem_of_mem_take hmem, hrest⟩
  · rintro ⟨instant, hinstant, hopened, hcloses, hearlier⟩
    obtain rfl : row.timestamp = instant := Option.some.inj (hat.symm.trans hinstant)
    refine ⟨hunopened.mpr hopened, (rthOn_ne_nil_iff _ _ _ _).mpr hcloses, ?_⟩
    have hcomplete : (prior.daily platform (table.take (i + 1) ++ table.drop (i + 1))).filter
          (fun day => day.date < row.tradeDate platform) =
        (prior.daily platform (table.take (i + 1))).filter
          (fun day => day.date < row.tradeDate platform) := earlier_sessions_eq prior hlater
    rw [hwhole] at hcomplete
    rw [← hcomplete]
    exact earlier_ne_nil_iff.mpr hearlier

/-- A platform whose New York is at no offset, and three bars of it: a regular one, then one before the
open of the next day and one after it. -/
def plainPlatform : FramePlatform where
  newYorkDate instant := ⌊instant / 86400⌋
  newYorkClock instant := (⌊(instant - 86400 * ⌊instant / 86400⌋) * 1000000⌋).toNat
  sqrt value := value

def overnightBars : List FrameRow :=
  [{ timestamp := 36000, openPrice := 100, high := 101, low := 99, close := 100, volume := 10 },
    { timestamp := 115200, openPrice := 102, high := 103, low := 101, close := 102, volume := 10 },
    { timestamp := 122400, openPrice := 102, high := 104, low := 101, close := 103, volume := 10 }]

theorem live_signals_causal_iff_overnight :
    (liveSignals plainPlatform {} {} { period := 20 } {} (overnightBars.take 2))[1]? =
        (liveSignals plainPlatform {} {} { period := 20 } {} overnightBars)[1]? ↔
      ¬ OpensLater {} plainPlatform (overnightBars.map FrameRow.timestamp) 1 := by
  refine live_signals_causal_iff plainPlatform {} {} { period := 20 } {} overnightBars ?_ ?_ 1 ?_
  · intro earlier later hle
    exact Int.floor_mono (div_le_div_of_nonneg_right hle (by norm_num))
  · decide +kernel
  · decide +kernel

/-- The bar before the open has a prior close on the whole frame only. -/
theorem live_signals_look_ahead :
    ¬ ∀ (platform : FramePlatform) (vwap : OpeningVwapRthTransform)
      (prior : PriorRthCloseAtrTransform) (relative : RelativeVolumeRthTransform)
      (params : MeanReversionParams) (rows : List FrameRow), Monotone platform.newYorkDate →
      (rows.Pairwise fun a b => a.timestamp < b.timestamp) → ∀ i < rows.length,
        (liveSignals platform vwap prior relative params (rows.take (i + 1)))[i]? =
          (liveSignals platform vwap prior relative params rows)[i]? := by
  intro hcausal
  have hmono : Monotone plainPlatform.newYorkDate := by
    intro earlier later hle
    exact Int.floor_mono (div_le_div_of_nonneg_right hle (by norm_num))
  have hsame := hcausal plainPlatform {} {} { period := 20 } {} overnightBars hmono
    (by decide +kernel) 1 (by decide +kernel)
  revert hsame
  decide +kernel

end Bhiksha.Newton
