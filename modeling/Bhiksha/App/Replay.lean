import Bhiksha.Library.Transaction
import Bhiksha.Strategy.MarketImpulse

/-! The replay of a deployment over a frame that is enriched once, the evaluation of the same
deployment bar by bar, and when the two agree. -/

namespace Bhiksha

open Library MarketImpulse

theorem getLast?_zipWith_take {α β γ : Type} (f : α → β → γ) {xs : List α} {ys : List β} {i : ℕ}
    (hx : i < xs.length) (hy : i < ys.length) :
    (List.zipWith f (xs.take (i + 1)) (ys.take (i + 1))).getLast? = some (f xs[i] ys[i]) := by
  have hlength : (List.zipWith f (xs.take (i + 1)) (ys.take (i + 1))).length = i + 1 := by
    rw [List.length_zipWith, List.length_take, List.length_take]
    omega
  rw [List.getLast?_eq_getElem?, hlength]
  simp [hx, hy]

section Buckets

variable (windows : Windows)

/-- The last close and the total volume. -/
def closing (bars : List PriceBar) : ℚ × ℚ :=
  ((bars.map PriceBar.close).getLastD 0, (bars.map PriceBar.volume).sum)

/-- Bars outside the windows of older buckets leave these buckets alone. -/
theorem foldl_pushBar_append {older : List TimeframeBar} {bars : List PriceBar}
    (hfresh : ∀ bucket ∈ older, ∀ bar ∈ bars, bucket.start ≠ windows.start bar.timestamp)
    (resampled : List TimeframeBar) :
    bars.foldl (pushBar windows) (resampled ++ older) =
      bars.foldl (pushBar windows) resampled ++ older := by
  induction bars generalizing resampled with
  | nil => rfl
  | cons bar bars ih =>
    have hrest : ∀ bucket ∈ older, ∀ later ∈ bars,
        bucket.start ≠ windows.start later.timestamp :=
      fun bucket hbucket later hlater => hfresh bucket hbucket later (List.mem_cons_of_mem _ hlater)
    have hpush : pushBar windows (resampled ++ older) bar = pushBar windows resampled bar ++ older := by
      cases resampled with
      | cons newest rest =>
        simp only [pushBar, List.cons_append]
        split <;> rfl
      | nil =>
        cases older with
        | nil => rfl
        | cons newest rest =>
          have hnewest := hfresh newest List.mem_cons_self bar List.mem_cons_self
          simp [pushBar, hnewest]
    rw [List.foldl_cons, List.foldl_cons, hpush]
    exact ih hrest _

/-- Every bucket carries the start of the window of one of its bars. -/
theorem start_of_mem_resample {bars : List PriceBar} {bucket : TimeframeBar}
    (h : bucket ∈ resampleOhlcv windows bars) :
    ∃ bar ∈ bars, windows.start bar.timestamp = bucket.start := by
  have hgeneral : ∀ resampled : List TimeframeBar,
      bucket ∈ bars.foldl (pushBar windows) resampled →
      (∃ bar ∈ bars, windows.start bar.timestamp = bucket.start) ∨
        ∃ old ∈ resampled, old.start = bucket.start := by
    clear h
    induction bars with
    | nil => exact fun resampled hmem => Or.inr ⟨bucket, hmem, rfl⟩
    | cons bar bars ih =>
      intro resampled hmem
      rcases ih _ hmem with ⟨later, hlater, hstart⟩ | ⟨old, hold, hstart⟩
      · exact Or.inl ⟨later, List.mem_cons_of_mem _ hlater, hstart⟩
      · -- the bucket was there before the bar, or the bar opened it or joined it
        unfold pushBar at hold
        split at hold
        · simp only [List.mem_singleton] at hold
          subst hold
          exact Or.inl ⟨bar, List.mem_cons_self, hstart⟩
        · rename_i newest older
          split at hold
          · rcases List.mem_cons.mp hold with hnewest | hold
            · subst hnewest
              exact Or.inr ⟨newest, List.mem_cons_self, hstart⟩
            · exact Or.inr ⟨old, List.mem_cons_of_mem _ hold, hstart⟩
          · rcases List.mem_cons.mp hold with hopened | hold
            · subst hopened
              exact Or.inl ⟨bar, List.mem_cons_self, hstart⟩
            · exact Or.inr ⟨old, hold, hstart⟩
  rcases hgeneral [] (List.mem_reverse.mp h) with hbar | ⟨old, hold, _⟩
  · exact hbar
  · exact absurd hold List.not_mem_nil

/-- Bars that share no window are resampled apart. -/
theorem resampleOhlcv_append {xs ys : List PriceBar}
    (h : ∀ x ∈ xs, ∀ y ∈ ys, windows.start x.timestamp ≠ windows.start y.timestamp) :
    resampleOhlcv windows (xs ++ ys) = resampleOhlcv windows xs ++ resampleOhlcv windows ys := by
  have hfresh : ∀ bucket ∈ xs.foldl (pushBar windows) [], ∀ bar ∈ ys,
      bucket.start ≠ windows.start bar.timestamp := by
    intro bucket hbucket bar hbar
    obtain ⟨x, hx, hstart⟩ := start_of_mem_resample windows (List.mem_reverse.mpr hbucket)
    rw [← hstart]
    exact h x hx bar hbar
  have hfold := foldl_pushBar_append windows hfresh []
  rw [List.nil_append] at hfold
  rw [resampleOhlcv, List.foldl_append, hfold, List.reverse_append]
  rfl

/-- The bars of one window make one bucket. -/
theorem resampleOhlcv_window {bars : List PriceBar} {w : ℚ} (hne : bars ≠ [])
    (h : ∀ bar ∈ bars, windows.start bar.timestamp = w) :
    resampleOhlcv windows bars = [⟨w, (closing bars).1, (closing bars).2⟩] := by
  have hfold : ∀ (bars : List PriceBar) (close volume : ℚ),
      (∀ bar ∈ bars, windows.start bar.timestamp = w) →
      bars.foldl (pushBar windows) [⟨w, close, volume⟩] =
        [⟨w, (bars.map PriceBar.close).getLastD close,
          volume + (bars.map PriceBar.volume).sum⟩] := by
    intro bars
    induction bars with
    | nil => simp
    | cons bar bars ih =>
      intro close volume hall
      have hbar : w = windows.start bar.timestamp := (hall bar List.mem_cons_self).symm
      have hrest := ih bar.close (volume + bar.volume)
        fun later hlater => hall later (List.mem_cons_of_mem _ hlater)
      simp only [List.foldl_cons, pushBar, if_pos hbar, hrest, List.map_cons, List.getLastD_cons,
        List.sum_cons, add_assoc]
  cases bars with
  | nil => exact absurd rfl hne
  | cons bar bars =>
    have hbar := h bar List.mem_cons_self
    have hrest := hfold bars bar.close bar.volume
      fun later hlater => h later (List.mem_cons_of_mem _ hlater)
    simp only [resampleOhlcv, List.foldl_cons, pushBar, hbar, hrest, closing, List.map_cons,
      List.getLastD_cons, List.sum_cons, List.reverse_singleton]

end Buckets

section Rows

variable (transform : MarketImpulseTransform)

theorem map_start_enrichTimeframe (periods : VwmaPeriods) (bars : List TimeframeBar) :
    (enrichTimeframe periods bars).map TimeframeRow.start = bars.map TimeframeBar.start := by
  have hlength : bars.length = (regimeColumn periods (bars.map fun bar => (bar.close, bar.volume))).length := by
    rw [length_regimeColumn, List.length_map]
  apply List.ext_getElem
  · simp [enrichTimeframe, hlength]
  · intro j _ _
    simp [enrichTimeframe]

theorem causal_enrichTimeframe (periods : VwmaPeriods) : Causal (enrichTimeframe periods) :=
  causal_id.zipWith ((causal_regimeColumn periods).comp (causal_map _)) _

/-- The rows of further buckets, after those of the buckets before. -/
theorem enrichTimeframe_append (periods : VwmaPeriods) (bars later : List TimeframeBar) :
    ∃ rows, enrichTimeframe periods (bars ++ later) = enrichTimeframe periods bars ++ rows ∧
      ∀ row ∈ rows, ∃ bar ∈ later, bar.start = row.start := by
  refine ⟨_, (causal_enrichTimeframe periods).append bars later, ?_⟩
  intro row hrow
  have hstart : row.start ∈ ((enrichTimeframe periods (bars ++ later)).map TimeframeRow.start).drop
      bars.length := by
    rw [← List.map_drop]
    exact List.mem_map_of_mem hrow
  rw [map_start_enrichTimeframe, List.map_append, ← List.length_map (f := TimeframeBar.start),
    List.drop_left] at hstart
  exact List.mem_map.mp hstart

/-- Rows that start after the instant play no part in the join. -/
theorem joinAsof_append {rows later : List TimeframeRow} {t : ℚ}
    (h : ∀ row ∈ later, t < row.start) : joinAsof (rows ++ later) t = joinAsof rows t := by
  have hnone : later.filter (fun row => row.start ≤ t) = [] := by
    simpa using h
  rw [joinAsof, List.filter_append, hnone, List.append_nil, joinAsof]

/-- When every row has started, the last one is joined. -/
theorem joinAsof_of_started {rows : List TimeframeRow} {t : ℚ}
    (h : ∀ row ∈ rows, row.start ≤ t) :
    joinAsof rows t = (rows.map TimeframeRow.regime).getLast? := by
  have hall : rows.filter (fun row => row.start ≤ t) = rows := by simpa using h
  rw [joinAsof, hall, List.getLast?_map]

theorem map_regime_enrichTimeframe (periods : VwmaPeriods) (bars : List TimeframeBar) :
    (enrichTimeframe periods bars).map TimeframeRow.regime =
      regimeColumn periods (bars.map fun bar => (bar.close, bar.volume)) := by
  have hlength : bars.length = (regimeColumn periods (bars.map fun bar => (bar.close, bar.volume))).length := by
    rw [length_regimeColumn, List.length_map]
  apply List.ext_getElem
  · simp [enrichTimeframe, hlength]
  · intro j _ _
    simp [enrichTimeframe]

/-- The bars in windows before that of an instant. -/
def earlierBars (windows : Windows) (market : List PriceBar) (t : ℚ) : List PriceBar :=
  market.filter fun bar => windows.start bar.timestamp < windows.start t

/-- The bars in the window of an instant. -/
def windowBars (windows : Windows) (market : List PriceBar) (t : ℚ) : List PriceBar :=
  market.filter fun bar => windows.start bar.timestamp = windows.start t

/-- The regime of a window that holds these bars, after the windows of the earlier bars. -/
def windowRegime (periods : VwmaPeriods) (windows : Windows) (earlier within : List PriceBar) :
    Option Regime :=
  (regimeColumn periods
    ((resampleOhlcv windows earlier).map (fun bar => (bar.close, bar.volume)) ++
      [closing within])).getLast?

/-- The join splits the buckets at the window of an instant: within the window it reads the regime
of that window, and before the window it reads nothing of it. -/
theorem joinAsof_timeframeRows {earlier within later : List PriceBar} {t : ℚ}
    (hne : within ≠ [])
    (hearlier : ∀ bar ∈ earlier,
      transform.windows.start bar.timestamp < transform.windows.start t)
    (hwithin : ∀ bar ∈ within, transform.windows.start bar.timestamp = transform.windows.start t)
    (hlater : ∀ bar ∈ later, transform.windows.start t < transform.windows.start bar.timestamp) :
    (∀ u, transform.windows.start u = transform.windows.start t →
      joinAsof (transform.timeframeRows (earlier ++ (within ++ later))) u =
        windowRegime transform.periods transform.windows earlier within) ∧
    ∀ u, transform.windows.start u < transform.windows.start t →
      joinAsof (transform.timeframeRows (earlier ++ (within ++ later))) u =
        joinAsof (transform.timeframeRows earlier) u := by
  have hfirst : ∀ x ∈ earlier, ∀ y ∈ within ++ later,
      transform.windows.start x.timestamp ≠ transform.windows.start y.timestamp := by
    intro x hx y hy
    have hlt := hearlier x hx
    rcases List.mem_append.mp hy with hy | hy
    · exact ne_of_lt (hlt.trans_eq (hwithin y hy).symm)
    · exact ne_of_lt (hlt.trans (hlater y hy))
  have hsecond : ∀ x ∈ within, ∀ y ∈ later,
      transform.windows.start x.timestamp ≠ transform.windows.start y.timestamp :=
    fun x hx y hy => ne_of_lt ((hwithin x hx).trans_lt (hlater y hy))
  have hresample : resampleOhlcv transform.windows (earlier ++ (within ++ later)) =
      resampleOhlcv transform.windows earlier ++
        ([⟨transform.windows.start t, (closing within).1, (closing within).2⟩] ++
          resampleOhlcv transform.windows later) := by
    rw [resampleOhlcv_append _ hfirst, resampleOhlcv_append _ hsecond,
      resampleOhlcv_window _ hne hwithin]
  -- a window that starts after that of an instant starts after the instant
  have hafter : ∀ u s, transform.windows.start u < transform.windows.start s →
      u < transform.windows.start s :=
    fun u s hlt => lt_of_not_ge fun hle => absurd (transform.windows.start_le_start hle) hlt.not_ge
  constructor
  · intro u hu
    obtain ⟨rows, hrows, hstart⟩ := enrichTimeframe_append transform.periods
      (resampleOhlcv transform.windows earlier ++
        [⟨transform.windows.start t, (closing within).1, (closing within).2⟩])
      (resampleOhlcv transform.windows later)
    have hunstarted : ∀ row ∈ rows, u < row.start := by
      intro row hrow
      obtain ⟨bucket, hbucket, heq⟩ := hstart row hrow
      obtain ⟨bar, hbar, hbarStart⟩ := start_of_mem_resample _ hbucket
      rw [← heq, ← hbarStart]
      exact hafter u _ (hu.trans_lt (hlater bar hbar))
    have hstarted : ∀ row ∈ enrichTimeframe transform.periods
        (resampleOhlcv transform.windows earlier ++
          [⟨transform.windows.start t, (closing within).1, (closing within).2⟩]), row.start ≤ u := by
      intro row hrow
      have hmem := List.mem_map_of_mem (f := TimeframeRow.start) hrow
      rw [map_start_enrichTimeframe] at hmem
      obtain ⟨bucket, hbucket, heq⟩ := List.mem_map.mp hmem
      rw [← heq]
      rcases List.mem_append.mp hbucket with hbucket | hbucket
      · obtain ⟨bar, hbar, hbarStart⟩ := start_of_mem_resample _ hbucket
        rw [← hbarStart]
        exact ((hearlier bar hbar).le.trans hu.ge).trans (transform.windows.start_le u)
      · rw [List.mem_singleton.mp hbucket]
        exact hu.ge.trans (transform.windows.start_le u)
    rw [MarketImpulseTransform.timeframeRows, hresample, ← List.append_assoc, hrows,
      joinAsof_append hunstarted, joinAsof_of_started hstarted, map_regime_enrichTimeframe,
      List.map_append, windowRegime]
    rfl
  · intro u hu
    obtain ⟨rows, hrows, hstart⟩ := enrichTimeframe_append transform.periods
      (resampleOhlcv transform.windows earlier)
      ([⟨transform.windows.start t, (closing within).1, (closing within).2⟩] ++
        resampleOhlcv transform.windows later)
    have hunstarted : ∀ row ∈ rows, u < row.start := by
      intro row hrow
      obtain ⟨bucket, hbucket, heq⟩ := hstart row hrow
      rw [← heq]
      rcases List.mem_append.mp hbucket with hbucket | hbucket
      · rw [List.mem_singleton.mp hbucket]
        exact hafter u t hu
      · obtain ⟨bar, hbar, hbarStart⟩ := start_of_mem_resample _ hbucket
        rw [← hbarStart]
        exact hafter u _ (hu.trans (hlater bar hbar))
    rw [MarketImpulseTransform.timeframeRows, hresample, hrows, joinAsof_append hunstarted,
      MarketImpulseTransform.timeframeRows]

end Rows

section Frames

variable (windows : Windows)

/-- The bars in windows after that of an instant. -/
def laterBars (market : List PriceBar) (t : ℚ) : List PriceBar :=
  market.filter fun bar => windows.start t < windows.start bar.timestamp

/-- Bars in time order fall apart at the window of an instant. -/
theorem window_split {market : List PriceBar}
    (hsorted : market.Pairwise fun a b => a.timestamp < b.timestamp) (t : ℚ) :
    earlierBars windows market t ++ (windowBars windows market t ++ laterBars windows market t) =
      market := by
  have hstarts : market.Pairwise fun a b =>
      windows.start a.timestamp ≤ windows.start b.timestamp :=
    hsorted.imp fun hlt => windows.start_mono _ _ hlt.le
  have hfirst := filter_append_filter_not
    (p := fun bar : PriceBar => decide (windows.start bar.timestamp < windows.start t))
    (hstarts.imp fun hle hlt => by simpa using hle.trans_lt (by simpa using hlt))
  have hrest : (market.filter fun bar =>
      !decide (windows.start bar.timestamp < windows.start t)).Pairwise fun a b =>
        decide (windows.start b.timestamp = windows.start t) = true →
          decide (windows.start a.timestamp = windows.start t) = true := by
    rw [List.pairwise_filter]
    refine hstarts.imp ?_
    intro a b hle ha _ hb
    have hge : windows.start t ≤ windows.start a.timestamp := by simpa using ha
    have heq : windows.start b.timestamp = windows.start t := by simpa using hb
    simpa using le_antisymm (hle.trans_eq heq) hge
  have hsecond := filter_append_filter_not hrest
  have hwithin : windowBars windows market t =
      (market.filter fun bar => !decide (windows.start bar.timestamp < windows.start t)).filter
        fun bar => decide (windows.start bar.timestamp = windows.start t) := by
    rw [windowBars, List.filter_filter]
    apply List.filter_congr
    intro bar _
    by_cases heq : windows.start bar.timestamp = windows.start t <;> simp [heq]
  have hlater : laterBars windows market t =
      (market.filter fun bar => !decide (windows.start bar.timestamp < windows.start t)).filter
        fun bar => !decide (windows.start bar.timestamp = windows.start t) := by
    rw [laterBars, List.filter_filter]
    apply List.filter_congr
    intro bar _
    rcases lt_trichotomy (windows.start bar.timestamp) (windows.start t) with h | h | h
    · simp [h, h.not_gt]
    · simp [h]
    · simp [h, h.not_gt, h.ne']
  rw [hwithin, hlater, hsecond]
  exact hfirst

/-- The bars up to one of them are a prefix. -/
theorem filter_le_eq_take {market : List PriceBar}
    (hsorted : market.Pairwise fun a b => a.timestamp < b.timestamp) {i : ℕ} (hi : i < market.length) :
    market.filter (fun bar => bar.timestamp ≤ market[i].timestamp) = market.take (i + 1) := by
  have hget := List.pairwise_iff_getElem.mp hsorted
  have hseen : (market.take (i + 1)).filter (fun bar => bar.timestamp ≤ market[i].timestamp) =
      market.take (i + 1) := by
    rw [List.filter_eq_self]
    intro bar hbar
    obtain ⟨j, hj, rfl⟩ := List.mem_iff_getElem.mp hbar
    rw [List.length_take] at hj
    rw [List.getElem_take]
    rcases Nat.lt_or_ge j i with hlt | hge
    · simpa using (hget j i (by omega) hi hlt).le
    · have heq : j = i := by omega
      simp [heq]
  have hunseen : (market.drop (i + 1)).filter
      (fun bar => bar.timestamp ≤ market[i].timestamp) = [] := by
    rw [List.filter_eq_nil_iff]
    intro bar hbar
    obtain ⟨j, hj, rfl⟩ := List.mem_iff_getElem.mp hbar
    rw [List.length_drop] at hj
    rw [List.getElem_drop]
    simpa using hget i (i + 1 + j) hi (by omega) (by omega)
  calc market.filter (fun bar => bar.timestamp ≤ market[i].timestamp)
      = (market.take (i + 1) ++ market.drop (i + 1)).filter
          (fun bar => bar.timestamp ≤ market[i].timestamp) := by rw [List.take_append_drop]
    _ = market.take (i + 1) := by rw [List.filter_append, hseen, hunseen, List.append_nil]

/-- The bars seen at an instant are those in windows before it and those seen in its window. -/
theorem seen_split {market : List PriceBar}
    (hsorted : market.Pairwise fun a b => a.timestamp < b.timestamp) (t : ℚ) :
    market.filter (fun bar => bar.timestamp ≤ t) =
      earlierBars windows market t ++
        ((windowBars windows market t).filter (fun bar => bar.timestamp ≤ t) ++ []) := by
  have hearlier : (earlierBars windows market t).filter (fun bar => bar.timestamp ≤ t) =
      earlierBars windows market t := by
    rw [List.filter_eq_self]
    intro bar hbar
    have hlt : windows.start bar.timestamp < windows.start t := by
      simpa using (List.mem_filter.mp hbar).2
    have hseen : bar.timestamp ≤ t :=
      le_of_not_gt fun hgt => absurd (windows.start_mono _ _ hgt.le) hlt.not_ge
    simpa using hseen
  have hlater : (laterBars windows market t).filter (fun bar => bar.timestamp ≤ t) = [] := by
    rw [List.filter_eq_nil_iff]
    intro bar hbar
    have hlt : windows.start t < windows.start bar.timestamp := by
      simpa using (List.mem_filter.mp hbar).2
    have hunseen : t < bar.timestamp :=
      lt_of_not_ge fun hle => absurd (windows.start_mono _ _ hle) hlt.not_ge
    simpa using hunseen
  conv_lhs => rw [← window_split windows hsorted t]
  rw [List.filter_append, List.filter_append, hearlier, hlater]

end Frames

namespace MarketImpulseTransform

variable (transform : MarketImpulseTransform)

/-- The rows up to one of them, of the frame enriched as a whole and of the bars seen then. -/
theorem take_join (market seen : List PriceBar) (n : ℕ) (hseen : seen = market.take n) :
    (transform.join market).take n =
        List.zipWith (enrichedRow (transform.timeframeRows market)) seen
          ((computeVma transform.vmaLength (market.map PriceBar.close)).take n) ∧
      transform.join seen =
        List.zipWith (enrichedRow (transform.timeframeRows seen)) seen
          ((computeVma transform.vmaLength (market.map PriceBar.close)).take n) := by
  have hvma : computeVma transform.vmaLength (seen.map PriceBar.close) =
      (computeVma transform.vmaLength (market.map PriceBar.close)).take n := by
    rw [hseen, List.map_take]
    exact causal_computeVma _ n _
  constructor
  · rw [join, List.take_zipWith, hseen]
  · rw [join, hvma]

theorem zipWith_enrichedRow_congr {rows rows' : List TimeframeRow} {bars : List PriceBar}
    (vma : List ℚ)
    (h : ∀ bar ∈ bars, joinAsof rows bar.timestamp = joinAsof rows' bar.timestamp) :
    List.zipWith (enrichedRow rows) bars vma = List.zipWith (enrichedRow rows') bars vma := by
  apply List.ext_getElem
  · simp
  · intro j hj _
    have hbars : j < bars.length := by
      rw [List.length_zipWith] at hj
      omega
    have hregime := h bars[j] (List.getElem_mem hbars)
    simp [enrichedRow, hregime]

end MarketImpulseTransform

section Decisions

variable (transform : MarketImpulseTransform) (params : EntryParams) (deploymentId : String)

/-- The decision of the replay at a row of the frame enriched as a whole. -/
def replayDecision (enriched : List ImpulseRow) (i : ℕ) : Except PyException SignalDecision :=
  evaluateEntry params transform.etTime deploymentId (enriched.take (i + 1))

/-- `scan_entry_history_with_index_on_enriched`. -/
def scanEntryHistoryWithIndexOnEnriched (enriched : List ImpulseRow) (startAt : ℤ)
    (signalsOnly : Bool) : Except PyException (List (ℕ × SignalDecision)) := do
  let decisions ← ((List.range enriched.length).filter (startAt.toNat ≤ ·)).mapM fun i => do
    return (i, ← replayDecision transform params deploymentId enriched i)
  return decisions.filter fun entry => !signalsOnly || entry.2.signal

/-- Every decision that the scan reports is that of the replay at its row. -/
theorem replayDecision_of_mem_scan {enriched : List ImpulseRow} {startAt : ℤ} {signalsOnly : Bool}
    {entries : List (ℕ × SignalDecision)} {i : ℕ} {decision : SignalDecision}
    (hscan : scanEntryHistoryWithIndexOnEnriched transform params deploymentId enriched startAt
      signalsOnly = .ok entries) (hmem : (i, decision) ∈ entries) :
    i < enriched.length ∧
      replayDecision transform params deploymentId enriched i = .ok decision := by
  unfold scanEntryHistoryWithIndexOnEnriched at hscan
  cases hdecisions : ((List.range enriched.length).filter (startAt.toNat ≤ ·)).mapM
      (fun i => (do return (i, ← replayDecision transform params deploymentId enriched i) :
        Except PyException (ℕ × SignalDecision))) with
  | error e =>
    rw [hdecisions] at hscan
    cases hscan
  | ok decisions =>
    rw [hdecisions] at hscan
    have hentries := Except.ok.inj hscan
    rw [← hentries] at hmem
    obtain ⟨j, hj, hentry⟩ := Except.mem_of_mapM_eq_ok hdecisions (List.mem_filter.mp hmem).1
    have hrow : j < enriched.length := List.mem_range.mp (List.mem_filter.mp hj).1
    cases hdecision : replayDecision transform params deploymentId enriched j with
    | error e => simp [hdecision, bind, Except.bind] at hentry
    | ok d =>
      simp only [hdecision, bind, Except.bind, pure, Except.pure, Except.ok.injEq,
        Prod.mk.injEq] at hentry
      obtain ⟨rfl, rfl⟩ := hentry
      exact ⟨hrow, hdecision⟩

/-- The decision of the live path when the bar of an instant is the newest. -/
def liveDecision (frame : List PriceBar) (t : ℚ) : Except PyException SignalDecision :=
  (transform.apply (frame.filter fun bar => bar.timestamp ≤ t)).bind
    (evaluateEntry params transform.etTime deploymentId)

/-- Every decision reports the regime of the row that it is made on. -/
theorem evaluatePlan_regime (asEtTime : ℚ → ℚ) (frame : List ImpulseRow) (latest : ImpulseRow)
    (plan : EntryPlan) :
    (evaluatePlan params asEtTime deploymentId frame latest plan).features[2]? =
      some (regimeCol params, .text (regimeText latest.regime)) := by
  cases plan <;> rfl

theorem regimeText_injective : Function.Injective regimeText := by
  have htexts : ∀ a b : Regime, a.text = b.text → a = b := by
    intro a b
    cases a <;> cases b <;> decide
  have hnone : ∀ a : Regime, a.text ≠ "None" := by
    intro a
    cases a <;> decide
  intro a b h
  cases a with
  | none =>
    cases b with
    | none => rfl
    | some b => exact absurd h.symm (hnone b)
  | some a =>
    cases b with
    | none => exact absurd h (hnone a)
    | some b => exact congrArg some (htexts a b h)

/-- The decisions on two frames whose latest rows differ in regime differ, unless the parameters are
refused. -/
theorem regime_eq_of_decision_eq {asEtTime : ℚ → ℚ} {plan : EntryPlan} {xs ys : List ImpulseRow}
    {x y : ImpulseRow} (hplan : entryPlan params = .ok plan) (hx : xs.getLast? = some x)
    (hy : ys.getLast? = some y)
    (h : evaluateEntry params asEtTime deploymentId xs =
      evaluateEntry params asEtTime deploymentId ys) : x.regime = y.regime := by
  simp only [evaluateEntry, hx, hy, hplan, Except.map, Except.ok.injEq] at h
  have hfeatures := congrArg (fun decision => decision.features[2]?) h
  simp only [evaluatePlan_regime, Option.some.injEq, Prod.mk.injEq, Feature.text.injEq, true_and]
    at hfeatures
  exact regimeText_injective hfeatures

/-- The bar of an instant is the last of those seen, and the regimes of the two paths part only in
its window. -/
theorem decisions_agree_iff {market : List PriceBar}
    (hsorted : market.Pairwise fun a b => a.timestamp < b.timestamp) {i : ℕ} (hi : i < market.length)
    {t : ℚ} (ht : t = market[i].timestamp) :
    replayDecision transform params deploymentId (transform.join market) i =
        evaluateEntry params transform.etTime deploymentId
          (transform.join (market.filter fun bar => bar.timestamp ≤ t)) ↔
      (∃ refusal, entryPlan params = .error refusal) ∨
        windowRegime transform.periods transform.windows (earlierBars transform.windows market t)
            (windowBars transform.windows market t) =
          windowRegime transform.periods transform.windows (earlierBars transform.windows market t)
            ((windowBars transform.windows market t).filter fun bar => bar.timestamp ≤ t) := by
  have hseen : market.filter (fun bar => bar.timestamp ≤ t) = market.take (i + 1) := by
    rw [ht]
    exact filter_le_eq_take hsorted hi
  have hwithin : market[i] ∈ windowBars transform.windows market t := by
    simp [windowBars, ht]
  have hwithinSeen : market[i] ∈
      (windowBars transform.windows market t).filter fun bar => bar.timestamp ≤ t :=
    List.mem_filter.mpr ⟨hwithin, by simp [ht]⟩
  have hearlier : ∀ bar ∈ earlierBars transform.windows market t,
      transform.windows.start bar.timestamp < transform.windows.start t := by
    simp [earlierBars]
  have hwindow : ∀ bar ∈ windowBars transform.windows market t,
      transform.windows.start bar.timestamp = transform.windows.start t := by
    simp [windowBars]
  have hlater : ∀ bar ∈ laterBars transform.windows market t,
      transform.windows.start t < transform.windows.start bar.timestamp := by
    simp [laterBars]
  have hwhole := joinAsof_timeframeRows transform (List.ne_nil_of_mem hwithin) hearlier hwindow hlater
  rw [window_split transform.windows hsorted t] at hwhole
  have hnothing : ∀ bar ∈ ([] : List PriceBar),
      transform.windows.start t < transform.windows.start bar.timestamp := by
    simp
  have hpast := joinAsof_timeframeRows transform (List.ne_nil_of_mem hwithinSeen)
    hearlier (fun bar hbar => hwindow bar (List.mem_filter.mp hbar).1) hnothing
  rw [← seen_split transform.windows hsorted t] at hpast
  obtain ⟨hreplay, hlive⟩ := transform.take_join market _ (i + 1) hseen
  have hvma : i < (computeVma transform.vmaLength (market.map PriceBar.close)).length := by
    rwa [length_computeVma, List.length_map]
  have hlatest : ∀ rows : List TimeframeRow,
      (List.zipWith (MarketImpulseTransform.enrichedRow rows)
        (market.filter fun bar => bar.timestamp ≤ t)
        ((computeVma transform.vmaLength (market.map PriceBar.close)).take (i + 1))).getLast? =
      some (MarketImpulseTransform.enrichedRow rows market[i]
        (computeVma transform.vmaLength (market.map PriceBar.close))[i]) := by
    intro rows
    rw [hseen]
    exact getLast?_zipWith_take _ hi hvma
  rw [replayDecision, hreplay, hlive]
  cases hplan : entryPlan params with
  | error refusal => simp [evaluateEntry, hlatest, hplan, Except.map]
  | ok plan =>
    have hnever : ¬∃ refusal, (Except.ok plan : Except PyException EntryPlan) = .error refusal := by
      simp
    rw [or_iff_right hnever]
    constructor
    · intro heq
      have hregime := regime_eq_of_decision_eq params deploymentId hplan (hlatest _) (hlatest _) heq
      simp only [MarketImpulseTransform.enrichedRow, ← ht] at hregime
      rwa [hwhole.1 t rfl, hpast.1 t rfl] at hregime
    · intro heq
      -- a row before the window reads earlier buckets only, a row in it reads its regime
      have hregimes : ∀ bar ∈ market.filter (fun bar => bar.timestamp ≤ t),
          joinAsof (transform.timeframeRows market) bar.timestamp =
            joinAsof (transform.timeframeRows
              (market.filter fun bar => bar.timestamp ≤ t)) bar.timestamp := by
        intro bar hbar
        have hle : bar.timestamp ≤ t := by simpa using (List.mem_filter.mp hbar).2
        rcases (transform.windows.start_mono _ _ hle).lt_or_eq with hlt | hsame
        · rw [hwhole.2 _ hlt, hpast.2 _ hlt]
        · rw [hwhole.1 _ hsame, hpast.1 _ hsame, heq]
      rw [MarketImpulseTransform.zipWith_enrichedRow_congr _ hregimes]

theorem filterMarketHours_filter (frame : List PriceBar) (p : PriceBar → Bool) :
    transform.filterMarketHours (frame.filter p) = (transform.filterMarketHours frame).filter p := by
  rw [MarketImpulseTransform.filterMarketHours, MarketImpulseTransform.filterMarketHours,
    List.filter_filter, List.filter_filter]
  apply List.filter_congr
  intro bar _
  exact Bool.and_comm _ _

/-- An enriched frame with a row is the join over its bars in the session. -/
theorem apply_eq_ok {frame : List PriceBar} {enriched : List ImpulseRow}
    (happly : transform.apply frame = .ok enriched) (hne : enriched ≠ []) :
    transform.windowsGiven = true ∧ enriched = transform.join (transform.filterMarketHours frame) := by
  simp only [MarketImpulseTransform.apply] at happly
  split at happly
  · exact absurd (Except.ok.inj happly).symm hne
  · split at happly
    · exact ⟨by assumption, (Except.ok.inj happly).symm⟩
    · cases happly

/-- The row of an enriched frame is that of a bar in the session, and the live path at its instant runs on
the bars of the session up to it. -/
theorem live_of_apply {frame : List PriceBar} {enriched : List ImpulseRow}
    (happly : transform.apply frame = .ok enriched) {i : ℕ} (hi : i < enriched.length) :
    ∃ hmarket : i < (transform.filterMarketHours frame).length,
      enriched[i].timestamp = (transform.filterMarketHours frame)[i].timestamp ∧
      enriched = transform.join (transform.filterMarketHours frame) ∧
      liveDecision transform params deploymentId frame enriched[i].timestamp =
        evaluateEntry params transform.etTime deploymentId
          (transform.join ((transform.filterMarketHours frame).filter fun bar =>
            bar.timestamp ≤ enriched[i].timestamp)) := by
  obtain ⟨hgiven, rfl⟩ := apply_eq_ok transform happly (List.ne_nil_of_length_pos (by omega))
  have hmarket : i < (transform.filterMarketHours frame).length := by
    rw [MarketImpulseTransform.join, List.length_zipWith] at hi
    omega
  have ht : ((transform.join (transform.filterMarketHours frame))[i]).timestamp =
      (transform.filterMarketHours frame)[i].timestamp := by
    simp [MarketImpulseTransform.join, MarketImpulseTransform.enrichedRow]
  have hseen : (transform.filterMarketHours frame)[i] ∈
      (transform.filterMarketHours frame).filter fun bar =>
        bar.timestamp ≤ (transform.filterMarketHours frame)[i].timestamp :=
    List.mem_filter.mpr ⟨List.getElem_mem hmarket, by simp⟩
  refine ⟨hmarket, ht, rfl, ?_⟩
  rw [ht, liveDecision, MarketImpulseTransform.apply, filterMarketHours_filter]
  simp only [List.isEmpty_iff, List.ne_nil_of_mem hseen, hgiven, if_true, if_false, Except.bind]

/-- The replay of a deployment decides at a row as the live path did exactly if the parameters are
refused or the minutes of the row's window after it leave the regime of that window alone. -/
theorem replay_agrees_with_live_iff (frame : List PriceBar)
    (hsorted : frame.Pairwise fun a b => a.timestamp < b.timestamp) (enriched : List ImpulseRow)
    (happly : transform.apply frame = .ok enriched) (i : ℕ) (hi : i < enriched.length) :
    replayDecision transform params deploymentId enriched i =
        liveDecision transform params deploymentId frame enriched[i].timestamp ↔
      (∃ refusal, entryPlan params = .error refusal) ∨
        windowRegime transform.periods transform.windows
            (earlierBars transform.windows (transform.filterMarketHours frame) enriched[i].timestamp)
            (windowBars transform.windows (transform.filterMarketHours frame)
              enriched[i].timestamp) =
          windowRegime transform.periods transform.windows
            (earlierBars transform.windows (transform.filterMarketHours frame) enriched[i].timestamp)
            ((windowBars transform.windows (transform.filterMarketHours frame)
              enriched[i].timestamp).filter fun bar => bar.timestamp ≤ enriched[i].timestamp) := by
  obtain ⟨hmarket, ht, rfl, hlive⟩ := live_of_apply transform params deploymentId happly hi
  rw [hlive]
  exact decisions_agree_iff transform params deploymentId (hsorted.filter _) hmarket ht

/-- In particular they agree where no bar of the row's window comes after it in the session. -/
theorem replay_eq_live_of_window_over {frame : List PriceBar}
    (hsorted : frame.Pairwise fun a b => a.timestamp < b.timestamp) {enriched : List ImpulseRow}
    (happly : transform.apply frame = .ok enriched) {i : ℕ} (hi : i < enriched.length)
    (hover : ∀ bar ∈ windowBars transform.windows (transform.filterMarketHours frame)
      enriched[i].timestamp, bar.timestamp ≤ enriched[i].timestamp) :
    replayDecision transform params deploymentId enriched i =
      liveDecision transform params deploymentId frame enriched[i].timestamp := by
  obtain ⟨hmarket, ht, rfl, hlive⟩ := live_of_apply transform params deploymentId happly hi
  have hsession : (transform.filterMarketHours frame).Pairwise
      fun a b => a.timestamp < b.timestamp := hsorted.filter _
  rw [hlive, decisions_agree_iff transform params deploymentId hsession hmarket ht]
  right
  rw [List.filter_eq_self.mpr fun bar hbar => decide_eq_true (hover bar hbar)]

end Decisions

section HourlyRegime

/-- Hourly windows and the periods 1, 2 and 3; the instants are seconds of a New York day. -/
def hourlyTransform : MarketImpulseTransform where
  vmaLength := 10
  periods := ⟨1, 2, 3, []⟩
  windows := .every 3600 (by norm_num)
  etTime t := t

def flatBar (minutes : ℚ) (close : ℚ) : PriceBar where
  timestamp := minutes * 60
  symbol := "QQQ"
  high := close
  low := 10
  close := close
  volume := 1

/-- A rise until 11:00 and a fall at 11:30, in the same hour. -/
def fallingHour : List PriceBar :=
  [flatBar 570 10, flatBar 600 11, flatBar 660 12, flatBar 690 5]

def twoHourParams : EntryParams := { entryWindowMinutes := 120 }

theorem fallingHour_sorted : fallingHour.Pairwise fun a b => a.timestamp < b.timestamp := by
  decide +kernel

theorem apply_fallingHour :
    hourlyTransform.apply fallingHour = .ok (hourlyTransform.join fallingHour) := by
  have hmarket : hourlyTransform.filterMarketHours fallingHour = fallingHour := by decide +kernel
  rw [MarketImpulseTransform.apply, hmarket]
  rfl

/-- The same hour with a rise to the end and a fall in the hour after it. -/
def risingHour : List PriceBar :=
  [flatBar 570 10, flatBar 600 11, flatBar 660 12, flatBar 690 13, flatBar 720 5]

theorem apply_risingHour :
    hourlyTransform.apply risingHour = .ok (hourlyTransform.join risingHour) := by
  have hmarket : hourlyTransform.filterMarketHours risingHour = risingHour := by decide +kernel
  rw [MarketImpulseTransform.apply, hmarket]
  rfl

/-- At 11:00 the bar that is still to come in the hour leaves its regime alone. -/
theorem replay_agrees_with_live_iff_rising_hour :
    replayDecision hourlyTransform twoHourParams "mi" (hourlyTransform.join risingHour) 2 =
      liveDecision hourlyTransform twoHourParams "mi" risingHour (660 * 60) :=
  (replay_agrees_with_live_iff hourlyTransform twoHourParams "mi" risingHour (by decide +kernel) _
    apply_risingHour 2 (by decide +kernel)).mpr (Or.inr (by decide +kernel))

/-- At 11:00 the live path enters and the replay, which has seen the fall, does not. -/
theorem replay_reads_the_rest_of_the_hour :
    ¬∀ (transform : MarketImpulseTransform) (params : EntryParams) (deploymentId : String)
      (frame : List PriceBar), (frame.Pairwise fun a b => a.timestamp < b.timestamp) →
      ∀ enriched, transform.apply frame = .ok enriched → ∀ (i : ℕ) (hi : i < enriched.length),
        replayDecision transform params deploymentId enriched i =
          liveDecision transform params deploymentId frame enriched[i].timestamp := by
  intro h
  have hsame := h hourlyTransform twoHourParams "mi" fallingHour fallingHour_sorted _
    apply_fallingHour 2 (by decide +kernel)
  have hreplay : ((replayDecision hourlyTransform twoHourParams "mi"
      (hourlyTransform.join fallingHour) 2).map SignalDecision.signal).toOption = some false := by
    decide +kernel
  have hlive : ((liveDecision hourlyTransform twoHourParams "mi" fallingHour
      (660 * 60)).map SignalDecision.signal).toOption = some true := by
    decide +kernel
  have hlength : 2 < (hourlyTransform.join fallingHour).length := by decide +kernel
  have hrow : (hourlyTransform.join fallingHour)[2]?.map ImpulseRow.timestamp =
      some (660 * 60) := by
    decide +kernel
  rw [List.getElem?_eq_getElem hlength] at hrow
  have ht : (hourlyTransform.join fallingHour)[2].timestamp = 660 * 60 := Option.some.inj hrow
  rw [ht] at hsame
  rw [hsame, hlive] at hreplay
  cases hreplay

end HourlyRegime

end Bhiksha
