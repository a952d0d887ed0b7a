import Mathlib.Tactic.FieldSimp
import Bhiksha.Risk.RailALoss

/-! When a session halt is final for every later entry consult. -/

namespace Bhiksha

open Library

variable {newYorkDate : ℚ → ℤ} {settings : RiskSettings}

/-- The call computed a Rail A status that is an active breach. -/
def observesBreach (newYorkDate : ℚ → ℤ) (settings : RiskSettings)
    (e : Event RiskManager RiskCall RiskResult) : Bool :=
  (e.call.observed newYorkDate settings e.before).any RailAStatus.breached

/-- After a call that observes a breach, no later entry consult is allowed. -/
def HaltFinal (newYorkDate : ℚ → ℤ) (settings : RiskSettings) (calls : List RiskCall) : Prop :=
  (session newYorkDate settings calls).Pairwise fun e f =>
    observesBreach newYorkDate settings e → f.result.allowed = false

/-- On every budget row that a book consult reads, the halt threshold is the wider one. -/
def HaltIsWider (settings : RiskSettings) (calls : List RiskCall) : Prop :=
  ∀ reads, .bookActions reads ∈ calls → ∀ day, reads.budgetDay = .ok (some day) →
    settings.maxDailyDrawdownPct * day.usableBudget ≤
      settings.flattenDailyDrawdownPct * day.usableBudget

theorem halted_of_flatten {reads : BookReads}
    (hwider : ∀ day, reads.budgetDay = .ok (some day) →
      settings.maxDailyDrawdownPct * day.usableBudget ≤
        settings.flattenDailyDrawdownPct * day.usableBudget)
    (h : (computeRailAStatus newYorkDate settings reads).flatten) :
    (computeRailAStatus newYorkDate settings reads).halted := by
  revert h
  unfold computeRailAStatus
  split
  · exact fun h => nomatch h
  split
  · exact fun h => nomatch h
  · exact fun h => nomatch h
  next day hday =>
  split
  · exact fun h => nomatch h
  next pnl hpnl =>
  simp only [evaluateRailA, decide_eq_true_eq]
  intro hflatten
  have htiers := hwider day hday
  linarith

theorem sessionHalted_riskStep (call : RiskCall) (manager : RiskManager)
    (h : manager.sessionHalted) : (riskStep newYorkDate settings call manager).2.sessionHalted := by
  cases call with
  | allowEntry deploymentId reads =>
    rw [show (riskStep newYorkDate settings (.allowEntry deploymentId reads) manager).2 =
      (allowEntry newYorkDate settings deploymentId reads manager).2 from rfl,
      (allowEntry_latches deploymentId reads manager).1, h]
    rfl
  | bookActions reads =>
    change (bookActions newYorkDate settings reads manager).2.sessionHalted
    unfold bookActions
    simp only
    split
    · exact h
    · simp [bookActionsUncached, h]
  | reserveSizedEntry entry reads =>
    change (reserveSizedEntry newYorkDate settings entry reads manager).2.sessionHalted
    rw [(reserveSizedEntry_latches entry reads manager).1, h]
    rfl
  | releaseSizedEntry tradeId => exact h
  | commitSizedEntry tradeId => exact h

/-- Observing a breach halts the session, if a flattening book consult also halts. -/
theorem sessionHalted_of_observed {call : RiskCall} {manager : RiskManager}
    (hbook : ∀ reads, call = .bookActions reads →
      (computeRailAStatus newYorkDate settings reads).flatten →
        (computeRailAStatus newYorkDate settings reads).halted)
    (h : (call.observed newYorkDate settings manager).any RailAStatus.breached) :
    (riskStep newYorkDate settings call manager).2.sessionHalted := by
  cases call with
  | allowEntry deploymentId reads =>
    change (allowEntry newYorkDate settings deploymentId reads manager).2.sessionHalted
    rw [(allowEntry_latches deploymentId reads manager).1]
    simpa [RiskCall.observed] using Or.inr h
  | bookActions reads =>
    change (bookActions newYorkDate settings reads manager).2.sessionHalted
    unfold RiskCall.observed at h
    simp only at h
    split at h
    · cases h
    next hstale =>
    have hmiss : manager.cache.filter (fun entry => entry.1 = ⌊reads.now / 60⌋) = none := by
      cases hc : manager.cache with
      | none => rfl
      | some entry => simpa [hc] using hstale
    have hbreach : (computeRailAStatus newYorkDate settings reads).active = true ∧
        (computeRailAStatus newYorkDate settings reads).halted = true := by
      simp only [Option.any_some, RailAStatus.breached, Bool.and_eq_true, Bool.or_eq_true] at h
      exact ⟨h.1, h.2.elim id (hbook reads rfl)⟩
    simp [bookActions, hmiss, bookActionsUncached, hbreach]
  | reserveSizedEntry entry reads =>
    change (reserveSizedEntry newYorkDate settings entry reads manager).2.sessionHalted
    rw [(reserveSizedEntry_latches entry reads manager).1, h, Bool.or_true]
  | releaseSizedEntry tradeId => cases h
  | commitSizedEntry tradeId => cases h

theorem allowEntry_of_halted {deploymentId : String} {reads : BookReads} {manager : RiskManager}
    (h : manager.sessionHalted) :
    (allowEntry newYorkDate settings deploymentId reads manager).1 =
      .ok ⟨false, .tier1Halt, some "A"⟩ := by
  simp [allowEntry, h]

theorem prospectiveRefusal_of_halted {entry : SizedEntry} {reads : BookReads}
    {manager : RiskManager} (hon : settings.prospectiveLossEnabled) (h : manager.sessionHalted)
    (trades : List TradeRecord) (others : List EntryRiskReservation) :
    ∃ refusal, (entry.prospectiveRefusal newYorkDate settings reads manager trades others).1 =
      some refusal := by
  unfold SizedEntry.prospectiveRefusal
  simp only [hon, h, Bool.not_true, Bool.false_eq_true, if_false, Bool.true_or, if_true]
  split
  · exact ⟨_, rfl⟩
  · exact ⟨_, rfl⟩

/-- With the prospective rail on, a halted session refuses every sized entry. -/
theorem reserveSizedEntry_of_halted {entry : SizedEntry} {reads : BookReads} {manager : RiskManager}
    (hon : settings.prospectiveLossEnabled) (h : manager.sessionHalted) :
    (reserveSizedEntry newYorkDate settings entry reads manager).1.decision.allowed = false := by
  by_contra hallowed
  rw [Bool.not_eq_false] at hallowed
  obtain ⟨book, -, hnone⟩ := reserveSizedEntry_allowed hallowed
  obtain ⟨refusal, hrefusal⟩ := @prospectiveRefusal_of_halted newYorkDate
    settings entry reads manager hon h book.trades book.others
  rw [hnone] at hrefusal
  cases hrefusal

/-- With the prospective rail off, the consult never looks at the session. -/
theorem reserveSizedEntry_of_prospective_off {entry : SizedEntry} {reads : BookReads}
    (hoff : settings.prospectiveLossEnabled = false) (manager manager' : RiskManager) :
    (reserveSizedEntry newYorkDate settings entry reads manager).1 =
      (reserveSizedEntry newYorkDate settings entry reads manager').1 := by
  unfold reserveSizedEntry SizedEntry.prospectiveRefusal
  simp only [hoff, Bool.not_false, if_true]
  split <;> rfl

/-- After an observed breach every later call of the session meets the latch. -/
theorem halted_after_breach {calls : List RiskCall} (hwider : HaltIsWider settings calls) :
    (session newYorkDate settings calls).Pairwise fun e f =>
      observesBreach newYorkDate settings e → f.before.sessionHalted := by
  have hlatched := pairwise_trace
    (R := fun m m' : RiskManager => m.sessionHalted = true → m'.sessionHalted = true)
    (fun _ h => h) (fun h h' hm => h' (h hm))
    (fun call manager => @sessionHalted_riskStep newYorkDate settings call manager) {} calls
  refine hlatched.imp_of_mem ?_
  intro e f he _ hkeep hobserved
  have hcall := call_mem_of_mem_trace he
  have hev := (eq_event_of_mem_trace (I := fun _ => True) (fun _ _ _ => trivial) trivial he).2
  apply hkeep
  rw [congrArg Event.after hev]
  apply sessionHalted_of_observed _ hobserved
  intro reads hreads
  exact halted_of_flatten (hwider reads (hreads ▸ hcall))

/-- With the prospective rail on, the latch is enough to make a halt final. -/
theorem haltFinal_of_wider (hon : settings.prospectiveLossEnabled) {calls : List RiskCall}
    (hwider : HaltIsWider settings calls) : HaltFinal newYorkDate settings calls := by
  refine (halted_after_breach hwider).imp_of_mem ?_
  intro e f _ hf hlatch hobserved
  have hhalted := hlatch hobserved
  have hev := (eq_event_of_mem_trace (I := fun _ => True) (fun _ _ _ => trivial) trivial hf).2
  rw [congrArg Event.result hev]
  cases hcall : f.call with
  | allowEntry deploymentId reads =>
    change RiskResult.allowed (.entry (allowEntry newYorkDate settings deploymentId reads _).1) = false
    rw [allowEntry_of_halted hhalted]
    rfl
  | bookActions reads => rfl
  | reserveSizedEntry entry reads => exact reserveSizedEntry_of_halted hon hhalted
  | releaseSizedEntry tradeId => rfl
  | commitSizedEntry tradeId => rfl

namespace HaltRun

/-- A closed live trade of today that realized a whole number of hundred dollars. -/
def closedTrade (hundreds : ℤ) : TradeRecord where
  tradeId := "t"
  deploymentId := "d"
  symbol := ""
  quantity := 1
  entryPrice := some 0
  status := "closed"
  entryOrderId := some "E"
  exitPrice := some hundreds
  exitFilledAt := some 0

def reads (usableBudget : ℚ) (hundreds : ℤ) : BookReads :=
  { IdleBook.reads usableBudget with recentTrades := .ok [closedTrade hundreds] }

/-- An entry outside every cluster whose planned loss rounds to zero. -/
def entry : SizedEntry where
  tradeId := "new"
  deploymentId := "d"
  symbol := ""
  entryPrice := 1
  quantity := 1
  stopLossPct := some (1 / 1000000)

/-- A book consult that breaches, then a sized entry on a winning book. -/
def calls (first : BookReads) : List RiskCall :=
  [.bookActions first, .reserveSizedEntry entry (reads 0 1)]

end HaltRun

section Converse

open HaltRun

theorem roundTo_two_hundreds (n : ℤ) : Python.roundTo 2 ((n : ℚ) * 100) = (n : ℚ) * 100 := by
  apply Python.roundTo_of_mem
  rw [Python.mem_decimalGrid_iff]
  exact ⟨n * 10000, by push_cast; ring⟩

theorem realizedPnl_reads (usableBudget : ℚ) (hundreds : ℤ) :
    (HaltRun.reads usableBudget hundreds).realizedPnl newYorkDate = .ok ((hundreds : ℚ) * 100) := by
  have hfinal : realizedPnlUsd (closedTrade hundreds) = some ((hundreds : ℚ) * 100) := by
    simp [realizedPnlUsd, closedTrade, roundTo_two_hundreds]
  have hclosed : isClosedTrade (closedTrade hundreds) = true := rfl
  have hlegs : confirmedPartialLegs (closedTrade hundreds) [] = [] := rfl
  have htoday : filledToday newYorkDate (newYorkDate 0) (closedTrade hundreds).exitFilledAt := by
    simp [filledToday, closedTrade]
  have hlive : isLiveTrade (closedTrade hundreds) := by
    have horder : ("E" ≠ shadowEntryOrderId && !"E".startsWith "DRY_RUN") = true := by
      decide +kernel
    exact horder
  have htrade : tradePnlToday newYorkDate (newYorkDate 0) (closedTrade hundreds) [] =
      (hundreds : ℚ) * 100 := by
    simp [tradePnlToday, hfinal, hclosed, htoday, hlegs]
  have hrelevant : isRelevantToday newYorkDate (newYorkDate 0) (closedTrade hundreds) := by
    simp [isRelevantToday, hlive, hclosed, htoday]
  simp [BookReads.realizedPnl, HaltRun.reads, IdleBook.reads, realizedLivePnlToday, hrelevant,
    htrade, roundTo_two_hundreds, bind, Except.bind, pure, Except.pure]

theorem computeRailAStatus_reads (hA : settings.railAEnabled) (usableBudget : ℚ) (hundreds : ℤ) :
    computeRailAStatus newYorkDate settings (HaltRun.reads usableBudget hundreds) =
      evaluateRailA settings usableBudget ((hundreds : ℚ) * 100) (newYorkDate 0) := by
  have hpnl := @realizedPnl_reads newYorkDate usableBudget hundreds
  unfold computeRailAStatus
  simp only [hA, Bool.not_true, Bool.false_eq_true, if_false, hpnl]
  rfl

/-- A winning book without budget breaches nothing, whatever the percentages are. -/
theorem reads_winning_not_breached (hA : settings.railAEnabled) :
    (computeRailAStatus newYorkDate settings (HaltRun.reads 0 1)).breached = false := by
  rw [computeRailAStatus_reads hA]
  simp [evaluateRailA, RailAStatus.breached]

theorem readBook_entry :
    entry.readBook settings (HaltRun.reads 0 1) = .ok ⟨[], [], []⟩ := by
  have hcluster : correlationCluster entry.symbol = none := by decide +kernel
  have hproposed : entry.proposedLoss = some 0 := by decide +kernel
  unfold SizedEntry.readBook
  simp [hproposed, SizedEntry.clusterAtCap, hcluster, HaltRun.reads, IdleBook.reads,
    SizedEntry.book, SizedEntry.otherReservations, SizedEntry.liveOpenTrades]

/-- A winning status leaves the entry its whole budget. -/
theorem lossBudgetRefusal_winning {railA : RailAStatus} (h : railA.realizedLivePnlUsd = some 100) :
    entry.lossBudgetRefusal railA [] [] = none := by
  have hproposed : entry.proposedLoss = some 0 := by decide +kernel
  have htotal : entry.prospectiveTotal railA [] [] = 0 := by
    simp only [SizedEntry.prospectiveTotal, h, hproposed]
    decide +kernel
  have hcap := abs_nonneg (railA.haltThresholdUsd.getD 0)
  simp [SizedEntry.lossBudgetRefusal, htotal, hcap]

/-- An unlatched session approves the entry on the winning book. -/
theorem reserveSizedEntry_winning (hA : settings.railAEnabled) {manager : RiskManager}
    (h : manager.sessionHalted = false) :
    (reserveSizedEntry newYorkDate settings entry (HaltRun.reads 0 1) manager).1.decision.allowed := by
  have hbreach := @reads_winning_not_breached newYorkDate settings hA
  have hactive : (computeRailAStatus newYorkDate settings (HaltRun.reads 0 1)).active := by
    rw [computeRailAStatus_reads hA]
    rfl
  have hpnl : (computeRailAStatus newYorkDate settings (HaltRun.reads 0 1)).realizedLivePnlUsd =
      some 100 := by
    rw [computeRailAStatus_reads hA]
    simp [evaluateRailA]
  have hrefusal : (entry.prospectiveRefusal newYorkDate settings (HaltRun.reads 0 1) manager [] []).1 =
      none := by
    unfold SizedEntry.prospectiveRefusal
    by_cases hon : settings.prospectiveLossEnabled
    · simp [hon, hbreach, h, hactive, lossBudgetRefusal_winning hpnl]
    · simp [hon]
  unfold reserveSizedEntry
  simp only [readBook_entry]
  split
  · next heq =>
    rw [heq] at hrefusal
    cases hrefusal
  · rfl

/-- A first book consult that breaches without latching, or with the prospective rail off. -/
theorem not_haltFinal_calls (hA : settings.railAEnabled) {first : BookReads}
    (hbreach : (computeRailAStatus newYorkDate settings first).breached)
    (hmissed : settings.prospectiveLossEnabled = false ∨
      (computeRailAStatus newYorkDate settings first).halted = false) :
    ¬HaltFinal newYorkDate settings (calls first) := by
  intro hfinal
  have hpair := List.pairwise_cons.mp hfinal
  have hrefused : (reserveSizedEntry newYorkDate settings entry (HaltRun.reads 0 1)
      (bookActions newYorkDate settings first {}).2).1.decision.allowed = false :=
    hpair.1 _ List.mem_cons_self hbreach
  have hallowed : (reserveSizedEntry newYorkDate settings entry (HaltRun.reads 0 1)
      (bookActions newYorkDate settings first {}).2).1.decision.allowed = true := by
    rcases hmissed with hoff | hunhalted
    · rw [reserveSizedEntry_of_prospective_off hoff _ {}]
      exact reserveSizedEntry_winning hA rfl
    · apply reserveSizedEntry_winning hA
      simp [bookActions, bookActionsUncached, hunhalted]
  rw [hallowed] at hrefused
  cases hrefused

/-- Different tiers leave room for a P&L that flattens without halting; the sign of the budget is that
of their difference. -/
theorem exists_flatten_without_halt
    (htiers : settings.maxDailyDrawdownPct ≠ settings.flattenDailyDrawdownPct) (tradeDate : ℤ) :
    ∃ hundreds : ℤ,
      (evaluateRailA settings
        (10000 / (settings.maxDailyDrawdownPct - settings.flattenDailyDrawdownPct))
        ((hundreds : ℚ) * 100) tradeDate).flatten ∧
      (evaluateRailA settings
        (10000 / (settings.maxDailyDrawdownPct - settings.flattenDailyDrawdownPct))
        ((hundreds : ℚ) * 100) tradeDate).halted = false := by
  set m := settings.maxDailyDrawdownPct with hm
  set f := settings.flattenDailyDrawdownPct with hf
  have hgap : m - f ≠ 0 := sub_ne_zero.mpr htiers
  -- both thresholds in hundreds of dollars; the flatten one lies exactly one above
  have hflatten : -(f / 100) * (10000 / (m - f)) = (-f / (m - f)) * 100 := by
    field_simp
    ring
  have hhalt : -(m / 100) * (10000 / (m - f)) = (-f / (m - f) - 1) * 100 := by
    field_simp
    ring
  refine ⟨⌊-f / (m - f)⌋, ?_, ?_⟩
  · have hle := Int.floor_le (-f / (m - f))
    simp only [evaluateRailA, decide_eq_true_eq, ← hf, hflatten]
    linarith
  · have hlt := Int.sub_one_lt_floor (-f / (m - f))
    simp only [evaluateRailA, decide_eq_false_iff_not, not_le, ← hm, hhalt]
    linarith

end Converse

/-- Every budget row that the calls read is nonnegative, as `CashGuard` writes them. -/
def BudgetsNonneg (calls : List RiskCall) : Prop :=
  ∀ call ∈ calls, ∀ reads ∈ call.reads, BudgetNonneg reads

open HaltRun in
theorem budgetsNonneg_calls {usableBudget : ℚ} (h : 0 ≤ usableBudget) (hundreds : ℤ) :
    BudgetsNonneg (calls (HaltRun.reads usableBudget hundreds)) := by
  intro call hcall reads hreads day hday
  simp only [calls, List.mem_cons, List.not_mem_nil, or_false] at hcall
  rcases hcall with rfl | rfl
  · obtain rfl : HaltRun.reads usableBudget hundreds = reads := Option.some.inj hreads
    obtain rfl := Option.some.inj (Except.ok.inj hday)
    exact h
  · obtain rfl : HaltRun.reads 0 1 = reads := Option.some.inj hreads
    obtain rfl := Option.some.inj (Except.ok.inj hday)
    exact le_refl _

open HaltRun in
theorem prospective_of_haltFinal (hA : settings.railAEnabled)
    (h : ∀ calls, BudgetsNonneg calls → HaltFinal newYorkDate settings calls) :
    settings.prospectiveLossEnabled := by
  by_contra hoff
  rw [Bool.not_eq_true] at hoff
  have hbreach : (computeRailAStatus newYorkDate settings (HaltRun.reads 0 0)).breached := by
    rw [computeRailAStatus_reads hA]
    simp [RailAStatus.breached, evaluateRailA]
  exact not_haltFinal_calls hA hbreach (Or.inl hoff) (h _ (budgetsNonneg_calls (le_refl 0) 0))

open HaltRun in
/-- Different tiers: a book consult of the session flattens and leaves the session open. -/
theorem exists_not_haltFinal (hA : settings.railAEnabled)
    (htiers : settings.maxDailyDrawdownPct ≠ settings.flattenDailyDrawdownPct) :
    ∃ hundreds : ℤ, ¬HaltFinal newYorkDate settings (calls (HaltRun.reads
      (10000 / (settings.maxDailyDrawdownPct - settings.flattenDailyDrawdownPct)) hundreds)) := by
  obtain ⟨hundreds, hflatten, hunhalted⟩ := exists_flatten_without_halt htiers (newYorkDate 0)
  rw [← computeRailAStatus_reads hA] at hflatten hunhalted
  refine ⟨hundreds, not_haltFinal_calls hA ?_ (Or.inr hunhalted)⟩
  have hactive : (computeRailAStatus newYorkDate settings (HaltRun.reads
      (10000 / (settings.maxDailyDrawdownPct - settings.flattenDailyDrawdownPct))
      hundreds)).active := by
    rw [computeRailAStatus_reads hA]
    rfl
  simp [RailAStatus.breached, hactive, hflatten]

/-- A session halt is final in every session with nonnegative budgets exactly when the prospective
rail is on and the flatten tier is not below the halt tier, and in every session at all exactly when
the two tiers are moreover equal. -/
theorem session_halt_final_iff (newYorkDate : ℚ → ℤ) {settings : RiskSettings}
    (hA : settings.railAEnabled) :
    ((∀ calls, BudgetsNonneg calls → HaltFinal newYorkDate settings calls) ↔
      settings.prospectiveLossEnabled ∧
        settings.maxDailyDrawdownPct ≤ settings.flattenDailyDrawdownPct) ∧
    ((∀ calls, HaltFinal newYorkDate settings calls) ↔
      settings.prospectiveLossEnabled ∧
        settings.maxDailyDrawdownPct = settings.flattenDailyDrawdownPct) := by
  constructor
  · constructor
    · intro h
      refine ⟨prospective_of_haltFinal hA h, ?_⟩
      by_contra hlt
      rw [not_le] at hlt
      obtain ⟨hundreds, hopen⟩ := @exists_not_haltFinal newYorkDate settings hA hlt.ne'
      have hbudget : 0 ≤ 10000 /
          (settings.maxDailyDrawdownPct - settings.flattenDailyDrawdownPct) :=
        div_nonneg (by norm_num) (sub_nonneg.mpr hlt.le)
      exact hopen (h _ (budgetsNonneg_calls hbudget hundreds))
    · rintro ⟨hon, htiers⟩ calls hbudgets
      apply haltFinal_of_wider hon
      intro reads hmem day hday
      exact mul_le_mul_of_nonneg_right htiers (hbudgets _ hmem reads rfl day hday)
  · constructor
    · intro h
      refine ⟨prospective_of_haltFinal hA fun calls _ => h calls, ?_⟩
      by_contra hne
      obtain ⟨hundreds, hopen⟩ := @exists_not_haltFinal newYorkDate settings hA hne
      exact hopen (h _)
    · rintro ⟨hon, htiers⟩ calls
      apply haltFinal_of_wider hon
      intro reads _ day _
      rw [htiers]

open IdleBook in
theorem session_halt_final_iff_defaults :
    ((∀ calls, BudgetsNonneg calls → HaltFinal (fun _ => 0) defaults calls) ↔
      defaults.prospectiveLossEnabled ∧
        defaults.maxDailyDrawdownPct ≤ defaults.flattenDailyDrawdownPct) ∧
    ((∀ calls, HaltFinal (fun _ => 0) defaults calls) ↔
      defaults.prospectiveLossEnabled ∧
        defaults.maxDailyDrawdownPct = defaults.flattenDailyDrawdownPct) :=
  @session_halt_final_iff (fun _ => 0) defaults rfl

namespace HaltRun

/-- The environment switches the prospective rail off; every other knob takes its default. -/
def prospectiveOffEnv : SettingsEnvironment :=
  { IdleBook.env with
    getenv := fun key =>
      if key = "BHIKSHA_RISK_PROSPECTIVE_LOSS_ENABLED" then some "false" else none }

def prospectiveOff : RiskSettings := { IdleBook.defaults with prospectiveLossEnabled := false }

/-- A thousand dollars lost on a budget of ten thousand. -/
def losing : BookReads := reads 10000 (-10)

end HaltRun

open HaltRun in
/-- With the prospective rail off the halted session still approves a sized entry. -/
theorem halted_session_approves_sized_entry :
    resolveRiskSettings prospectiveOffEnv = .ok prospectiveOff ∧
      ¬(prospectiveOff.railAEnabled → ∀ calls, HaltFinal (fun _ => 0) prospectiveOff calls) := by
  constructor
  · decide +kernel
  · intro h
    have hfinal := h rfl [.bookActions losing, .reserveSizedEntry entry losing]
    have hrefused := (List.pairwise_cons.mp hfinal).1 _ List.mem_cons_self (by decide +kernel)
    exact absurd hrefused (by decide +kernel)

end Bhiksha
