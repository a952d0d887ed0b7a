import Mathlib.Algebra.Order.Field.Rat
import Mathlib.Tactic.Linarith
import Bhiksha.Risk.RiskRun

/-! Rail A acts on a loss, except on an idle book whose usable budget is zero. -/

namespace Bhiksha

open Library

variable {newYorkDate : ℚ → ℤ} {settings : RiskSettings}

/-- The book's computed realized live P&L of today is negative. -/
def LostToday (newYorkDate : ℚ → ℤ) (reads : BookReads) : Prop :=
  ∃ pnl, reads.realizedPnl newYorkDate = .ok pnl ∧ pnl < 0

/-- A budget row as `CashGuard` creates it. -/
def BudgetNonneg (reads : BookReads) : Prop :=
  ∀ day, reads.budgetDay = .ok (some day) → 0 ≤ day.usableBudget

/-- Rail A is on, today's usable budget is zero and so is today's realized P&L. -/
def IdleZeroBudget (newYorkDate : ℚ → ℤ) (settings : RiskSettings) (reads : BookReads) : Prop :=
  settings.railAEnabled ∧ reads.realizedPnl newYorkDate = .ok 0 ∧
    ∃ day, reads.budgetDay = .ok (some day) ∧ day.usableBudget = 0

/-- The reads of a call that consults the rails. -/
def RiskCall.reads : RiskCall → Option BookReads
  | .allowEntry _ reads | .bookActions reads | .reserveSizedEntry _ reads => some reads
  | .releaseSizedEntry _ | .commitSizedEntry _ => none

def RiskResult.shouldFlatten : RiskResult → Bool
  | .book result => result.shouldFlatten
  | _ => false

/-- Under validated percentages the halt is the wider of the two tiers. -/
theorem evaluateRailA_breached_iff (hs : settings.Valid) {budget : ℚ} (hb : 0 ≤ budget) (pnl : ℚ)
    (tradeDate : ℤ) :
    (evaluateRailA settings budget pnl tradeDate).halted ∨
        (evaluateRailA settings budget pnl tradeDate).flatten ↔
      pnl ≤ -(settings.maxDailyDrawdownPct / 100) * budget := by
  have htiers : -(settings.flattenDailyDrawdownPct / 100) * budget ≤
      -(settings.maxDailyDrawdownPct / 100) * budget := by
    apply mul_le_mul_of_nonneg_right _ hb
    have hle := hs.max_le_flatten
    linarith
  simp only [evaluateRailA, decide_eq_true_eq]
  constructor
  · rintro (h | h)
    · exact h
    · exact h.trans htiers
  · exact Or.inl

theorem acts_only_on_loss_iff (hs : settings.Valid) {budget : ℚ} (hb : 0 ≤ budget) (pnl : ℚ)
    (tradeDate : ℤ) :
    ((evaluateRailA settings budget pnl tradeDate).halted ∨
        (evaluateRailA settings budget pnl tradeDate).flatten → pnl < 0) ↔
      ¬(budget = 0 ∧ pnl = 0) := by
  rw [evaluateRailA_breached_iff hs hb]
  have hpct : 0 < settings.maxDailyDrawdownPct / 100 := by
    have hpos := hs.max_pos
    linarith
  constructor
  · rintro h ⟨rfl, rfl⟩
    exact absurd (h (by simp)) (lt_irrefl 0)
  · intro h hle
    by_contra hpnl
    have hnonneg : 0 ≤ pnl := not_lt.mp hpnl
    -- a nonnegative P&L below the threshold forces both to be zero
    have hprod : settings.maxDailyDrawdownPct / 100 * budget ≤ 0 := by linarith
    have hbudget : budget = 0 := by
      by_contra hne
      have hpos := mul_pos hpct (lt_of_le_of_ne hb (Ne.symm hne))
      linarith
    subst hbudget
    exact h ⟨rfl, le_antisymm (by simpa using hle) hnonneg⟩

/-- One status acts only on a loss exactly when the book is not idle with a zero budget. -/
theorem computeRailAStatus_acts_iff (hs : settings.Valid) {reads : BookReads}
    (hb : BudgetNonneg reads) :
    ((computeRailAStatus newYorkDate settings reads).halted ∨
        (computeRailAStatus newYorkDate settings reads).flatten → LostToday newYorkDate reads) ↔
      ¬IdleZeroBudget newYorkDate settings reads := by
  unfold computeRailAStatus
  by_cases hon : settings.railAEnabled
  · simp only [hon, Bool.not_true, Bool.false_eq_true, if_false]
    rcases hday : reads.budgetDay with e | _ | day
    · simp [RailAStatus.inactive, IdleZeroBudget, hday]
    · simp [RailAStatus.inactive, IdleZeroBudget, hday]
    · rcases hpnl : reads.realizedPnl newYorkDate with e | pnl
      · simp [RailAStatus.inactive, IdleZeroBudget, hpnl]
      · have hlost : LostToday newYorkDate reads ↔ pnl < 0 := by
          simp [LostToday, hpnl]
        have hidle : IdleZeroBudget newYorkDate settings reads ↔
            day.usableBudget = 0 ∧ pnl = 0 := by
          simp [IdleZeroBudget, hon, hpnl, hday, and_comm]
        rw [hlost, hidle]
        exact acts_only_on_loss_iff hs (hb day hday) pnl _
  · simp [hon, RailAStatus.inactive, IdleZeroBudget]

/-- A quiet consult: it sees no loss and no idle zero budget. -/
def QuietConsult (newYorkDate : ℚ → ℤ) (settings : RiskSettings) (call : RiskCall) : Prop :=
  ∀ reads ∈ call.reads, BudgetNonneg reads ∧ ¬IdleZeroBudget newYorkDate settings reads ∧
    ¬LostToday newYorkDate reads

theorem not_breached_of_quiet (hs : settings.Valid) {reads : BookReads} (hb : BudgetNonneg reads)
    (hidle : ¬IdleZeroBudget newYorkDate settings reads) (hlost : ¬LostToday newYorkDate reads) :
    (computeRailAStatus newYorkDate settings reads).halted = false ∧
      (computeRailAStatus newYorkDate settings reads).flatten = false := by
  have hacts := mt ((computeRailAStatus_acts_iff hs hb).mpr hidle) hlost
  rw [not_or, Bool.not_eq_true, Bool.not_eq_true] at hacts
  exact hacts

/-- Nothing latched, and nothing to flatten in the cached result either. -/
def RiskManager.Quiet (manager : RiskManager) : Prop :=
  manager.sessionHalted = false ∧ manager.sessionFlattened = false ∧
    ∀ entry ∈ manager.cache, entry.2.shouldFlatten = false

theorem quiet_bookActions (hs : settings.Valid) {reads : BookReads} {manager : RiskManager}
    (hcall : QuietConsult newYorkDate settings (.bookActions reads)) (hm : manager.Quiet) :
    (bookActions newYorkDate settings reads manager).2.Quiet ∧
      (bookActions newYorkDate settings reads manager).1.shouldFlatten = false := by
  obtain ⟨hb, hidle, hlost⟩ := hcall reads rfl
  obtain ⟨hhalted, hflattened, hcache⟩ := hm
  have hstatus := not_breached_of_quiet hs hb hidle hlost
  unfold bookActions
  simp only
  split
  · next key cached hfound =>
    have hmem := (Option.filter_eq_some_iff.mp hfound).1
    exact ⟨⟨hhalted, hflattened, hcache⟩, hcache _ hmem⟩
  · simp [bookActionsUncached, RiskManager.Quiet, hstatus, hhalted, hflattened]

theorem quiet_of_sameLatches {manager manager' : RiskManager} (h : manager.SameLatches manager')
    (hm : manager.Quiet) : manager'.Quiet := by
  obtain ⟨hhalted, hflattened, hcache⟩ := h
  unfold RiskManager.Quiet
  rwa [hhalted, hflattened, hcache]

/-- Quiet consults leave the session unlatched. -/
theorem quiet_riskStep (hs : settings.Valid) {call : RiskCall} {manager : RiskManager}
    (hcall : QuietConsult newYorkDate settings call) (hm : manager.Quiet) :
    (riskStep newYorkDate settings call manager).2.Quiet ∧
      (riskStep newYorkDate settings call manager).1.shouldFlatten = false := by
  have hunbroken {reads : BookReads} (hreads : call.reads = some reads) :
      (computeRailAStatus newYorkDate settings reads).breached = false := by
    obtain ⟨hb, hidle, hlost⟩ := hcall reads hreads
    have hstatus := not_breached_of_quiet hs hb hidle hlost
    simp [RailAStatus.breached, hstatus]
  cases call with
  | allowEntry deploymentId reads =>
    refine ⟨quiet_of_sameLatches (allowEntry_latches deploymentId reads manager) ?_, rfl⟩
    rw [hunbroken rfl, Bool.or_false]
    exact hm
  | bookActions reads => exact quiet_bookActions hs hcall hm
  | reserveSizedEntry entry reads =>
    refine ⟨quiet_of_sameLatches (reserveSizedEntry_latches entry reads manager) ?_, rfl⟩
    have hobserved : ((RiskCall.reserveSizedEntry entry reads).observed newYorkDate settings
        manager).any RailAStatus.breached = false := by
      unfold RiskCall.observed
      simp only
      split
      · exact hunbroken rfl
      · rfl
    rw [hobserved, Bool.or_false]
    exact hm
  | releaseSizedEntry tradeId => exact ⟨hm, rfl⟩
  | commitSizedEntry tradeId => exact ⟨hm, rfl⟩

/-- For resolved settings and nonnegative budgets, Rail A acts only on a loss exactly when the book is
not idle with a zero budget; and a session of such consults that lose nothing latches nothing and
never asks to flatten. -/
theorem rail_a_acts_only_on_loss_iff (newYorkDate : ℚ → ℤ) {env : SettingsEnvironment}
    {settings : RiskSettings} (hresolved : resolveRiskSettings env = .ok settings) :
    (∀ reads, BudgetNonneg reads →
      (((computeRailAStatus newYorkDate settings reads).halted ∨
            (computeRailAStatus newYorkDate settings reads).flatten →
          LostToday newYorkDate reads) ↔
        ¬IdleZeroBudget newYorkDate settings reads)) ∧
    ∀ calls, (∀ call ∈ calls, QuietConsult newYorkDate settings call) →
      ∀ e ∈ session newYorkDate settings calls,
        e.after.sessionHalted = false ∧ e.after.sessionFlattened = false ∧
          e.result.shouldFlatten = false := by
  have hs := resolveRiskSettings_valid hresolved
  constructor
  · exact fun reads hb => computeRailAStatus_acts_iff hs hb
  · intro calls hcalls e he
    have hfresh : RiskManager.Quiet {} := ⟨rfl, rfl, fun _ h => nomatch h⟩
    have hpreserved (call : RiskCall) (manager : RiskManager)
        (hcall : QuietConsult newYorkDate settings call) (hm : manager.Quiet) :
        (riskStep newYorkDate settings call manager).2.Quiet := (quiet_riskStep hs hcall hm).1
    obtain ⟨hquiet, hcall, hev⟩ := invariant_of_mem_trace hpreserved hfresh hcalls he
    have hstep := quiet_riskStep hs hcall hquiet
    rw [hev]
    exact ⟨hstep.1.1, hstep.1.2.1, hstep.2⟩

namespace IdleBook

/-- No operator sheet and no environment: every knob takes its default. -/
def env : SettingsEnvironment := ⟨none, fun _ => none, fun _ => none⟩

def defaults : RiskSettings where
  railAEnabled := true
  railBEnabled := true
  maxDailyDrawdownPct := 2
  flattenDailyDrawdownPct := 3
  demoteWindow := 10
  demoteMinN := 10
  demoteThresholdUsd := 0

/-- A book without trades on a day with the given budget. -/
def reads (usableBudget : ℚ) : BookReads where
  now := 0
  budgetDay := .ok (some ⟨0, none, usableBudget, usableBudget, 0⟩)
  recentTrades := .ok []
  partialFills := .ok fun _ => []
  closedTrades := .ok []
  openTrades := .ok []
  reservations := .ok []

end IdleBook

open IdleBook in
theorem rail_a_acts_only_on_loss_iff_defaults :
    (∀ reads, BudgetNonneg reads →
      (((computeRailAStatus (fun _ => 0) defaults reads).halted ∨
            (computeRailAStatus (fun _ => 0) defaults reads).flatten →
          LostToday (fun _ => 0) reads) ↔
        ¬IdleZeroBudget (fun _ => 0) defaults reads)) ∧
    ∀ calls, (∀ call ∈ calls, QuietConsult (fun _ => 0) defaults call) →
      ∀ e ∈ session (fun _ => 0) defaults calls,
        e.after.sessionHalted = false ∧ e.after.sessionFlattened = false ∧
          e.result.shouldFlatten = false :=
  @rail_a_acts_only_on_loss_iff (fun _ => 0) env defaults (by decide +kernel)

open IdleBook in
/-- A zero budget halts and flattens a book that has not traded. -/
theorem zero_budget_flattens_idle_book :
    ¬∀ (env : SettingsEnvironment) (settings : RiskSettings) (reads : BookReads),
      resolveRiskSettings env = .ok settings → BudgetNonneg reads →
        (computeRailAStatus (fun _ => 0) settings reads).halted ∨
            (computeRailAStatus (fun _ => 0) settings reads).flatten →
          LostToday (fun _ => 0) reads := by
  intro h
  have hnonneg : BudgetNonneg (reads 0) := by
    intro day hday
    obtain rfl : _ = day := Option.some.inj (Except.ok.inj hday)
    exact le_refl _
  obtain ⟨pnl, hpnl, hneg⟩ := h env defaults (reads 0) (by decide +kernel) hnonneg
    (Or.inl (by decide +kernel))
  have hzero : (reads 0).realizedPnl (fun _ => 0) = .ok 0 := by decide +kernel
  obtain rfl : (0 : ℚ) = pnl := Except.ok.inj (hzero.symm.trans hpnl)
  exact absurd hneg (lt_irrefl 0)

end Bhiksha
