import Bhiksha.Library.Stateful
import Bhiksha.Execution.EntryLife
import Bhiksha.Risk.CashBudget
import Bhiksha.Risk.SizedEntryBook

/-! The sizing of a live entry against the previews of the cash guard and of the risk manager, and the
two reservations that come after it. -/

namespace Bhiksha.Sizing

open Library Entry Std.Do

set_option mvcgen.warning false

section Previews

variable (newYorkDate : ℚ → ℤ)

def reasonText : RiskReason → String
  | .railADisabled => "rail_a_disabled"
  | .cashBudgetQueryFailed => "cash_budget_query_failed"
  | .noCashBudgetDay => "no_cash_budget_day"
  | .pnlQueryFailed => "pnl_query_failed"
  | .tier1Halt => "risk_rail_a_tier1_halt"
  | .tier2Flatten => "risk_rail_a_tier2_flatten"
  | .budgetUnavailable => "risk_rail_a_budget_unavailable"
  | .railBSessionBlock => "risk_rail_b_session_block"
  | .approved => "approved"
  | .proposedStopUnavailable => "risk_proposed_stop_unavailable"
  | .sizedEntryBookUnavailable => "risk_sized_entry_book_unavailable"
  | .correlationClusterAtCap => "risk_correlation_cluster_at_cap"
  | .openPositionRiskUnavailable => "risk_open_position_risk_unavailable"
  | .prospectiveLossHeadroomExceeded => "risk_prospective_loss_headroom_exceeded"
  | .sizedEntryReservationFailed => "risk_sized_entry_reservation_failed"

/-- The loss that the book carries without the entry. -/
def bookLoss (railA : RailAStatus) (book : SizedEntry.Book) : ℚ :=
  max (-(railA.realizedLivePnlUsd.getD 0)) 0 +
    (book.trades.map fun trade => (openPlannedLoss trade).getD 0).sum +
    Python.roundTo 2 (book.others.map EntryRiskReservation.plannedStopLossUsd).sum

/-- `remaining_loss_headroom_usd` of the details, where the consult gets that far. -/
def remainingLossHeadroom (settings : RiskSettings) (entry : SizedEntry) (reads : BookReads)
    (manager : RiskManager) : Option ℚ :=
  match entry.readBook settings reads with
  | .error _ => none
  | .ok book =>
    let railA := computeRailAStatus newYorkDate settings reads
    if !settings.prospectiveLossEnabled || (settings.railAEnabled && !railA.active) ||
        (manager.sessionHalted || railA.breached) || !railA.active then none
    else some (Python.roundTo 2 (|railA.haltThresholdUsd.getD 0| - bookLoss railA book))

/-- `preview_sized_entry`. -/
def previewSizedEntry (settings : RiskSettings) (entry : SizedEntry) (reads : BookReads)
    (manager : RiskManager) : RiskPreview :=
  let preview := { entry with reserve := false }
  let decision := (reserveSizedEntry newYorkDate settings preview reads manager).1.decision
  ⟨decision.allowed, reasonText decision.reason,
    remainingLossHeadroom newYorkDate settings preview reads manager⟩

/-- The operations of the guard on its tables, and the answers of the broker. -/
def handleCash (synthetic : String → Bool) (account : Except String (Option String))
    (portfolio : Except String (Option ℚ)) (s : CashState) : (op : CashOp) → op.Answer × CashState
  | .getAccountInfo => (account, s)
  | .acquireLock => ((), { s with lock := some 0 })
  | .releaseLock => ((), { s with lock := none })
  | .getDay tradeDate => (s.days.get? tradeDate, s)
  | .getPortfolio => (portfolio, s)
  | .upsertDay day => ((), s.upsertDay day)
  | .releaseSyntheticReservations tradeDate => ((), s.releaseSynthetic synthetic tradeDate)
  | .reservationTotals tradeDate => (s.totals tradeDate, s)
  | .upsertReservation reservation => ((), s.upsertReservation reservation)
  | .getReservation tradeId => (s.reservations.get? tradeId, s)
  | .markReservationStatus tradeId status => ((), s.markReservationStatus tradeId status)

/-- What a consult of the guard meets. -/
structure CashDesk where
  account : Except String (Option String)
  portfolio : Except String (Option ℚ)
  synthetic : String → Bool
  state : CashState

variable (getenv : String → Option String)

/-- `reserve_entry` with nothing else going on. -/
def CashDesk.reserveEntry (desk : CashDesk) (tradeId : String) (requiredCash timestamp : ℚ)
    (reserve : Bool) : CashGuardResult × CashState :=
  (CashGuard.reserveEntry newYorkDate getenv tradeId requiredCash timestamp reserve).runWith
    (handleCash desk.synthetic desk.account desk.portfolio) desk.state

/-- `preview_entry`. -/
def CashDesk.previewEntry (desk : CashDesk) (tradeId : String) (timestamp : ℚ) :
    CashGuardResult × CashState :=
  desk.reserveEntry newYorkDate getenv tradeId 0 timestamp false

/-- What the sizing reads of a result of the guard. -/
def cashPreview (result : CashGuardResult) : CashPreview where
  blocked := if result.blocked then some (result.reason.getD "") else none
  capacity := if result.enforced then some result.details.remainingBudget else none

end Previews

section Fit

/-- The rounded planned loss of a whole quantity fits the headroom. -/
def lossFits (stopLossPct : Option ℚ) (price headroom : ℚ) (quantity : ℤ) : Bool :=
  (plannedStopLossUsd (some price) quantity none stopLossPct).any (· ≤ headroom)

/-- `_fit_live_quantity` once the previews are there; the risk is previewed at a quantity. -/
def fitQuantity (cash : Option CashPreview) (risk : Option (ℤ → RiskPreview))
    (stopLossPct : Option ℚ) (price : ℚ) (upperQuantity : ℤ) (premiumCap extraCash : ℚ) :
    ℤ × Option String :=
  match fitCash (min upperQuantity ⌊premiumCap / (price * 100)⌋) with
  | .inr reason => (0, some reason)
  | .inl quantity =>
    match fitRisk quantity with
    | .inr reason => (0, some reason)
    | .inl quantity =>
      (quantity, if 0 < quantity then none else some "insufficient_budget_for_single_contract")
where
  fitCash (quantity : ℤ) : ℤ ⊕ String :=
    match cash with
    | none => .inl quantity
    | some ⟨some reason, _⟩ => .inr reason
    | some ⟨none, none⟩ => .inl quantity
    | some ⟨none, some none⟩ => .inr "cash_guard_cash_unavailable"
    | some ⟨none, some (some capacity)⟩ =>
      let quantity := min quantity ⌊max 0 (capacity - extraCash) / (price * 100)⌋
      if quantity < 1 then .inr "insufficient_internal_settled_cash_budget" else .inl quantity
  fitRisk (quantity : ℤ) : ℤ ⊕ String :=
    match risk with
    | none => .inl quantity
    | some preview =>
      let risk := preview (max 1 quantity)
      if !risk.allowed && risk.reason != "risk_prospective_loss_headroom_exceeded" then
        .inr risk.reason
      else
        match risk.remainingLossHeadroom with
        | some headroom =>
          let quantity := largestWithin (lossFits stopLossPct price headroom) 0 quantity
          if quantity < 1 then .inr "risk_prospective_loss_headroom_exceeded" else .inl quantity
        | none => if risk.allowed then .inl quantity else .inr risk.reason

theorem fitCash_eq (answers : EntryAnswers) (quantity : ℤ) (price extraCash : ℚ)
    (start : EntryWorld) :
    ⦃fun world => ⌜world = start⌝⦄ fitLiveQuantity.fitCash answers quantity price extraCash
    ⦃post⟨fun result world => ⌜world.requests = start.requests + 1 ∧
        result = fitQuantity.fitCash (answers.cash start.requests) price extraCash quantity⌝,
      fun _ _ => ⌜False⌝⟩⦄ := by
  mvcgen [fitLiveQuantity.fitCash, ask]
  all_goals subst_vars
  case vc5.h_5.isTrue hcash quantity hone =>
    refine ⟨rfl, ?_⟩
    rw [hcash]
    exact (if_pos hone).symm
  case vc6.h_5.isFalse hcash quantity hone =>
    refine ⟨rfl, ?_⟩
    rw [hcash]
    exact (if_neg hone).symm
  all_goals
    rename_i hcash
    rw [hcash]
    exact ⟨rfl, rfl⟩

theorem fitRisk_eq (lane : EntryLane) (answers : EntryAnswers) (quantity : ℤ) (price : ℚ)
    (requests : ℕ) :
    ⦃fun world => ⌜world.requests = requests⌝⦄
    fitLiveQuantity.fitRisk lane answers quantity price
    ⦃post⟨fun result _ =>
        ⌜result = fitQuantity.fitRisk (answers.risk requests) lane.stopLossPct price quantity⌝,
      fun _ _ => ⌜False⌝⟩⦄ := by
  mvcgen [fitLiveQuantity.fitRisk, ask]
  all_goals
    subst_vars
    unfold fitQuantity.fitRisk
  case vc1.h_1 hrisk => rw [hrisk]
  case vc2.h_2.isTrue hrisk risk hrefused =>
    rw [hrisk]
    exact (if_pos hrefused).symm
  case vc3.h_2.isFalse.h_1.isTrue hrisk risk hopen headroom hheadroom within quantity hone =>
    rw [hrisk]
    simp only
    rw [if_neg hopen, show (_ : RiskPreview).remainingLossHeadroom = _ from hheadroom]
    exact (if_pos hone).symm
  case vc4.h_2.isFalse.h_1.isFalse hrisk risk hopen headroom hheadroom within quantity hone =>
    rw [hrisk]
    simp only
    rw [if_neg hopen, show (_ : RiskPreview).remainingLossHeadroom = _ from hheadroom]
    exact (if_neg hone).symm
  case vc5.h_2.isFalse.h_2.isTrue hrisk risk hopen hheadroom hallowed =>
    rw [hrisk]
    simp only
    rw [if_neg hopen, show (_ : RiskPreview).remainingLossHeadroom = _ from hheadroom]
    exact (if_pos hallowed).symm
  case vc6.h_2.isFalse.h_2.isFalse hrisk risk hopen hheadroom hallowed =>
    rw [hrisk]
    simp only
    rw [if_neg hopen, show (_ : RiskPreview).remainingLossHeadroom = _ from hheadroom]
    exact (if_neg hallowed).symm

/-- The planner's fit is this one, on the answers that it gets. -/
theorem fitLiveQuantity_eq (lane : EntryLane) (answers : EntryAnswers) (price : ℚ)
    (upperQuantity : ℤ) (premiumCap extraCash : ℚ) (start : EntryWorld) :
    ⦃fun world => ⌜world = start⌝⦄
    fitLiveQuantity lane answers price upperQuantity premiumCap extraCash
    ⦃post⟨fun result _ => ⌜result = fitQuantity (answers.cash start.requests)
        (answers.risk (start.requests + 1)) lane.stopLossPct price upperQuantity premiumCap
        extraCash⌝,
      fun _ _ => ⌜False⌝⟩⦄ := by
  have hcash := fun quantity => fitCash_eq answers quantity price extraCash start
  have hrisk := fun quantity => fitRisk_eq lane answers quantity price (start.requests + 1)
  mvcgen [fitLiveQuantity, hcash, hrisk]
  all_goals clear hcash hrisk
  · rename_i hfit
    unfold fitQuantity
    rw [← show _ = fitQuantity.fitCash _ _ _ (min _ _) from hfit.2]
  · rename_i hfit
    exact hfit.1
  · rename_i hfit _ _ _ _ hrisk
    unfold fitQuantity
    rw [← show _ = fitQuantity.fitCash _ _ _ (min _ _) from hfit.2]
    simp only
    rw [← hrisk]
  · rename_i hfit _ _ _ _ hrisk
    unfold fitQuantity
    rw [← show _ = fitQuantity.fitCash _ _ _ (min _ _) from hfit.2]
    simp only
    rw [← hrisk]

end Fit

section Sizing

/-- The stops of a deployment that a planned loss is computed from. -/
structure PlannedStops where
  exitStopLossPct : Option ℚ := none
  riskStopLossPct : Option ℚ := none
  profileExitId : Option String := none
  initialStopPct : Option ℚ := none
  premiumDisasterStopPct : Option ℚ := none
deriving DecidableEq, Repr

/-- `resolve_planned_stop_loss_pct`. -/
def PlannedStops.resolve (stops : PlannedStops) : Option ℚ :=
  match stops.exitStopLossPct.filter (0 < ·), stops.riskStopLossPct.filter (0 < ·) with
  | some pct, _ => some pct
  | none, some pct => some pct
  | none, none =>
    if isTruthy stops.profileExitId then
      (stops.initialStopPct.filter (0 < ·)).or (stops.premiumDisasterStopPct.filter (0 < ·))
    else none

/-- The entry that is sized. -/
structure LiveEntry where
  tradeId : String
  deploymentId : String
  symbol : String
  timestamp : ℚ
  stops : PlannedStops
deriving DecidableEq, Repr

def LiveEntry.sized (entry : LiveEntry) (price : ℚ) (quantity : ℤ) : SizedEntry where
  tradeId := entry.tradeId
  deploymentId := entry.deploymentId
  symbol := entry.symbol
  entryPrice := price
  quantity := quantity
  stopLossPct := entry.stops.resolve

/-- What one fit finds of the guard and of the manager, where the planner has them. -/
structure Capacity where
  cash : Option CashDesk
  risk : Option (BookReads × RiskManager)

structure Sized where
  quantity : ℤ
  preflight : PreflightCheck
  /-- The number of the fit that the loop ended with. -/
  fit : ℕ
deriving DecidableEq, Repr

variable (newYorkDate : ℚ → ℤ) (getenv : String → Option String) (settings : RiskSettings)
  (entry : LiveEntry)

/-- `_fit_live_quantity`. -/
def fitAt (capacity : Capacity) (price : ℚ) (upperQuantity : ℤ) (premiumCap extraCash : ℚ) :
    ℤ × Option String :=
  fitQuantity
    (capacity.cash.map fun desk =>
      cashPreview (desk.previewEntry newYorkDate getenv entry.tradeId entry.timestamp).1)
    (capacity.risk.map fun risk quantity =>
      previewSizedEntry newYorkDate settings (entry.sized price quantity) risk.1 risk.2)
    entry.stops.resolve price upperQuantity premiumCap extraCash

/-- What the broker's preflight asks for. -/
def brokerCost (preflight : PreflightCheck) (quantity : ℤ) : ℚ :=
  max (max (preflight.buyingPower.getD 0) (preflight.estimatedCost.getD 0))
    (preflight.limitPrice * quantity * 100)

variable (capacities : ℕ → Capacity) (preflights : ℕ → Option PreflightCheck)
  (sizingPrice premiumCap : ℚ)

/-- The sizing loop: each round preflights the very quantity that it fits. -/
def sizeAndPreflight : ℕ → ℕ → ℤ → Except String Sized
  | 0, _, _ => .error "entry_sizing_preflight_unstable"
  | attempts + 1, n, quantity =>
    match preflights n with
    | none => .error "public_preflight_failed"
    | some preflight =>
      let normalized := preflight.limitPrice
      match fitAt newYorkDate getenv settings entry (capacities n) (max sizingPrice normalized)
          quantity premiumCap (max 0 (brokerCost preflight quantity - normalized * quantity * 100))
        with
      | (_, some reason) => .error reason
      | (fitted, none) =>
        if fitted = quantity then .ok ⟨quantity, preflight, n⟩
        else sizeAndPreflight attempts (n + 1) fitted

/-- The live sizing of `_plan_entry_once`. -/
def sizeEntry (quantity : ℤ) : Except String Sized :=
  match fitAt newYorkDate getenv settings entry (capacities 0) sizingPrice quantity premiumCap 0 with
  | (_, some reason) => .error reason
  | (fitted, none) =>
    sizeAndPreflight newYorkDate getenv settings entry capacities preflights sizingPrice premiumCap
      3 1 fitted

/-- `required_cash`. -/
def requiredCash (preflight : PreflightCheck) (quantity : ℤ) : ℚ :=
  max (max (preflight.buyingPower.getD 0) (preflight.estimatedCost.getD 0))
    (sizingPrice * quantity * 100 +
      max 0 (preflight.estimatedCost.getD 0 - preflight.limitPrice * quantity * 100))

/-- The entry intent that is persisted before the sized-risk reservation. -/
def entryIntent (limitPrice : ℚ) (quantity : ℤ) : TradeRecord where
  tradeId := entry.tradeId
  deploymentId := entry.deploymentId
  symbol := entry.symbol
  quantity := quantity
  entryPrice := some limitPrice
  entryTimestamp := some entry.timestamp
  status := "pending_entry_reconcile"
  entryOrderId := some entry.tradeId

end Sizing

/-- The planner's loop ends with a fit, on the answers that it got, that left the preflighted quantity
as it was. -/
theorem sizeAndPreflight_ends_in_fit (lane : EntryLane) (answers : EntryAnswers)
    (selection : Selection) (pricing : EntryPricingResult) (entryPrice sizingPrice cap : ℚ)
    (attempts : ℕ) (quantity : ℤ) :
    ⦃⌜True⌝⦄
    Entry.sizeAndPreflight lane answers selection pricing entryPrice sizingPrice cap attempts quantity
    ⦃post⟨fun result _ => ⌜∃ n, fitQuantity (answers.cash n) (answers.risk (n + 1)) lane.stopLossPct
        (max sizingPrice result.2.limitPrice) result.1 cap
        (max 0 (brokerCost result.2 result.1 - result.2.limitPrice * result.1 * 100)) =
          (result.1, none)⌝,
      fun _ _ => ⌜True⌝⟩⦄ := by
  have hpreflight := triple_true (preflightEntry answers entryPrice)
  have hfit := fitLiveQuantity_eq lane answers
  induction attempts generalizing quantity with
  | zero => mvcgen [Entry.sizeAndPreflight]
  | succ attempts ih =>
    mvcgen [Entry.sizeAndPreflight, hpreflight, hfit, ih]
    rename_i preflight _ cost required start result hnone hsame _ hresult
    exact ⟨start.requests, hresult.symm.trans (Prod.ext hsame hnone)⟩

section Bisection

/-- Over a downward closed range the bisection ends at the last number that is admitted. -/
theorem largestWithin_spec (within : ℤ → Bool) (low high : ℤ) (hrange : low ≤ high)
    (hdown : ∀ a b, low < a → a ≤ b → b ≤ high → within b = true → within a = true) :
    low ≤ largestWithin within low high ∧ largestWithin within low high ≤ high ∧
      ∀ c, low < c → c ≤ high → (within c = true ↔ c ≤ largestWithin within low high) := by
  induction low, high using largestWithin.induct within with
  | case1 low high hlt candidate hwithin ih =>
    rw [largestWithin, if_pos hlt]
    simp only [candidate] at hwithin ih
    simp only [hwithin, if_true]
    have hmiddle : low < (low + high + 1) / 2 ∧ (low + high + 1) / 2 ≤ high := by omega
    obtain ⟨hlow, hhigh, hiff⟩ := ih hmiddle.2 fun a b ha => hdown a b (hmiddle.1.trans ha)
    refine ⟨hmiddle.1.le.trans hlow, hhigh, fun c hc hcle => ?_⟩
    rcases lt_or_ge ((low + high + 1) / 2) c with habove | hbelow
    · exact hiff c habove hcle
    · -- everything up to the candidate is admitted with it
      have hadmitted : within c = true := hdown c _ hc hbelow hmiddle.2 hwithin
      exact iff_of_true hadmitted (hbelow.trans hlow)
  | case2 low high hlt candidate hwithin ih =>
    rw [largestWithin, if_pos hlt]
    simp only [candidate] at hwithin ih
    simp only [hwithin, Bool.false_eq_true, if_false]
    have hmiddle : low < (low + high + 1) / 2 ∧ (low + high + 1) / 2 ≤ high := by omega
    obtain ⟨hlow, hhigh, hiff⟩ := ih (by omega) fun a b ha hab hb => hdown a b ha hab (by omega)
    refine ⟨hlow, by omega, fun c hc hcle => ?_⟩
    rcases lt_or_ge c ((low + high + 1) / 2) with hbelow | habove
    · exact hiff c hc (by omega)
    · have hrefused : ¬within c = true := fun h => hwithin (hdown _ c hmiddle.1 habove hcle h)
      exact iff_of_false hrefused (by omega)
  | case3 low high hge =>
    rw [largestWithin, if_neg hge]
    exact ⟨le_rfl, hrange, fun c hc hcle => absurd (hc.trans_le hcle) hge⟩

theorem plannedStopLossUsd_mono {price price' : ℚ} {quantity quantity' : ℤ}
    {stopLossPct : Option ℚ} {loss' : ℚ} (hprice : 0 < price) (hprices : price ≤ price')
    (hquantity : 0 < quantity) (hquantities : quantity ≤ quantity')
    (h : plannedStopLossUsd (some price') quantity' none stopLossPct = some loss') :
    ∃ loss, plannedStopLossUsd (some price) quantity none stopLossPct = some loss ∧ loss ≤ loss' := by
  have hprice' : 0 < price' := hprice.trans_le hprices
  have hquantity' : 0 < quantity' := hquantity.trans_le hquantities
  cases hpct : stopLossPct.filter (0 < ·) with
  | none => simp [plannedStopLossUsd, hpct] at h
  | some pct =>
    have hpos : 0 < pct := by simpa using (Option.filter_eq_some_iff.mp hpct).2
    simp only [plannedStopLossUsd, hpct, Option.bind_eq_bind, Option.bind_some, Option.pure_def,
      Option.filter_none, not_le.mpr hprice', not_le.mpr hquantity', or_self, if_false] at h
    rw [← Option.some.inj h]
    refine ⟨Python.roundTo 2 (price * pct * quantity * 100), ?_, Python.roundTo_mono 2 ?_⟩
    · simp only [plannedStopLossUsd, hpct, Option.bind_eq_bind, Option.bind_some, Option.pure_def,
        Option.filter_none, not_le.mpr hprice, not_le.mpr hquantity, or_self, if_false]
    · have hcast : (quantity : ℚ) ≤ quantity' := by exact_mod_cast hquantities
      have hnonneg : (0 : ℚ) ≤ quantity := by exact_mod_cast hquantity.le
      gcongr

theorem lossFits_of_le {stopLossPct : Option ℚ} {price price' headroom : ℚ}
    {quantity quantity' : ℤ} (hprice : 0 < price) (hprices : price ≤ price')
    (hquantity : 0 < quantity) (hquantities : quantity ≤ quantity')
    (h : lossFits stopLossPct price' headroom quantity' = true) :
    lossFits stopLossPct price headroom quantity = true := by
  obtain ⟨loss', hloss', hfits⟩ := (Option.any_eq_true _ _).mp h
  obtain ⟨loss, hloss, hle⟩ :=
    plannedStopLossUsd_mono hprice hprices hquantity hquantities hloss'
  apply (Option.any_eq_true _ _).mpr
  exact ⟨loss, hloss, decide_eq_true (hle.trans (of_decide_eq_true hfits))⟩

theorem price_pos_of_lossFits {stopLossPct : Option ℚ} {price headroom : ℚ} {quantity : ℤ}
    (h : lossFits stopLossPct price headroom quantity = true) : 0 < price := by
  obtain ⟨loss, hloss, -⟩ := (Option.any_eq_true _ _).mp h
  by_contra hprice
  simp [plannedStopLossUsd, not_lt.mp hprice] at hloss

/-- The bisection finds the largest quantity up to its bound whose rounded planned loss fits. -/
theorem largestWithin_lossFits (stopLossPct : Option ℚ) (price headroom : ℚ) (bound : ℤ) :
    let found := largestWithin (lossFits stopLossPct price headroom) 0 bound
    0 ≤ found ∧ found ≤ max 0 bound ∧
      ∀ quantity, 0 < quantity → quantity ≤ bound →
        (lossFits stopLossPct price headroom quantity = true ↔ quantity ≤ found) := by
  intro found
  rcases lt_or_ge bound 0 with hneg | hbound
  · have hzero : found = 0 := by
      show largestWithin (lossFits stopLossPct price headroom) 0 bound = 0
      rw [largestWithin, if_neg (by omega)]
    refine ⟨hzero.ge, by omega, fun quantity hpos hle => ?_⟩
    omega
  · have hdown : ∀ a b, 0 < a → a ≤ b → b ≤ bound →
        lossFits stopLossPct price headroom b = true →
        lossFits stopLossPct price headroom a = true := by
      intro a b ha hab _ hb
      exact lossFits_of_le (price_pos_of_lossFits hb) le_rfl ha hab hb
    obtain ⟨hlow, hhigh, hiff⟩ := largestWithin_spec _ 0 bound hbound hdown
    exact ⟨hlow, hhigh.trans (le_max_right 0 bound), hiff⟩

end Bisection

section Converged

/-- The preview of the guard leaves room for a quantity and some extra cash. -/
def CashFits (preview : CashPreview) (price extraCash : ℚ) (quantity : ℤ) : Prop :=
  preview.blocked = none ∧
    ∀ capacity, preview.capacity = some capacity →
      ∃ cash, capacity = some cash ∧ quantity * (price * 100) ≤ cash - extraCash

/-- The preview of the manager leaves headroom for the planned loss of a quantity. -/
structure RiskFits (preview : RiskPreview) (stopLossPct : Option ℚ) (price : ℚ) (quantity : ℤ) :
    Prop where
  reason : preview.allowed = true ∨ preview.reason = "risk_prospective_loss_headroom_exceeded"
  headroom : ∀ headroom, preview.remainingLossHeadroom = some headroom →
    lossFits stopLossPct price headroom quantity = true
  allowed : preview.remainingLossHeadroom = none → preview.allowed = true

theorem mul_le_of_le_floor {quantity : ℤ} {price cash : ℚ} (hquantity : 0 < quantity)
    (h : quantity ≤ ⌊max 0 cash / (price * 100)⌋) : quantity * (price * 100) ≤ cash := by
  have hratio : (quantity : ℚ) ≤ max 0 cash / (price * 100) := Int.le_floor.mp h
  have hone : (0 : ℚ) < quantity := by exact_mod_cast hquantity
  have hpos : 0 < max 0 cash / (price * 100) := hone.trans_le hratio
  have hprice : 0 < price * 100 := by
    by_contra hneg
    exact absurd hpos (not_lt.mpr (div_nonpos_of_nonneg_of_nonpos (le_max_left 0 cash)
      (not_lt.mp hneg)))
  have hmul : quantity * (price * 100) ≤ max 0 cash := (le_div_iff₀ hprice).mp hratio
  rcases max_choice 0 cash with hzero | hcash
  · rw [hzero] at hmul
    have hprod : 0 < quantity * (price * 100) := mul_pos hone hprice
    linarith
  · rwa [hcash] at hmul

variable {cash : Option CashPreview} {risk : Option (ℤ → RiskPreview)} {stopLossPct : Option ℚ}
  {price premiumCap extraCash : ℚ} {upperQuantity quantity : ℤ}

theorem fitCash_fits {fitted : ℤ}
    (h : fitQuantity.fitCash cash price extraCash quantity = .inl fitted) :
    fitted ≤ quantity ∧ ∀ preview, cash = some preview →
      ∀ less, 0 < less → less ≤ fitted → CashFits preview price extraCash less := by
  unfold fitQuantity.fitCash at h
  split at h
  · cases h
    exact ⟨le_rfl, nofun⟩
  · cases h
  · cases h
    refine ⟨le_rfl, ?_⟩
    rintro preview ⟨⟩ less - -
    exact ⟨rfl, nofun⟩
  · cases h
  · rename_i capacity
    simp only at h
    split at h
    · cases h
    · cases h
      refine ⟨min_le_left _ _, ?_⟩
      rintro preview ⟨⟩ less hless hle
      refine ⟨rfl, ?_⟩
      rintro _ ⟨⟩
      exact ⟨capacity, rfl, mul_le_of_le_floor hless (hle.trans (min_le_right _ _))⟩

theorem fitRisk_fits {fitted : ℤ} (hfitted : 0 < fitted)
    (h : fitQuantity.fitRisk risk stopLossPct price quantity = .inl fitted) :
    fitted ≤ quantity ∧ ∀ preview, risk = some preview →
      ∃ n, RiskFits (preview n) stopLossPct price fitted := by
  unfold fitQuantity.fitRisk at h
  split at h
  · cases h
    exact ⟨le_rfl, nofun⟩
  rename_i preview
  simp only at h
  split at h
  · cases h
  rename_i hreason
  have hreason : (preview (max 1 quantity)).allowed = true ∨
      (preview (max 1 quantity)).reason = "risk_prospective_loss_headroom_exceeded" := by
    simpa [or_iff_not_imp_left] using hreason
  split at h
  · rename_i headroom hheadroom
    split at h
    · cases h
    rename_i hone
    cases h
    obtain ⟨-, hle, hiff⟩ := largestWithin_lossFits stopLossPct price headroom quantity
    have hbound : largestWithin (lossFits stopLossPct price headroom) 0 quantity ≤ quantity := by
      omega
    refine ⟨hbound, ?_⟩
    rintro _ ⟨⟩
    refine ⟨max 1 quantity, hreason, ?_, ?_⟩
    · rintro _ hsome
      rw [hheadroom] at hsome
      cases hsome
      exact (hiff _ hfitted hbound).mpr le_rfl
    · intro hnone
      rw [hheadroom] at hnone
      cases hnone
  · rename_i hheadroom
    split at h
    · rename_i hallowed
      cases h
      refine ⟨le_rfl, ?_⟩
      rintro _ ⟨⟩
      refine ⟨max 1 quantity, hreason, ?_, fun _ => hallowed⟩
      intro headroom hsome
      rw [hheadroom] at hsome
      cases hsome
    · cases h

/-- What a fit without a reason has established. -/
theorem fitQuantity_fits
    (h : fitQuantity cash risk stopLossPct price upperQuantity premiumCap extraCash =
      (quantity, none)) :
    0 < quantity ∧ (∀ preview, cash = some preview → CashFits preview price extraCash quantity) ∧
      ∀ preview, risk = some preview →
        ∃ n, RiskFits (preview n) stopLossPct price quantity := by
  unfold fitQuantity at h
  split at h
  · cases h
  rename_i affordable hcash
  split at h
  · cases h
  rename_i fitted hrisk
  obtain ⟨rfl, hreason⟩ := Prod.mk.inj h
  have hpos : 0 < fitted := by
    by_contra hneg
    rw [if_neg hneg] at hreason
    cases hreason
  obtain ⟨hle, hfits⟩ := fitRisk_fits hpos hrisk
  refine ⟨hpos, fun preview hpreview => ?_, hfits⟩
  exact (fitCash_fits hcash).2 preview hpreview fitted hpos hle

end Converged

section Cash

variable {newYorkDate : ℚ → ℤ} {getenv : String → Option String} {desk : CashDesk}
  {tradeId : String} {timestamp : ℚ}

/-- The totals look at the reservations only. -/
theorem totals_releaseSynthetic_congr {s s' : CashState} (h : s.reservations = s'.reservations)
    (synthetic : String → Bool) (tradeDate : ℤ) :
    (s.releaseSynthetic synthetic tradeDate).totals tradeDate =
      (s'.releaseSynthetic synthetic tradeDate).totals tradeDate := by
  simp only [CashState.totals, CashState.releaseSynthetic, h]

/-- A second sweep finds nothing. -/
theorem releaseSynthetic_twice (s : CashState) (synthetic : String → Bool) (tradeDate : ℤ) :
    ((s.releaseSynthetic synthetic tradeDate).releaseSynthetic synthetic tradeDate).totals tradeDate =
      (s.releaseSynthetic synthetic tradeDate).totals tradeDate := by
  have hrows : ((s.releaseSynthetic synthetic tradeDate).releaseSynthetic synthetic
      tradeDate).reservations.rows = (s.releaseSynthetic synthetic tradeDate).reservations.rows := by
    simp only [CashState.releaseSynthetic, Table.update, List.map_map]
    apply List.map_congr_left
    intro r _
    by_cases hr : (r.tradeDate = tradeDate && r.status ≠ .released && synthetic r.tradeId) = true
    · simp only [Function.comp_apply]
      rw [if_pos hr, if_neg (by simp)]
    · simp only [Function.comp_apply]
      rw [if_neg hr, if_neg hr]
  simp only [CashState.totals, Table.total, hrows]

/-- What the sweep leaves of the budget of a day. -/
def remainingAfterSweep (s : CashState) (synthetic : String → Bool) (tradeDate : ℤ)
    (day : CashBudgetDay) : ℚ :=
  CashGuard.remainingBudget day ((s.releaseSynthetic synthetic tradeDate).totals tradeDate)

theorem reserveOnDay_run (getenv : String → Option String) (synthetic : String → Bool)
    (account : Except String (Option String)) (portfolio : Except String (Option ℚ))
    (tradeId : String) (required : ℚ) (reserve : Bool) (tradeDate : ℤ)
    (accountType : Option String) (day : CashBudgetDay) (s : CashState) :
    let run := (CashGuard.reserveOnDay getenv tradeId required reserve tradeDate accountType
      day).runWith (handleCash synthetic account portfolio) s
    let remaining := remainingAfterSweep s synthetic tradeDate day
    run.1.enforced = true ∧ (run.1.blocked = true → remaining < required) ∧
      (reserve = false → run.2 = s.releaseSynthetic synthetic tradeDate ∧
        run.1.details.remainingBudget = some remaining) := by
  intro run remaining
  have hrun : run = ((CashGuard.reserveOnDay getenv tradeId required reserve tradeDate accountType
      day).runWith (handleCash synthetic account portfolio) s) := rfl
  unfold CashGuard.reserveOnDay at hrun
  simp only [Program.perform, Program.call_bind, Program.pure_bind, Program.runWith] at hrun
  split at hrun
  · rename_i hlt
    rw [hrun]
    exact ⟨rfl, fun _ => hlt, fun _ => ⟨rfl, rfl⟩⟩
  split at hrun
  · rw [hrun]
    exact ⟨rfl, fun hblocked => absurd hblocked Bool.false_ne_true, fun _ => ⟨rfl, rfl⟩⟩
  · rename_i hreserve
    rw [hrun]
    exact ⟨rfl, fun hblocked => absurd hblocked Bool.false_ne_true,
      fun hfalse => absurd hfalse (by simpa using hreserve)⟩

/-- Without a budget day the guard makes one, if the broker tells the cash. -/
theorem reserveLocked_run (getenv : String → Option String) (synthetic : String → Bool)
    (account : Except String (Option String)) (portfolio : Except String (Option ℚ))
    (tradeId : String) (required : ℚ) (reserve : Bool) (tradeDate : ℤ)
    (accountType : Option String) (s : CashState) :
    let run := (CashGuard.reserveLocked getenv tradeId required reserve tradeDate
      accountType).runWith (handleCash synthetic account portfolio) s
    run.1.enforced = true ∧
      (∀ day, s.days.get? tradeDate = some day → run.1.blocked = true →
        remainingAfterSweep s synthetic tradeDate day < required) ∧
      (reserve = false → run.1.blocked = false → ∃ day, run.2.days.get? tradeDate = some day ∧
        run.1.details.remainingBudget = some (remainingAfterSweep run.2 synthetic tradeDate day)) := by
  intro run
  have hrun : run = (CashGuard.reserveLocked getenv tradeId required reserve tradeDate
      accountType).runWith (handleCash synthetic account portfolio) s := rfl
  unfold CashGuard.reserveLocked at hrun
  simp only [Program.perform, Program.call_bind, Program.pure_bind, Program.runWith,
    handleCash] at hrun
  split at hrun
  · rename_i day hday
    obtain ⟨henforced, hblocked, hpreview⟩ := reserveOnDay_run getenv synthetic account
      portfolio tradeId required reserve tradeDate accountType day s
    rw [hrun]
    refine ⟨henforced, ?_, ?_⟩
    · intro day' hday'
      rw [hday] at hday'
      cases hday'
      exact hblocked
    · intro hreserve _
      obtain ⟨hstate, hremaining⟩ := hpreview hreserve
      refine ⟨day, ?_, ?_⟩
      · rw [hstate]
        exact hday
      · rw [hremaining, hstate, remainingAfterSweep, remainingAfterSweep, releaseSynthetic_twice]
  · rename_i hnone
    have hempty (day : CashBudgetDay) (hday : s.days.get? tradeDate = some day) : False := by
      rw [hnone] at hday
      cases hday
    simp only [Program.runWith, handleCash] at hrun
    split at hrun
    · rw [hrun]
      exact ⟨rfl, fun day hday => (hempty day hday).elim,
        fun _ h => Bool.noConfusion (show true = false from h)⟩
    · rw [hrun]
      exact ⟨rfl, fun day hday => (hempty day hday).elim,
        fun _ h => Bool.noConfusion (show true = false from h)⟩
    -- the day that the guard makes is the one that it then finds
    rename_i cash
    simp only [Program.runWith, handleCash] at hrun
    have hdate : (CashGuard.newDay getenv tradeDate accountType cash).tradeDate = tradeDate := rfl
    obtain ⟨henforced, -, hpreview⟩ := reserveOnDay_run getenv synthetic account
      (.ok (some cash)) tradeId required reserve tradeDate accountType
      (CashGuard.newDay getenv tradeDate accountType cash)
      (s.upsertDay (CashGuard.newDay getenv tradeDate accountType cash))
    rw [hrun]
    refine ⟨henforced, fun day hday => (hempty day hday).elim, fun hreserve _ => ?_⟩
    obtain ⟨hstate, hremaining⟩ := hpreview hreserve
    refine ⟨CashGuard.newDay getenv tradeDate accountType cash, ?_, ?_⟩
    · rw [hstate]
      show (s.days.upsert _ _ _).get? tradeDate = _
      rw [Table.get?_upsert, if_pos hdate, hnone]
      rfl
    · rw [hremaining, hstate, remainingAfterSweep, remainingAfterSweep, releaseSynthetic_twice]

/-- The guard is in force for an account type. -/
def InForce (getenv : String → Option String) (account : Except String (Option String)) : Prop :=
  cashGuardMode getenv ≠ .off ∧
    shouldEnforce (cashGuardMode getenv) (CashGuard.accountType account) = true

/-- The consult, once the account type is read. -/
theorem reserveEntry_eq (desk : CashDesk) (requiredCash : ℚ) (reserve : Bool) :
    desk.reserveEntry newYorkDate getenv tradeId requiredCash timestamp reserve =
      if cashGuardMode getenv = .off then (⟨false, false, none, {}⟩, desk.state)
      else if !shouldEnforce (cashGuardMode getenv) (CashGuard.accountType desk.account) then
        (⟨false, false, none,
          { cashGuardMode := some (cashGuardMode getenv)
            accountType := CashGuard.accountType desk.account }⟩, desk.state)
      else
        let locked := (CashGuard.reserveLocked getenv tradeId
          (Python.roundTo 2 (max requiredCash 0)) reserve (newYorkDate timestamp)
          (CashGuard.accountType desk.account)).runWith
            (handleCash desk.synthetic desk.account desk.portfolio)
            { desk.state with lock := some 0 }
        (locked.1, { locked.2 with lock := none }) := by
  unfold CashDesk.reserveEntry CashGuard.reserveEntry
  by_cases hmode : cashGuardMode getenv = .off
  · simp only [if_pos hmode]
    rfl
  simp only [if_neg hmode, Program.perform, Program.call_bind, Program.pure_bind, Program.runWith]
  show Program.runWith _ (if (!shouldEnforce _ (CashGuard.accountType desk.account)) = true
    then _ else _) _ = _
  cases shouldEnforce (cashGuardMode getenv) (CashGuard.accountType desk.account) with
  | false => rfl
  | true =>
    simp only [Bool.not_true, Bool.false_eq_true, if_false, Program.runWith, Program.runWith_bind]
    rfl

variable (newYorkDate tradeId timestamp) in
theorem reserveEntry_of_not_inForce (requiredCash : ℚ) (reserve : Bool)
    (h : ¬InForce getenv desk.account) :
    let run := desk.reserveEntry newYorkDate getenv tradeId requiredCash timestamp reserve
    run.1.enforced = false ∧ run.1.blocked = false := by
  rw [reserveEntry_eq]
  split
  · exact ⟨rfl, rfl⟩
  rename_i hmode
  split
  · exact ⟨rfl, rfl⟩
  · rename_i henforced
    exact absurd ⟨hmode, by simpa using henforced⟩ h

variable (newYorkDate tradeId timestamp) in
/-- A consult of a guard that is in force, under its lock. -/
theorem reserveEntry_of_inForce (requiredCash : ℚ) (reserve : Bool)
    (h : InForce getenv desk.account) :
    let run := desk.reserveEntry newYorkDate getenv tradeId requiredCash timestamp reserve
    let tradeDate := newYorkDate timestamp
    run.1.enforced = true ∧
      (∀ day, desk.state.days.get? tradeDate = some day → run.1.blocked = true →
        remainingAfterSweep desk.state desk.synthetic tradeDate day <
          Python.roundTo 2 (max requiredCash 0)) ∧
      (reserve = false → run.1.blocked = false → ∃ day, run.2.days.get? tradeDate = some day ∧
        run.1.details.remainingBudget =
          some (remainingAfterSweep run.2 desk.synthetic tradeDate day)) := by
  obtain ⟨hmode, henforce⟩ := h
  have hlocked := reserveLocked_run getenv desk.synthetic desk.account desk.portfolio tradeId
    (Python.roundTo 2 (max requiredCash 0)) reserve (newYorkDate timestamp)
    (CashGuard.accountType desk.account) { desk.state with lock := some 0 }
  rw [reserveEntry_eq, if_neg hmode, if_neg (by simp [henforce])]
  exact hlocked

/-- The tables are at the reservation as the last preview left them. -/
structure BudgetUnchanged (newYorkDate : ℚ → ℤ) (getenv : String → Option String)
    (entry : LiveEntry) (preview desk : CashDesk) : Prop where
  days : desk.state.days =
    (preview.previewEntry newYorkDate getenv entry.tradeId entry.timestamp).2.days
  reservations : desk.state.reservations =
    (preview.previewEntry newYorkDate getenv entry.tradeId entry.timestamp).2.reservations
  synthetic : desk.synthetic = preview.synthetic

theorem remainingAfterSweep_nonneg (s : CashState) (synthetic : String → Bool) (tradeDate : ℤ)
    (day : CashBudgetDay) : 0 ≤ remainingAfterSweep s synthetic tradeDate day :=
  Python.roundTo_nonneg (le_max_left 0 _)

theorem remainingAfterSweep_mem (s : CashState) (synthetic : String → Bool) (tradeDate : ℤ)
    (day : CashBudgetDay) : remainingAfterSweep s synthetic tradeDate day ∈ Python.decimalGrid 2 :=
  Python.roundTo_mem _ _

/-- What the preview of the guard leaves room for, its reservation accepts. -/
theorem reserveEntry_accepts {entry : LiveEntry} {preview : CashDesk} {price extraCash requiredCash : ℚ}
    {quantity : ℤ}
    (hfits : CashFits (cashPreview
      (preview.previewEntry newYorkDate getenv entry.tradeId entry.timestamp).1)
      price extraCash quantity)
    (hunchanged : BudgetUnchanged newYorkDate getenv entry preview desk)
    (hforce : InForce getenv desk.account → InForce getenv preview.account)
    (hrequired : requiredCash ≤ quantity * (price * 100) + extraCash) :
    (desk.reserveEntry newYorkDate getenv entry.tradeId requiredCash entry.timestamp
      true).1.blocked = false := by
  by_cases hin : InForce getenv desk.account
  swap
  · exact (reserveEntry_of_not_inForce newYorkDate entry.tradeId entry.timestamp requiredCash true hin).2
  obtain ⟨henforced, -, hpreview⟩ :=
    reserveEntry_of_inForce newYorkDate entry.tradeId entry.timestamp 0 false (hforce hin)
  obtain ⟨-, hblocked, -⟩ :=
    reserveEntry_of_inForce newYorkDate entry.tradeId entry.timestamp requiredCash true hin
  obtain ⟨hopen, hcapacity⟩ := hfits
  have hopen : (preview.reserveEntry newYorkDate getenv entry.tradeId 0 entry.timestamp
      false).1.blocked = false := by
    by_contra htrue
    simp only [cashPreview, CashDesk.previewEntry, Bool.eq_true_of_not_eq_false htrue, if_true] at hopen
    cases hopen
  obtain ⟨day, hday, hremaining⟩ := hpreview rfl hopen
  -- the reservation finds the budget that the preview reported
  have hsame : remainingAfterSweep desk.state desk.synthetic (newYorkDate entry.timestamp) day =
      remainingAfterSweep (preview.reserveEntry newYorkDate getenv entry.tradeId 0 entry.timestamp
        false).2 preview.synthetic (newYorkDate entry.timestamp) day := by
    unfold remainingAfterSweep
    rw [hunchanged.synthetic]
    congr 1
    exact totals_releaseSynthetic_congr hunchanged.reservations _ _
  obtain ⟨cash, hcash, hroom⟩ := hcapacity _ (by
    simp only [cashPreview, CashDesk.previewEntry, henforced, if_true]
    rfl)
  rw [hremaining] at hcash
  have hcash := Option.some.inj hcash
  have hdesk : desk.state.days.get? (newYorkDate entry.timestamp) = some day := by
    rw [hunchanged.days]
    exact hday
  by_contra htrue
  have hlt := hblocked day hdesk (Bool.eq_true_of_not_eq_false htrue)
  rw [hsame] at hlt
  have hnonneg := remainingAfterSweep_nonneg (preview.reserveEntry newYorkDate getenv entry.tradeId 0
    entry.timestamp false).2 preview.synthetic (newYorkDate entry.timestamp) day
  have hmem := remainingAfterSweep_mem (preview.reserveEntry newYorkDate getenv entry.tradeId 0
    entry.timestamp false).2 preview.synthetic (newYorkDate entry.timestamp) day
  have hle : max requiredCash 0 ≤ cash := by
    apply max_le
    · linarith
    · rw [← hcash]
      exact hnonneg
  have hround := Python.roundTo_mono 2 hle
  rw [← hcash, Python.roundTo_of_mem hmem] at hround
  exact absurd hlt (not_lt.mpr hround)

end Cash

section Risk

variable {newYorkDate : ℚ → ℤ} {settings : RiskSettings} {entry : LiveEntry}
  {before after : BookReads} {manager manager' : RiskManager}

/-- The rows of the other trades. -/
def othersOf (tradeId : String) (rows : List TradeRecord) : List TradeRecord :=
  rows.filter fun row => row.tradeId ≠ tradeId

/-- Between two consults of an entry its intent is written; the other rows, the unexpired
reservations and the day are the same. -/
structure RiskUnchanged (newYorkDate : ℚ → ℤ) (entry : LiveEntry) (before after : BookReads) :
    Prop where
  tradeDate : newYorkDate after.now = newYorkDate before.now
  budgetDay : after.budgetDay = before.budgetDay
  recentTrades : ∀ rows rows', before.recentTrades = .ok rows → after.recentTrades = .ok rows' →
    othersOf entry.tradeId rows' = othersOf entry.tradeId rows ∧
      (∀ row ∈ rows, row.tradeId ≠ entry.tradeId) ∧
      ∀ row ∈ rows', row.tradeId = entry.tradeId →
        ∃ price quantity, row = entryIntent entry price quantity
  partialFills : ∀ fills fills', before.partialFills = .ok fills → after.partialFills = .ok fills' →
    fills' entry.tradeId = [] ∧ ∀ tradeId, tradeId ≠ entry.tradeId → fills' tradeId = fills tradeId
  openTrades : ∀ rows rows', before.openTrades = .ok rows → after.openTrades = .ok rows' →
    othersOf entry.tradeId rows' = othersOf entry.tradeId rows
  reservations : ∀ rows rows', before.reservations = .ok rows → after.reservations = .ok rows' →
    (rows'.filter fun r => after.now < r.expiresAt && r.tradeId ≠ entry.tradeId) =
      rows.filter fun r => before.now < r.expiresAt && r.tradeId ≠ entry.tradeId

/-- The intent of an entry without fills realizes nothing. -/
theorem tradePnlToday_entryIntent (tradeDate : ℤ) (price : ℚ) (quantity : ℤ) :
    tradePnlToday newYorkDate tradeDate (entryIntent entry price quantity) [] = 0 := by
  have hclosed : isClosedTrade (entryIntent entry price quantity) = false := by
    show decide ("pending_entry_reconcile" = "closed") = false
    decide
  have hlegs : confirmedPartialLegs (entryIntent entry price quantity) [] = [] := rfl
  simp [tradePnlToday, hclosed, hlegs]

/-- Rows that realize nothing may be left out of the realized P&L. -/
theorem realizedLivePnlToday_othersOf (tradeDate : ℤ) (tradeId : String) (rows : List TradeRecord)
    (fills : String → List PartialFillRecord)
    (hown : ∀ row ∈ rows, row.tradeId = tradeId →
      tradePnlToday newYorkDate tradeDate row (fills row.tradeId) = 0) :
    realizedLivePnlToday newYorkDate tradeDate rows fills =
      realizedLivePnlToday newYorkDate tradeDate (othersOf tradeId rows) fills := by
  unfold realizedLivePnlToday othersOf
  congr 1
  induction rows with
  | nil => rfl
  | cons row rows ih =>
    have ih := ih fun other hother => hown other (List.mem_cons_of_mem row hother)
    by_cases hid : row.tradeId = tradeId
    · have hzero := hown row List.mem_cons_self hid
      have hskip : (row :: rows).filter (fun row => decide (row.tradeId ≠ tradeId)) =
          rows.filter fun row => decide (row.tradeId ≠ tradeId) :=
        List.filter_cons_of_neg (by simpa using hid)
      rw [hskip, ← ih]
      by_cases hrelevant : isRelevantToday newYorkDate tradeDate row = true
      · rw [List.filter_cons_of_pos hrelevant, List.map_cons, List.sum_cons, hzero, zero_add]
      · rw [List.filter_cons_of_neg hrelevant]
    · have hkeep : (row :: rows).filter (fun row => decide (row.tradeId ≠ tradeId)) =
          row :: rows.filter fun row => decide (row.tradeId ≠ tradeId) :=
        List.filter_cons_of_pos (by simpa using hid)
      rw [hkeep]
      by_cases hrelevant : isRelevantToday newYorkDate tradeDate row = true
      · rw [List.filter_cons_of_pos hrelevant, List.filter_cons_of_pos hrelevant, List.map_cons,
          List.map_cons, List.sum_cons, List.sum_cons, ih]
      · rw [List.filter_cons_of_neg hrelevant, List.filter_cons_of_neg hrelevant, ih]

theorem realizedPnl_eq (h : RiskUnchanged newYorkDate entry before after) {pnl pnl' : ℚ}
    (hbefore : before.realizedPnl newYorkDate = .ok pnl)
    (hafter : after.realizedPnl newYorkDate = .ok pnl') : pnl' = pnl := by
  obtain ⟨rows, hrows, hbefore⟩ := Except.bind_eq_ok_iff.mp hbefore
  obtain ⟨fills, hfills, hbefore⟩ := Except.bind_eq_ok_iff.mp hbefore
  obtain ⟨rows', hrows', hafter⟩ := Except.bind_eq_ok_iff.mp hafter
  obtain ⟨fills', hfills', hafter⟩ := Except.bind_eq_ok_iff.mp hafter
  obtain rfl := Except.ok.inj hbefore
  obtain rfl := Except.ok.inj hafter
  obtain ⟨hothers, hnone, hintent⟩ := h.recentTrades rows rows' hrows hrows'
  obtain ⟨hown, hfills⟩ := h.partialFills fills fills' hfills hfills'
  rw [h.tradeDate]
  rw [realizedLivePnlToday_othersOf _ entry.tradeId rows' fills', hothers]
  · rw [realizedLivePnlToday_othersOf _ entry.tradeId rows fills
      (fun row hrow hid => absurd hid (hnone row hrow))]
    unfold realizedLivePnlToday
    congr 2
    apply List.map_congr_left
    intro row hrow
    have hid : row.tradeId ≠ entry.tradeId := by
      simpa using (List.mem_filter.mp (List.mem_filter.mp hrow).1).2
    rw [hfills row.tradeId hid]
  · intro row hrow hid
    obtain ⟨price, quantity, rfl⟩ := hintent row hrow hid
    rw [show (entryIntent entry price quantity).tradeId = entry.tradeId from rfl, hown]
    exact tradePnlToday_entryIntent _ price quantity

/-- The other open trades, which do not depend on the rows of the entry itself. -/
theorem liveOpenTrades_othersOf (sized : SizedEntry) (others : List EntryRiskReservation)
    (rows : List TradeRecord) :
    sized.liveOpenTrades others rows =
      sized.liveOpenTrades others (othersOf sized.tradeId rows) := by
  unfold SizedEntry.liveOpenTrades othersOf
  rw [List.filter_filter]
  apply List.filter_congr
  intro row _
  by_cases hid : row.tradeId = sized.tradeId <;> simp [hid]

theorem book_unchanged (h : RiskUnchanged newYorkDate entry before after) {price price' : ℚ}
    {quantity quantity' : ℤ} {book book' : SizedEntry.Book}
    (hbefore : ({ entry.sized price quantity with reserve := false } : SizedEntry).readBook settings
      before = .ok book)
    (hafter : (entry.sized price' quantity').readBook settings after = .ok book') :
    book'.trades = book.trades ∧ book'.others = book.others := by
  obtain ⟨-, ⟨rows, active, hrows, hactive, rfl⟩, -⟩ := readBook_ok hbefore
  obtain ⟨-, ⟨rows', active', hrows', hactive', rfl⟩, -⟩ := readBook_ok hafter
  have hothers : (entry.sized price' quantity').otherReservations after.now active' =
      ({ entry.sized price quantity with reserve := false } : SizedEntry).otherReservations before.now
        active := h.reservations active active' hactive hactive'
  refine ⟨?_, hothers⟩
  show (entry.sized price' quantity').liveOpenTrades _ rows' =
    ({ entry.sized price quantity with reserve := false } : SizedEntry).liveOpenTrades _ rows
  rw [hothers, liveOpenTrades_othersOf, liveOpenTrades_othersOf _ _ rows]
  have hrows := h.openTrades rows rows' hrows hrows'
  show SizedEntry.liveOpenTrades _ _ (othersOf entry.tradeId rows') =
    SizedEntry.liveOpenTrades _ _ (othersOf entry.tradeId rows)
  rw [hrows]
  rfl

theorem readBook_reason {sized : SizedEntry} {reads : BookReads} {refusal : SizedEntryResult}
    (h : sized.readBook settings reads = .error refusal) :
    refusal.decision.reason ≠ .prospectiveLossHeadroomExceeded := by
  unfold SizedEntry.readBook at h
  split at h
  · cases h
    decide
  split at h
  · simp only at h
    split at h <;> cases h
    exact show RiskReason.correlationClusterAtCap ≠ _ by decide
  · cases h
    decide

/-- A consult that refuses for the headroom has read the book and an active Rail A, and found the
total above the budget. -/
theorem reserveSizedEntry_exceeded {sized : SizedEntry} {reads : BookReads}
    (h : (reserveSizedEntry newYorkDate settings sized reads manager).1.decision.reason =
      .prospectiveLossHeadroomExceeded) :
    ∃ book, sized.readBook settings reads = .ok book ∧ settings.prospectiveLossEnabled = true ∧
      (computeRailAStatus newYorkDate settings reads).active = true ∧
      |(computeRailAStatus newYorkDate settings reads).haltThresholdUsd.getD 0| <
        sized.prospectiveTotal (computeRailAStatus newYorkDate settings reads) book.trades
          book.others := by
  unfold reserveSizedEntry at h
  split at h
  · rename_i refusal hbook
    exact absurd h (readBook_reason hbook)
  rename_i book hbook
  refine ⟨book, hbook, ?_⟩
  split at h
  · rename_i refusal _ hrefusal
    have hreason : refusal.reason = .prospectiveLossHeadroomExceeded := h
    have hrefusal : (sized.prospectiveRefusal newYorkDate settings reads manager book.trades
        book.others).1 = some refusal := by
      rw [hrefusal]
    unfold SizedEntry.prospectiveRefusal at hrefusal
    simp only at hrefusal
    split_ifs at hrefusal with hoff hinactive hhalted hactive
    · obtain rfl := Option.some.inj hrefusal
      exact absurd hreason (show RiskReason.budgetUnavailable ≠ _ by decide)
    · obtain rfl := Option.some.inj hrefusal
      exact absurd hreason (show RiskReason.tier1Halt ≠ _ by decide)
    unfold SizedEntry.lossBudgetRefusal at hrefusal
    split_ifs at hrefusal with hunquantified hover
    · obtain rfl := Option.some.inj hrefusal
      exact absurd hreason (show RiskReason.openPositionRiskUnavailable ≠ _ by decide)
    · exact ⟨by simpa using hoff, hactive, hover⟩
  · rename_i hrefusal
    unfold SizedEntry.approve at h
    split at h
    · exact absurd h (show RiskReason.approved ≠ _ by decide)
    split at h
    · exact absurd h (show RiskReason.sizedEntryReservationFailed ≠ _ by decide)
    · exact absurd h (show RiskReason.approved ≠ _ by decide)

theorem reasonText_exceeded {reason : RiskReason}
    (h : reasonText reason = "risk_prospective_loss_headroom_exceeded") :
    reason = .prospectiveLossHeadroomExceeded := by
  cases reason <;> first | rfl | exact absurd h (by decide)

/-- A preview that leaves the sizing going has read the book and, where the rail is on, reports the
headroom over it. -/
theorem previewSizedEntry_headroom {sized : SizedEntry} {reads : BookReads}
    (hon : settings.prospectiveLossEnabled = true) (hA : settings.railAEnabled = true)
    (h : (previewSizedEntry newYorkDate settings sized reads manager).allowed = true ∨
      (previewSizedEntry newYorkDate settings sized reads manager).reason =
        "risk_prospective_loss_headroom_exceeded") :
    ∃ book, ({ sized with reserve := false } : SizedEntry).readBook settings reads = .ok book ∧
      (computeRailAStatus newYorkDate settings reads).active = true ∧
      (previewSizedEntry newYorkDate settings sized reads manager).remainingLossHeadroom =
        some (Python.roundTo 2
          (|(computeRailAStatus newYorkDate settings reads).haltThresholdUsd.getD 0| -
            bookLoss (computeRailAStatus newYorkDate settings reads) book)) := by
  cases hbook : ({ sized with reserve := false } : SizedEntry).readBook settings reads with
  | error refusal =>
    exfalso
    have hresult : reserveSizedEntry newYorkDate settings { sized with reserve := false } reads
        manager = (refusal, manager) := by
      unfold reserveSizedEntry
      rw [hbook]
    simp only [previewSizedEntry, hresult] at h
    rcases h with hallowed | hreason
    · rw [readBook_refuses hbook] at hallowed
      cases hallowed
    · exact readBook_reason hbook (reasonText_exceeded hreason)
  | ok book =>
    refine ⟨book, rfl, ?_⟩
    have hresult : (reserveSizedEntry newYorkDate settings { sized with reserve := false } reads
        manager).1.decision.allowed = true ∨
        (reserveSizedEntry newYorkDate settings { sized with reserve := false } reads
          manager).1.decision.reason = .prospectiveLossHeadroomExceeded :=
      h.imp_right reasonText_exceeded
    simp only [previewSizedEntry, remainingLossHeadroom, hbook, hon, hA, Bool.not_true, Bool.true_and,
      Bool.false_or]
    simp only [reserveSizedEntry, hbook, SizedEntry.prospectiveRefusal, hon, hA, Bool.not_true,
      Bool.false_eq_true, if_false, Bool.true_and] at hresult
    by_cases hactive : (computeRailAStatus newYorkDate settings reads).active = true
    swap
    · rw [if_pos (by simpa using hactive)] at hresult
      rcases hresult with hallowed | hreason
      · cases hallowed
      · cases hreason
    refine ⟨hactive, ?_⟩
    rw [if_neg (by simp [hactive])] at hresult
    by_cases hhalted : (manager.sessionHalted ||
        (computeRailAStatus newYorkDate settings reads).breached) = true
    · rw [if_pos hhalted] at hresult
      rcases hresult with hallowed | hreason
      · cases hallowed
      · cases hreason
    · simp [hactive, hhalted]

theorem railAEnabled_of_active {reads : BookReads}
    (h : (computeRailAStatus newYorkDate settings reads).active = true) :
    settings.railAEnabled = true := by
  by_contra hoff
  simp [computeRailAStatus, Bool.eq_false_of_not_eq_true hoff, RailAStatus.inactive] at h

/-- Two active readings of an unchanged day are the same. -/
theorem computeRailAStatus_unchanged (h : RiskUnchanged newYorkDate entry before after)
    (hbefore : (computeRailAStatus newYorkDate settings before).active = true)
    (hafter : (computeRailAStatus newYorkDate settings after).active = true) :
    computeRailAStatus newYorkDate settings after =
      computeRailAStatus newYorkDate settings before := by
  obtain ⟨day, pnl, hday, hpnl, hstatus⟩ := computeRailAStatus_active hbefore
  obtain ⟨day', pnl', hday', hpnl', hstatus'⟩ := computeRailAStatus_active hafter
  rw [h.budgetDay, hday] at hday'
  obtain rfl := Option.some.inj (Except.ok.inj hday')
  rw [hstatus, hstatus', h.tradeDate, realizedPnl_eq h hpnl hpnl']

theorem bookLoss_mem {reads : BookReads} (book : SizedEntry.Book)
    (h : (computeRailAStatus newYorkDate settings reads).active = true) :
    bookLoss (computeRailAStatus newYorkDate settings reads) book ∈ Python.decimalGrid 2 := by
  obtain ⟨day, pnl, -, hpnl, hstatus⟩ := computeRailAStatus_active h
  have hrealized : max (-pnl) 0 ∈ Python.decimalGrid 2 :=
    Python.max_mem (neg_mem (realizedPnl_mem hpnl)) (zero_mem _)
  have hopen : (book.trades.map fun trade => (openPlannedLoss trade).getD 0).sum ∈
      Python.decimalGrid 2 := by
    apply list_sum_mem
    intro loss hloss
    obtain ⟨trade, -, rfl⟩ := List.mem_map.mp hloss
    cases hplanned : openPlannedLoss trade with
    | none => exact zero_mem _
    | some planned => exact openPlannedLoss_mem hplanned
  rw [hstatus]
  exact add_mem (add_mem hrealized hopen) (Python.roundTo_mem _ _)

theorem haltBudget_mem {reads : BookReads}
    (h : (computeRailAStatus newYorkDate settings reads).active = true) :
    |(computeRailAStatus newYorkDate settings reads).haltThresholdUsd.getD 0| ∈
      Python.decimalGrid 2 := by
  obtain ⟨day, pnl, -, -, hstatus⟩ := computeRailAStatus_active h
  rw [hstatus]
  exact Python.max_mem (Python.roundTo_mem _ _) (neg_mem (Python.roundTo_mem _ _))

theorem pos_of_plannedStopLossUsd {price : ℚ} {quantity : ℤ} {stopLossPct : Option ℚ} {loss : ℚ}
    (h : plannedStopLossUsd (some price) quantity none stopLossPct = some loss) :
    0 < price ∧ 0 < quantity := by
  by_contra hnot
  have hrefused : price ≤ 0 ∨ quantity ≤ 0 := by
    rcases not_and_or.mp hnot with hprice | hquantity
    · exact Or.inl (not_lt.mp hprice)
    · exact Or.inr (not_lt.mp hquantity)
  simp [plannedStopLossUsd, hrefused] at h

/-- The headroom that the preview of the manager leaves, its reservation does not exceed. -/
theorem reserveSizedEntry_accepts {price sizingPrice : ℚ} {quantity n : ℤ}
    (hfits : RiskFits (previewSizedEntry newYorkDate settings (entry.sized price n) before manager)
      entry.stops.resolve price quantity)
    (hunchanged : RiskUnchanged newYorkDate entry before after) (hprice : sizingPrice ≤ price) :
    (reserveSizedEntry newYorkDate settings (entry.sized sizingPrice quantity) after
      manager').1.decision.reason ≠ .prospectiveLossHeadroomExceeded := by
  intro h
  obtain ⟨book', hbook', hon, hactive', hover⟩ := reserveSizedEntry_exceeded h
  have hA := railAEnabled_of_active hactive'
  obtain ⟨book, hbook, hactive, hheadroom⟩ := previewSizedEntry_headroom hon hA hfits.reason
  have hstatus := computeRailAStatus_unchanged hunchanged hactive hactive'
  obtain ⟨htrades, hothers⟩ := book_unchanged hunchanged hbook hbook'
  obtain ⟨loss, hloss⟩ := Option.ne_none_iff_exists'.mp ((readBook_ok hbook').1 hon)
  have hproposed : plannedStopLossUsd (some sizingPrice) quantity none entry.stops.resolve =
      some loss := hloss
  obtain ⟨hpos, hquantity⟩ := pos_of_plannedStopLossUsd hproposed
  -- the loss at the sizing price is no more than the loss that was fitted
  obtain ⟨fitted, hfitted, hle⟩ := (Option.any_eq_true _ _).mp (hfits.headroom _ hheadroom)
  have hle := of_decide_eq_true hle
  obtain ⟨loss', hloss', hmono⟩ := plannedStopLossUsd_mono hpos hprice hquantity le_rfl hfitted
  rw [hproposed] at hloss'
  obtain rfl := Option.some.inj hloss'
  rw [hstatus, htrades, hothers] at hover
  set railA := computeRailAStatus newYorkDate settings before with hrailA
  have hbudget : |railA.haltThresholdUsd.getD 0| ∈ Python.decimalGrid 2 := haltBudget_mem hactive
  have hcarried : bookLoss railA book ∈ Python.decimalGrid 2 := bookLoss_mem book hactive
  rw [Python.roundTo_of_mem (sub_mem hbudget hcarried)] at hle
  have htotal : (entry.sized sizingPrice quantity).prospectiveTotal railA book.trades book.others =
      Python.roundTo 2 (bookLoss railA book + loss) := by
    simp only [SizedEntry.prospectiveTotal, bookLoss, hloss, Option.getD_some]
  have hround : Python.roundTo 2 (bookLoss railA book + loss) ≤
      Python.roundTo 2 |railA.haltThresholdUsd.getD 0| := by
    apply Python.roundTo_mono
    linarith
  rw [Python.roundTo_of_mem hbudget, ← htotal] at hround
  exact absurd hover (not_lt.mpr hround)

end Risk

section Loop

variable {newYorkDate : ℚ → ℤ} {getenv : String → Option String} {settings : RiskSettings}
  {entry : LiveEntry} {capacities : ℕ → Capacity} {preflights : ℕ → Option PreflightCheck}
  {sizingPrice premiumCap : ℚ}

/-- The loop ends with a fit that left the preflighted quantity as it is. -/
theorem sizeAndPreflight_ok {sized : Sized} (attempts n : ℕ) (quantity : ℤ)
    (h : sizeAndPreflight newYorkDate getenv settings entry capacities preflights sizingPrice
      premiumCap attempts n quantity = .ok sized) :
    fitAt newYorkDate getenv settings entry (capacities sized.fit)
      (max sizingPrice sized.preflight.limitPrice) sized.quantity premiumCap
      (max 0 (brokerCost sized.preflight sized.quantity -
        sized.preflight.limitPrice * sized.quantity * 100)) = (sized.quantity, none) := by
  induction attempts generalizing n quantity with
  | zero => cases h
  | succ attempts ih =>
    unfold sizeAndPreflight at h
    split at h
    · cases h
    rename_i preflight hpreflight
    simp only at h
    split at h
    · cases h
    rename_i fitted hfit
    split at h
    · rename_i hsame
      cases h
      rw [hfit, hsame]
    · exact ih (n + 1) fitted h

/-- What the reservation of the guard asks for fits what the last preflight was fitted to. -/
theorem requiredCash_le (preflight : PreflightCheck) {quantity : ℤ} (hquantity : 0 < quantity) :
    requiredCash sizingPrice preflight quantity ≤
      quantity * (max sizingPrice preflight.limitPrice * 100) +
        max 0 (brokerCost preflight quantity - preflight.limitPrice * quantity * 100) := by
  have hpos : (0 : ℚ) < quantity := by exact_mod_cast hquantity
  have hextra := le_max_right 0 (brokerCost preflight quantity - preflight.limitPrice * quantity * 100)
  have hnonneg := le_max_left 0 (brokerCost preflight quantity - preflight.limitPrice * quantity * 100)
  have hsizing : sizingPrice * quantity * 100 ≤
      quantity * (max sizingPrice preflight.limitPrice * 100) := by
    have hle := mul_le_mul_of_nonneg_right (le_max_left sizingPrice preflight.limitPrice) hpos.le
    linarith
  have hlimit : preflight.limitPrice * quantity * 100 ≤
      quantity * (max sizingPrice preflight.limitPrice * 100) := by
    have hle := mul_le_mul_of_nonneg_right (le_max_right sizingPrice preflight.limitPrice) hpos.le
    linarith
  have hbroker : max (preflight.buyingPower.getD 0) (preflight.estimatedCost.getD 0) ≤
      brokerCost preflight quantity := le_max_left _ _
  have hestimated : preflight.estimatedCost.getD 0 ≤ brokerCost preflight quantity :=
    (le_max_right _ _).trans hbroker
  unfold requiredCash
  apply max_le
  · linarith
  · have hfees : max 0 (preflight.estimatedCost.getD 0 - preflight.limitPrice * quantity * 100) ≤
        max 0 (brokerCost preflight quantity - preflight.limitPrice * quantity * 100) :=
      max_le_max le_rfl (by linarith)
    linarith

/-- A quantity that the sizing has converged to is accepted by the reservations that come after it,
while the guard does not come into force in between and nothing else changes; and the bisection of a fit
finds the largest quantity up to its bound whose rounded planned loss is within the headroom. -/
theorem converged_sizing_is_accepted (newYorkDate : ℚ → ℤ) (getenv : String → Option String)
    (settings : RiskSettings) (entry : LiveEntry) (capacities : ℕ → Capacity)
    (preflights : ℕ → Option PreflightCheck) (sizingPrice premiumCap : ℚ) (quantity : ℤ) :
    (∀ sized, sizeEntry newYorkDate getenv settings entry capacities preflights sizingPrice premiumCap
        quantity = .ok sized →
      1 ≤ sized.quantity ∧
      (∀ preview ∈ (capacities sized.fit).cash, ∀ desk,
        BudgetUnchanged newYorkDate getenv entry preview desk →
        (InForce getenv desk.account → InForce getenv preview.account) →
        (desk.reserveEntry newYorkDate getenv entry.tradeId
          (requiredCash sizingPrice sized.preflight sized.quantity) entry.timestamp
          true).1.blocked = false) ∧
      ∀ preview ∈ (capacities sized.fit).risk, ∀ reads manager,
        RiskUnchanged newYorkDate entry preview.1 reads →
        (reserveSizedEntry newYorkDate settings (entry.sized sizingPrice sized.quantity) reads
          manager).1.decision.reason ≠ .prospectiveLossHeadroomExceeded) ∧
    ∀ stopLossPct price headroom bound,
      let found := largestWithin (lossFits stopLossPct price headroom) 0 bound
      0 ≤ found ∧ found ≤ max 0 bound ∧
        ∀ candidate, 0 < candidate → candidate ≤ bound →
          (lossFits stopLossPct price headroom candidate = true ↔ candidate ≤ found) := by
  refine ⟨fun sized h => ?_, largestWithin_lossFits⟩
  unfold sizeEntry at h
  split at h
  · cases h
  rename_i fitted _
  obtain ⟨hpos, hcash, hrisk⟩ := fitQuantity_fits (sizeAndPreflight_ok 3 1 fitted h)
  refine ⟨hpos, ?_, ?_⟩
  · intro preview hpreview desk hunchanged hforce
    have hfits := hcash _ (Option.map_eq_some_iff.mpr ⟨preview, hpreview, rfl⟩)
    exact reserveEntry_accepts hfits hunchanged hforce (requiredCash_le sized.preflight hpos)
  · intro preview hpreview reads manager hunchanged
    obtain ⟨n, hfits⟩ := hrisk _ (Option.map_eq_some_iff.mpr ⟨preview, hpreview, rfl⟩)
    exact reserveSizedEntry_accepts hfits hunchanged (le_max_left _ _)

end Loop

namespace UnreadAccount

def entry : LiveEntry where
  tradeId := "new"
  deploymentId := "d"
  symbol := "SPY"
  timestamp := 0
  stops := { exitStopLossPct := some (1 / 2) }

/-- A desk over a budget day of the given size. -/
def desk (usableBudget : ℚ) (account : Except String (Option String)) : CashDesk where
  account := account
  portfolio := .ok none
  synthetic := fun _ => false
  state := ⟨Table.empty.insert ⟨0, none, usableBudget, usableBudget, 0⟩ rfl, Table.empty, none⟩

/-- The desk that a preview leaves, when the next reading of the account ends as given. -/
def deskAfter (preview : CashDesk) (account : Except String (Option String)) : CashDesk :=
  { preview with
    account := account
    state := (preview.previewEntry (fun _ => 0) (fun _ => none) "new" 0).2 }

/-- Two contracts at a dollar, with two cents of fees. -/
def preflight : PreflightCheck := ⟨1, some 200, some (20002 / 100)⟩

/-- The book once the intent of the entry is written. -/
def intended : BookReads :=
  { IdleBook.reads 10000 with
    recentTrades := .ok [entryIntent entry 1 2]
    openTrades := .ok [entryIntent entry 1 2] }

def capacity (preview : CashDesk) : Capacity where
  cash := some preview
  risk := some (IdleBook.reads 10000, {})

theorem deskAfter_unchanged (preview : CashDesk) (account : Except String (Option String)) :
    BudgetUnchanged (fun _ => 0) (fun _ => none) entry preview (deskAfter preview account) :=
  ⟨rfl, rfl, rfl⟩

theorem intended_unchanged :
    RiskUnchanged (fun _ => 0) entry (IdleBook.reads 10000) intended where
  tradeDate := rfl
  budgetDay := rfl
  recentTrades := by
    rintro rows rows' ⟨⟩ ⟨⟩
    refine ⟨by decide +kernel, nofun, ?_⟩
    intro row hrow _
    obtain rfl := List.mem_singleton.mp hrow
    exact ⟨1, 2, rfl⟩
  partialFills := by
    rintro fills fills' ⟨⟩ ⟨⟩
    exact ⟨rfl, fun _ _ => rfl⟩
  openTrades := by
    rintro rows rows' ⟨⟩ ⟨⟩
    decide +kernel
  reservations := by
    rintro rows rows' ⟨⟩ ⟨⟩
    rfl

end UnreadAccount

open UnreadAccount in
theorem converged_sizing_is_accepted_cash_account :
    ((deskAfter (desk 1000 (.ok (some "cash"))) (.ok (some "cash"))).reserveEntry (fun _ => 0)
        (fun _ => none) "new" (requiredCash 1 preflight 2) 0 true).1.blocked = false ∧
      (reserveSizedEntry (fun _ => 0) IdleBook.defaults (entry.sized 1 2) intended
        {}).1.decision.reason ≠ .prospectiveLossHeadroomExceeded := by
  have haccepted := (converged_sizing_is_accepted (fun _ => 0) (fun _ => none) IdleBook.defaults entry
    (fun _ => capacity (desk 1000 (.ok (some "cash")))) (fun _ => some preflight) 1 300 2).1
    ⟨2, preflight, 1⟩ (by decide +kernel)
  exact ⟨haccepted.2.1 _ rfl _ (deskAfter_unchanged _ _) id,
    haccepted.2.2 _ rfl intended {} intended_unchanged⟩

open UnreadAccount in
/-- An account type that cannot be read at the reservation brings the guard into force over a budget
that the sizing did not look at. -/
theorem unread_account_blocks_converged_sizing :
    sizeEntry (fun _ => 0) (fun _ => none) IdleBook.defaults entry
        (fun _ => capacity (desk 100 (.ok (some "margin")))) (fun _ => some preflight) 1 300 2 =
      .ok ⟨2, preflight, 1⟩ ∧
    BudgetUnchanged (fun _ => 0) (fun _ => none) entry (desk 100 (.ok (some "margin")))
      (deskAfter (desk 100 (.ok (some "margin"))) (.error "timeout")) ∧
    ((deskAfter (desk 100 (.ok (some "margin"))) (.error "timeout")).reserveEntry (fun _ => 0)
      (fun _ => none) "new" (requiredCash 1 preflight 2) 0 true).1.reason =
        some "insufficient_internal_settled_cash_budget" :=
  ⟨by decide +kernel, deskAfter_unchanged _ _, by decide +kernel⟩

end Bhiksha.Sizing
