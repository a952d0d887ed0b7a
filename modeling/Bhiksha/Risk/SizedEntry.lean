import Bhiksha.Risk.RiskManager

/-! The final consult of a sized entry: correlation cluster, daily loss budget, reservation. -/

namespace Bhiksha

def clusterByUnderlying : List (String × String) :=
  [("SPY", "broad_market"), ("QQQ", "broad_market"), ("IWM", "broad_market"),
    ("DIA", "broad_market"), ("VOO", "broad_market"), ("VTI", "broad_market"),
    ("NVDA", "semiconductors"), ("AMD", "semiconductors"), ("SMH", "semiconductors"),
    ("MU", "semiconductors"), ("INTC", "semiconductors"), ("TSM", "semiconductors"),
    ("AVGO", "semiconductors"), ("SOXL", "semiconductors"), ("SOXX", "semiconductors"),
    ("VIX", "volatility"), ("VXX", "volatility"), ("UVXY", "volatility"),
    ("SVXY", "volatility"), ("VIXY", "volatility")]

def correlationCluster (symbol : String) : Option String :=
  if symbol = "" then none else clusterByUnderlying.lookup (Python.strip symbol).toUpper

def plannedStopLossUsd (entryPrice : Option ℚ) (quantity : ℤ) (stopPrice stopLossPct : Option ℚ) :
    Option ℚ := do
  let entry ← entryPrice
  if entry ≤ 0 ∨ quantity ≤ 0 then none
  else
    let lossPerContract ←
      match stopPrice.filter (0 < ·), stopLossPct.filter (0 < ·) with
      | some stop, _ => some (max (entry - stop) 0)
      | none, some pct => some (entry * pct)
      | none, none => none
    return Python.roundTo 2 (lossPerContract * quantity * 100)

/-- The planned loss of an open trade: to its stop, or the full premium without one. -/
def openPlannedLoss (trade : TradeRecord) : Option ℚ :=
  (plannedStopLossUsd trade.entryPrice trade.quantity trade.stopPrice none).or <|
    trade.entryPrice.bind fun entry =>
      if 0 < entry ∧ 0 < trade.quantity then
        some (Python.roundTo 2 (entry * trade.quantity * 100))
      else none

theorem plannedStopLossUsd_mem {entryPrice : Option ℚ} {quantity : ℤ}
    {stopPrice stopLossPct : Option ℚ} {loss : ℚ}
    (h : plannedStopLossUsd entryPrice quantity stopPrice stopLossPct = some loss) :
    loss ∈ Python.decimalGrid 2 := by
  unfold plannedStopLossUsd at h
  rcases entryPrice with _ | entry
  · cases h
  simp only [Option.bind_eq_bind, Option.bind_some, Option.pure_def] at h
  split at h
  · cases h
  split at h
  · obtain rfl := Option.some.inj h
    exact Python.roundTo_mem _ _
  · obtain rfl := Option.some.inj h
    exact Python.roundTo_mem _ _
  · cases h

/-- What the consult stores: a loss in whole cents, under the cluster of the symbol. -/
def EntryRiskReservation.Stored (r : EntryRiskReservation) : Prop :=
  r.plannedStopLossUsd ∈ Python.decimalGrid 2 ∧ r.cluster = correlationCluster r.symbol

/-- A row of the reservation ledger. -/
abbrev ReservationRow : Type := { r : EntryRiskReservation // r.Stored }

/-- The arguments of `reserve_sized_entry`. -/
structure SizedEntry where
  tradeId : String
  deploymentId : String
  symbol : String
  entryPrice : ℚ
  quantity : ℤ
  stopLossPct : Option ℚ
  reserve : Bool := true
deriving DecidableEq, Repr

/-- A consult's decision, and what it wrote to the reservation ledger. -/
structure SizedEntryResult where
  decision : EntryDecision
  expired : List String := []
  reservation : Option ReservationRow := none

def sizedEntryReservationTtl : ℚ := 30 * 60

namespace SizedEntry

variable (newYorkDate : ℚ → ℤ) (settings : RiskSettings) (entry : SizedEntry)

def proposedLoss : Option ℚ :=
  plannedStopLossUsd (some entry.entryPrice) entry.quantity none entry.stopLossPct

/-- The unexpired reservations of other trades. -/
def otherReservations (now : ℚ) (active : List EntryRiskReservation) : List EntryRiskReservation :=
  active.filter fun r => now < r.expiresAt && r.tradeId ≠ entry.tradeId

/-- The other open live trades that hold no reservation. -/
def liveOpenTrades (others : List EntryRiskReservation) (open_ : List TradeRecord) :
    List TradeRecord :=
  open_.filter fun trade => isOpenLiveTrade trade && trade.tradeId ≠ entry.tradeId &&
    trade.tradeId ∉ others.map EntryRiskReservation.tradeId

/-- How many of them share the cluster of the entry. -/
def clusterCount (trades : List TradeRecord) (others : List EntryRiskReservation) : ℕ :=
  let cluster := correlationCluster entry.symbol
  (trades.countP fun trade => correlationCluster trade.symbol = cluster) +
    others.countP fun r => r.cluster = cluster

def clusterAtCap (trades : List TradeRecord) (others : List EntryRiskReservation) : Bool :=
  (correlationCluster entry.symbol).isSome && 0 < settings.maxOpenPositionsPerCluster &&
    settings.maxOpenPositionsPerCluster ≤ entry.clusterCount trades others

/-- Realized, open, reserved and proposed loss together, to the cent. -/
def prospectiveTotal (railA : RailAStatus) (trades : List TradeRecord)
    (others : List EntryRiskReservation) : ℚ :=
  let realizedLoss := max (-(railA.realizedLivePnlUsd.getD 0)) 0
  let openLoss := (trades.map fun trade => (openPlannedLoss trade).getD 0).sum
  let reservedLoss := Python.roundTo 2 (others.map EntryRiskReservation.plannedStopLossUsd).sum
  Python.roundTo 2 (realizedLoss + openLoss + reservedLoss + entry.proposedLoss.getD 0)

/-- The refusals of the daily loss budget, while Rail A is active. -/
def lossBudgetRefusal (railA : RailAStatus) (trades : List TradeRecord)
    (others : List EntryRiskReservation) : Option EntryDecision :=
  if ∃ trade ∈ trades, openPlannedLoss trade = none then
    some ⟨false, .openPositionRiskUnavailable, some "A-prospective"⟩
  else if |railA.haltThresholdUsd.getD 0| < entry.prospectiveTotal railA trades others then
    some ⟨false, .prospectiveLossHeadroomExceeded, some "A-prospective"⟩
  else none

/-- The prospective-loss branch: whether it refuses, and the latch it leaves. -/
def prospectiveRefusal (reads : BookReads) (manager : RiskManager) (trades : List TradeRecord)
    (others : List EntryRiskReservation) : Option EntryDecision × RiskManager :=
  if !settings.prospectiveLossEnabled then (none, manager)
  else
    let railA := computeRailAStatus newYorkDate settings reads
    if settings.railAEnabled && !railA.active then
      (some ⟨false, .budgetUnavailable, some "A-prospective"⟩, manager)
    else
      let manager := { manager with sessionHalted := manager.sessionHalted || railA.breached }
      if manager.sessionHalted then (some ⟨false, .tier1Halt, some "A"⟩, manager)
      else if railA.active then (entry.lossBudgetRefusal railA trades others, manager)
      else (none, manager)

def newReservation (now : ℚ) : ReservationRow where
  val :=
    { tradeId := entry.tradeId
      deploymentId := entry.deploymentId
      symbol := entry.symbol
      cluster := correlationCluster entry.symbol
      plannedStopLossUsd := entry.proposedLoss.getD 0
      expiresAt := now + sizedEntryReservationTtl }
  property := by
    refine ⟨?_, rfl⟩
    cases hloss : entry.proposedLoss with
    | none => exact zero_mem _
    | some loss => exact plannedStopLossUsd_mem hloss

/-- The two ledgers as the consult reads them, without the entry itself. -/
structure Book where
  trades : List TradeRecord
  others : List EntryRiskReservation
  expired : List String
deriving DecidableEq, Repr

def book (now : ℚ) (openTrades : List TradeRecord) (active : List EntryRiskReservation) : Book :=
  let others := entry.otherReservations now active
  ⟨entry.liveOpenTrades others openTrades, others,
    (active.filter fun r => r.expiresAt ≤ now).map EntryRiskReservation.tradeId⟩

/-- The book, or the refusals that come before Rail A is looked at. -/
def readBook (reads : BookReads) : Except SizedEntryResult Book :=
  if entry.proposedLoss = none ∧ settings.prospectiveLossEnabled then
    .error ⟨⟨false, .proposedStopUnavailable, some "A-prospective"⟩, [], none⟩
  else
    match reads.openTrades, reads.reservations with
    | .ok openTrades, .ok active =>
      let book := entry.book reads.now openTrades active
      if entry.clusterAtCap settings book.trades book.others then
        .error ⟨⟨false, .correlationClusterAtCap, some "correlation-cluster"⟩, book.expired, none⟩
      else .ok book
    | _, _ => .error ⟨⟨false, .sizedEntryBookUnavailable, some "entry-risk"⟩, [], none⟩

/-- The approval, once nothing refused. -/
def approve (reads : BookReads) (expired : List String) : SizedEntryResult :=
  if !entry.reserve then ⟨⟨true, .approved, some "sized-entry"⟩, expired, none⟩
  else
    match reads.upsertReservation with
    | .error _ => ⟨⟨false, .sizedEntryReservationFailed, some "entry-risk"⟩, expired, none⟩
    | .ok _ =>
      ⟨⟨true, .approved, some "sized-entry"⟩, expired, some (entry.newReservation reads.now)⟩

end SizedEntry

def reserveSizedEntry (newYorkDate : ℚ → ℤ) (settings : RiskSettings) (entry : SizedEntry)
    (reads : BookReads) (manager : RiskManager) : SizedEntryResult × RiskManager :=
  match entry.readBook settings reads with
  | .error refusal => (refusal, manager)
  | .ok book =>
    match entry.prospectiveRefusal newYorkDate settings reads manager book.trades book.others with
    | (some refusal, manager) => (⟨refusal, book.expired, none⟩, manager)
    | (none, manager) => (entry.approve reads book.expired, manager)

section Approval

variable {newYorkDate : ℚ → ℤ} {settings : RiskSettings} {entry : SizedEntry} {reads : BookReads}
  {manager : RiskManager}

theorem readBook_refuses {refusal : SizedEntryResult}
    (h : entry.readBook settings reads = .error refusal) : refusal.decision.allowed = false := by
  unfold SizedEntry.readBook at h
  split at h
  · cases h
    rfl
  split at h
  · simp only at h
    split at h <;> cases h
    rfl
  · cases h
    rfl

theorem lossBudgetRefusal_refuses {railA : RailAStatus} {trades : List TradeRecord}
    {others : List EntryRiskReservation} {refusal : EntryDecision}
    (h : entry.lossBudgetRefusal railA trades others = some refusal) : refusal.allowed = false := by
  unfold SizedEntry.lossBudgetRefusal at h
  split_ifs at h
  · obtain rfl := Option.some.inj h
    rfl
  · obtain rfl := Option.some.inj h
    rfl

theorem prospectiveRefusal_refuses {trades : List TradeRecord}
    {others : List EntryRiskReservation} {refusal : EntryDecision}
    (h : (entry.prospectiveRefusal newYorkDate settings reads manager trades others).1 =
      some refusal) : refusal.allowed = false := by
  unfold SizedEntry.prospectiveRefusal at h
  simp only at h
  split_ifs at h
  · obtain rfl := Option.some.inj h
    rfl
  · obtain rfl := Option.some.inj h
    rfl
  · exact lossBudgetRefusal_refuses h

/-- An approval has read the book and met no refusal. -/
theorem reserveSizedEntry_allowed
    (h : (reserveSizedEntry newYorkDate settings entry reads manager).1.decision.allowed) :
    ∃ book, entry.readBook settings reads = .ok book ∧
      (entry.prospectiveRefusal newYorkDate settings reads manager book.trades book.others).1 =
        none := by
  unfold reserveSizedEntry at h
  split at h
  · next refusal hbook =>
    rw [readBook_refuses hbook] at h
    cases h
  next book hbook =>
  refine ⟨book, hbook, ?_⟩
  cases hrefusal : (entry.prospectiveRefusal newYorkDate settings reads manager book.trades
      book.others).1 with
  | none => rfl
  | some refusal =>
    have hfalse := prospectiveRefusal_refuses hrefusal
    split at h
    · next heq =>
      rw [heq] at hrefusal
      obtain rfl := Option.some.inj hrefusal
      rw [hfalse] at h
      cases h
    · next heq =>
      rw [heq] at hrefusal
      cases hrefusal

/-- An approval that is to reserve hands over its reservation. -/
theorem reserveSizedEntry_reserves
    (h : (reserveSizedEntry newYorkDate settings entry reads manager).1.decision.allowed)
    (hreserve : entry.reserve = true) :
    (reserveSizedEntry newYorkDate settings entry reads manager).1.reservation =
      some (entry.newReservation reads.now) := by
  -- an approval has come past every refusal, so that only the write is left
  obtain ⟨book, hbook, hnone⟩ := reserveSizedEntry_allowed h
  unfold reserveSizedEntry at h ⊢
  rw [hbook] at h ⊢
  dsimp only at h ⊢
  cases hrefusal : entry.prospectiveRefusal newYorkDate settings reads manager book.trades
      book.others with
  | mk refusal latched =>
    rw [hrefusal] at h hnone
    obtain rfl : refusal = none := hnone
    have hkeep : ¬(!entry.reserve) = true := by
      rw [hreserve]
      decide
    dsimp only at h ⊢
    unfold SizedEntry.approve at h ⊢
    rw [if_neg hkeep] at h ⊢
    cases hwrite : reads.upsertReservation with
    | ok _ => rfl
    | error e =>
      rw [hwrite] at h
      cases h

/-- What the book satisfies once it was read without a refusal. -/
theorem readBook_ok {book : SizedEntry.Book} (h : entry.readBook settings reads = .ok book) :
    (settings.prospectiveLossEnabled → entry.proposedLoss ≠ none) ∧
      (∃ openTrades active, reads.openTrades = .ok openTrades ∧ reads.reservations = .ok active ∧
        book = entry.book reads.now openTrades active) ∧
      entry.clusterAtCap settings book.trades book.others = false := by
  unfold SizedEntry.readBook at h
  split_ifs at h with hproposed
  split at h
  · next openTrades active hopen hactive =>
    simp only at h
    split_ifs at h with hcap
    obtain rfl := Except.ok.inj h
    refine ⟨?_, ⟨openTrades, active, hopen, hactive, rfl⟩, by simpa using hcap⟩
    exact fun hon hnone => hproposed ⟨hnone, hon⟩
  · cases h

/-- Under an active Rail A a consult that is not refused keeps within the daily loss budget. -/
theorem prospectiveRefusal_none {trades : List TradeRecord} {others : List EntryRiskReservation}
    (hon : settings.prospectiveLossEnabled) (hA : settings.railAEnabled)
    (h : (entry.prospectiveRefusal newYorkDate settings reads manager trades others).1 = none) :
    (computeRailAStatus newYorkDate settings reads).active ∧
      (∀ trade ∈ trades, openPlannedLoss trade ≠ none) ∧
      entry.prospectiveTotal (computeRailAStatus newYorkDate settings reads) trades others ≤
        |(computeRailAStatus newYorkDate settings reads).haltThresholdUsd.getD 0| := by
  unfold SizedEntry.prospectiveRefusal at h
  simp only [hon, hA, Bool.not_true, Bool.false_eq_true, if_false, Bool.true_and] at h
  split_ifs at h with hinactive hhalted hactive
  · unfold SizedEntry.lossBudgetRefusal at h
    split_ifs at h with hunquantified hover
    refine ⟨hactive, ?_, not_lt.mp hover⟩
    exact fun trade htrade hnone => hunquantified ⟨trade, htrade, hnone⟩
  · simp [hactive] at hinactive

theorem computeRailAStatus_active
    (h : (computeRailAStatus newYorkDate settings reads).active) :
    ∃ day pnl, reads.budgetDay = .ok (some day) ∧ reads.realizedPnl newYorkDate = .ok pnl ∧
      computeRailAStatus newYorkDate settings reads =
        evaluateRailA settings day.usableBudget pnl (newYorkDate reads.now) := by
  unfold computeRailAStatus at h ⊢
  split at h
  · cases h
  next hon =>
  split at h
  · cases h
  · cases h
  next day hday =>
  split at h
  · cases h
  next pnl hpnl =>
  refine ⟨day, pnl, hday, hpnl, ?_⟩
  simp only [hon]
  rfl

end Approval

end Bhiksha
