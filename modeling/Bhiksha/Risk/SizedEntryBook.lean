import Mathlib.Algebra.Group.Submonoid.BigOperators
import Bhiksha.Risk.EntryLedger
import Bhiksha.Risk.RailALoss

/-! What an approved sized entry leaves of the daily loss budget and of its correlation cluster, over
every interleaving of consults and ledger writes. -/

namespace Bhiksha

open Library

namespace EntryLedger

variable (ledger : EntryLedger) (now : ℚ)

def unexpiredReservations : List EntryRiskReservation :=
  ledger.getActiveEntryRiskReservations.filter fun r => now < r.expiresAt

def openLiveTrades : List TradeRecord := ledger.getOpenTrades.filter isOpenLiveTrade

/-- The trades that the book carries: open live, or under an unexpired reservation. -/
def carried : Finset String :=
  bookKeys EntryRiskReservation.tradeId TradeRecord.tradeId (ledger.unexpiredReservations now)
    ledger.openLiveTrades

/-- What speaks for a carried trade: its reservation while there is one, and its record otherwise. -/
def exposure (tradeId : String) : Option (EntryRiskReservation ⊕ TradeRecord) :=
  coalesce EntryRiskReservation.tradeId TradeRecord.tradeId (ledger.unexpiredReservations now)
    ledger.openLiveTrades tradeId

end EntryLedger

/-- The planned loss of an exposure, unless it cannot be quantified. -/
def exposureLoss : EntryRiskReservation ⊕ TradeRecord → Option ℚ
  | .inl reservation => some reservation.plannedStopLossUsd
  | .inr trade => openPlannedLoss trade

def exposureCluster : EntryRiskReservation ⊕ TradeRecord → Option String
  | .inl reservation => correlationCluster reservation.symbol
  | .inr trade => correlationCluster trade.symbol

/-- The daily halt budget, in cents as the status carries it. -/
def dailyHaltBudget (settings : RiskSettings) (usableBudget : ℚ) : ℚ :=
  |Python.roundTo 2 (-(settings.maxDailyDrawdownPct / 100) * usableBudget)|

/-- The caps on a proposed loss, over the book without the entry itself. -/
structure WithinCaps (newYorkDate : ℚ → ℤ) (settings : RiskSettings) (ledger : EntryLedger)
    (consult : SizedEntryConsult) : Prop where
  loss : ∃ day pnl proposed,
    consult.budgetDay = .ok (some day) ∧
    (consult.reads ledger).realizedPnl newYorkDate = .ok pnl ∧
    consult.entry.proposedLoss = some proposed ∧
    (∀ tradeId ∈ (ledger.carried consult.now).erase consult.entry.tradeId,
      ((ledger.exposure consult.now tradeId).bind exposureLoss).isSome) ∧
    max (-pnl) 0 +
        ∑ tradeId ∈ (ledger.carried consult.now).erase consult.entry.tradeId,
          ((ledger.exposure consult.now tradeId).bind exposureLoss).getD 0 +
        proposed ≤
      dailyHaltBudget settings day.usableBudget
  cluster : ∀ cluster, correlationCluster consult.entry.symbol = some cluster →
    0 < settings.maxOpenPositionsPerCluster →
      ((((ledger.carried consult.now).erase consult.entry.tradeId).filter fun tradeId =>
        ((ledger.exposure consult.now tradeId).bind exposureCluster) = some cluster).card : ℤ) <
        settings.maxOpenPositionsPerCluster

section Book

variable {ledger : EntryLedger} {entry : SizedEntry} {now : ℚ}

theorem otherReservations_eq :
    entry.otherReservations now ledger.getActiveEntryRiskReservations =
      (ledger.unexpiredReservations now).filter fun r => r.tradeId ≠ entry.tradeId := by
  unfold SizedEntry.otherReservations EntryLedger.unexpiredReservations
  rw [List.filter_filter]
  congr 1
  funext r
  exact Bool.and_comm _ _

theorem liveOpenTrades_eq (others : List EntryRiskReservation) :
    entry.liveOpenTrades others ledger.getOpenTrades =
      antiJoin EntryRiskReservation.tradeId TradeRecord.tradeId others
        (ledger.openLiveTrades.filter fun trade => trade.tradeId ≠ entry.tradeId) := by
  unfold SizedEntry.liveOpenTrades antiJoin EntryLedger.openLiveTrades
  rw [List.filter_filter, List.filter_filter]
  congr 1
  funext trade
  rw [Bool.and_comm _ (decide (_ ∉ _)), Bool.and_comm (isOpenLiveTrade trade), Bool.and_assoc]

theorem nodup_unexpiredReservations :
    ((ledger.unexpiredReservations now).map EntryRiskReservation.tradeId).Nodup := by
  have hrows : ((ledger.reservations.rows.map Subtype.val).map
      EntryRiskReservation.tradeId).Nodup := by
    rw [List.map_map]
    exact ledger.reservations.nodup
  exact hrows.sublist ((List.filter_sublist.trans List.filter_sublist).map _)

theorem nodup_openLiveTrades : (ledger.openLiveTrades.map TradeRecord.tradeId).Nodup :=
  ledger.trades.nodup.sublist ((List.filter_sublist.trans List.filter_sublist).map _)

theorem stored_of_mem {r : EntryRiskReservation} (h : r ∈ ledger.unexpiredReservations now) :
    r.Stored := by
  have hactive := (List.mem_filter.mp h).1
  obtain ⟨row, -, rfl⟩ := List.mem_map.mp (List.mem_filter.mp hactive).1
  exact row.property

theorem openPlannedLoss_mem {trade : TradeRecord} {loss : ℚ}
    (h : openPlannedLoss trade = some loss) : loss ∈ Python.decimalGrid 2 := by
  unfold openPlannedLoss at h
  rcases Option.or_eq_some_iff.mp h with h | ⟨-, h⟩
  · exact plannedStopLossUsd_mem h
  · obtain ⟨price, -, h⟩ := Option.bind_eq_some_iff.mp h
    split at h
    · obtain rfl := Option.some.inj h
      exact Python.roundTo_mem _ _
    · cases h

/-- The two ledgers as the consult reads them are the book without the entry. -/
theorem book_eq :
    entry.book now ledger.getOpenTrades ledger.getActiveEntryRiskReservations =
      { trades := antiJoin EntryRiskReservation.tradeId TradeRecord.tradeId
          ((ledger.unexpiredReservations now).filter fun r => r.tradeId ≠ entry.tradeId)
          (ledger.openLiveTrades.filter fun trade => trade.tradeId ≠ entry.tradeId)
        others := (ledger.unexpiredReservations now).filter fun r => r.tradeId ≠ entry.tradeId
        expired := (ledger.getActiveEntryRiskReservations.filter fun r => r.expiresAt ≤ now).map
          EntryRiskReservation.tradeId } := by
  unfold SizedEntry.book
  simp only [otherReservations_eq, liveOpenTrades_eq]

section Exposure

variable {book : SizedEntry.Book}
  (hbook : book = entry.book now ledger.getOpenTrades ledger.getActiveEntryRiskReservations)

include hbook

theorem sum_exposure {M : Type} [AddCommMonoid M] (w : EntryRiskReservation ⊕ TradeRecord → M) :
    ∑ tradeId ∈ (ledger.carried now).erase entry.tradeId,
        (ledger.exposure now tradeId).elim 0 w =
      (book.others.map fun r => w (.inl r)).sum +
        (book.trades.map fun trade => w (.inr trade)).sum := by
  rw [hbook, book_eq]
  rw [← sum_coalesce (nodup_unexpiredReservations.sublist (List.filter_sublist.map _))
    (nodup_openLiveTrades.sublist (List.filter_sublist.map _)), bookKeys_filter_ne]
  apply Finset.sum_congr rfl
  intro tradeId hid
  rw [coalesce_filter_ne (Finset.ne_of_mem_erase hid)]
  rfl

theorem card_exposure (p : EntryRiskReservation ⊕ TradeRecord → Bool) :
    (((ledger.carried now).erase entry.tradeId).filter fun tradeId =>
        (ledger.exposure now tradeId).any p).card =
      book.others.countP (fun r => p (.inl r)) + book.trades.countP fun trade => p (.inr trade) := by
  rw [hbook, book_eq]
  rw [← card_coalesce (nodup_unexpiredReservations.sublist (List.filter_sublist.map _))
    (nodup_openLiveTrades.sublist (List.filter_sublist.map _)), bookKeys_filter_ne]
  congr 1
  apply Finset.filter_congr
  intro tradeId hid
  rw [coalesce_filter_ne (Finset.ne_of_mem_erase hid)]
  rfl

theorem exposure_quantified (h : ∀ trade ∈ book.trades, openPlannedLoss trade ≠ none) :
    ∀ tradeId ∈ (ledger.carried now).erase entry.tradeId,
      ((ledger.exposure now tradeId).bind exposureLoss).isSome := by
  intro tradeId hid
  have hne := Finset.ne_of_mem_erase hid
  rw [EntryLedger.carried, ← bookKeys_filter_ne] at hid
  have hcases := coalesce_cases (nodup_unexpiredReservations.sublist (List.filter_sublist.map _))
    (nodup_openLiveTrades.sublist (List.filter_sublist.map _)) hid
  rw [coalesce_filter_ne hne] at hcases
  rcases hcases with ⟨r, -, hr⟩ | ⟨trade, htrade, hrow⟩
  · rw [EntryLedger.exposure, hr]
    rfl
  · rw [EntryLedger.exposure, hrow]
    apply Option.isSome_iff_ne_none.mpr
    apply h
    rw [hbook, book_eq]
    exact htrade

theorem clusterCount_eq (cluster : String) (hcluster : correlationCluster entry.symbol = some cluster) :
    entry.clusterCount book.trades book.others =
      (((ledger.carried now).erase entry.tradeId).filter fun tradeId =>
        (ledger.exposure now tradeId).bind exposureCluster = some cluster).card := by
  have hcard := card_exposure hbook fun row => exposureCluster row = some cluster
  have hfilter : ((ledger.carried now).erase entry.tradeId).filter (fun tradeId =>
      (ledger.exposure now tradeId).bind exposureCluster = some cluster) =
      ((ledger.carried now).erase entry.tradeId).filter fun tradeId =>
        (ledger.exposure now tradeId).any fun row => exposureCluster row = some cluster := by
    apply Finset.filter_congr
    intro tradeId _
    cases ledger.exposure now tradeId with
    | none => simp
    | some row => simp
  -- a stored reservation sits under the cluster of its symbol
  have hothers : book.others.countP (fun r => r.cluster = some cluster) =
      book.others.countP fun r => exposureCluster (.inl r) = some cluster := by
    apply List.countP_congr
    intro r hr
    rw [hbook, book_eq] at hr
    rw [(stored_of_mem (List.mem_filter.mp hr).1).2]
    rfl
  rw [hfilter, hcard, SizedEntry.clusterCount, hcluster, hothers, Nat.add_comm]
  rfl

/-- In whole cents, so that no rounding of the code is felt. -/
theorem prospectiveTotal_eq {railA : RailAStatus} {pnl proposed : ℚ}
    (hpnl : railA.realizedLivePnlUsd = some pnl) (hcents : pnl ∈ Python.decimalGrid 2)
    (hproposed : entry.proposedLoss = some proposed) :
    entry.prospectiveTotal railA book.trades book.others =
      max (-pnl) 0 +
        ∑ tradeId ∈ (ledger.carried now).erase entry.tradeId,
          ((ledger.exposure now tradeId).bind exposureLoss).getD 0 + proposed := by
  have hsum := sum_exposure hbook fun row => (exposureLoss row).getD 0
  have hterm (tradeId : String) : ((ledger.exposure now tradeId).bind exposureLoss).getD 0 =
      (ledger.exposure now tradeId).elim 0 fun row => (exposureLoss row).getD 0 := by
    cases ledger.exposure now tradeId with
    | none => rfl
    | some row => rfl
  have hothers : (book.others.map EntryRiskReservation.plannedStopLossUsd).sum ∈
      Python.decimalGrid 2 := by
    apply list_sum_mem
    intro loss hloss
    obtain ⟨r, hr, rfl⟩ := List.mem_map.mp hloss
    rw [hbook, book_eq] at hr
    exact (stored_of_mem (List.mem_filter.mp hr).1).1
  have hopen : (book.trades.map fun trade => (openPlannedLoss trade).getD 0).sum ∈
      Python.decimalGrid 2 := by
    apply list_sum_mem
    intro loss hloss
    obtain ⟨trade, -, rfl⟩ := List.mem_map.mp hloss
    cases hplanned : openPlannedLoss trade with
    | none => exact zero_mem _
    | some planned => exact openPlannedLoss_mem hplanned
  have hrealized : max (-pnl) 0 ∈ Python.decimalGrid 2 :=
    Python.max_mem (neg_mem hcents) (zero_mem _)
  have hmem := add_mem (add_mem (add_mem hrealized hopen) hothers)
    (plannedStopLossUsd_mem hproposed)
  simp only [SizedEntry.prospectiveTotal, hpnl, hproposed, Option.getD_some,
    Python.roundTo_of_mem hothers]
  rw [Python.roundTo_of_mem hmem, Finset.sum_congr rfl fun tradeId _ => hterm tradeId, hsum]
  simp only [exposureLoss, Option.getD_some]
  ring

end Exposure

end Book

section Approval

variable {newYorkDate : ℚ → ℤ} {settings : RiskSettings}

theorem realizedPnl_mem {reads : BookReads} {pnl : ℚ}
    (h : reads.realizedPnl newYorkDate = .ok pnl) : pnl ∈ Python.decimalGrid 2 := by
  obtain ⟨trades, -, h⟩ := Except.bind_eq_ok_iff.mp h
  obtain ⟨partials, -, h⟩ := Except.bind_eq_ok_iff.mp h
  obtain rfl := Except.ok.inj h
  exact Python.roundTo_mem _ _

/-- What the consult read of the ledgers when it read them. -/
theorem reads_ledger {consult : SizedEntryConsult} {ledger : EntryLedger}
    {openTrades : List TradeRecord} {active : List EntryRiskReservation}
    (hopen : (consult.reads ledger).openTrades = .ok openTrades)
    (hactive : (consult.reads ledger).reservations = .ok active) :
    openTrades = ledger.getOpenTrades ∧ active = ledger.getActiveEntryRiskReservations := by
  unfold SizedEntryConsult.reads at hopen hactive
  cases hfailure : consult.ledgerFailure with
  | none =>
    simp only [hfailure, Option.elim_none, Except.ok.injEq] at hopen hactive
    exact ⟨hopen.symm, hactive.symm⟩
  | some e =>
    simp only [hfailure, Option.elim_some] at hopen
    cases hopen

/-- An approval at a ledger keeps within both caps. -/
theorem withinCaps_of_allowed (hon : settings.prospectiveLossEnabled) (hA : settings.railAEnabled)
    {consult : SizedEntryConsult} {book : EntryBook}
    (h : (reserveSizedEntry newYorkDate settings consult.entry (consult.reads book.ledger)
      book.manager).1.decision.allowed) :
    WithinCaps newYorkDate settings book.ledger consult := by
  obtain ⟨read, hread, hnone⟩ := reserveSizedEntry_allowed h
  obtain ⟨hpriced, ⟨openTrades, active, hopen, hactive, hbook⟩, hcap⟩ := readBook_ok hread
  obtain ⟨rfl, rfl⟩ := reads_ledger hopen hactive
  obtain ⟨hrunning, hquantified, htotal⟩ := prospectiveRefusal_none hon hA hnone
  obtain ⟨day, pnl, hday, hpnl, hstatus⟩ := computeRailAStatus_active hrunning
  obtain ⟨proposed, hproposed⟩ := Option.ne_none_iff_exists'.mp (hpriced hon)
  constructor
  · refine ⟨day, pnl, proposed, hday, hpnl, hproposed, exposure_quantified hbook hquantified, ?_⟩
    have hrealized : (computeRailAStatus newYorkDate settings
        (consult.reads book.ledger)).realizedLivePnlUsd = some pnl := by
      rw [hstatus]
      rfl
    rw [prospectiveTotal_eq hbook hrealized (realizedPnl_mem hpnl) hproposed, hstatus] at htotal
    exact htotal
  · intro cluster hcluster hpos
    have hcount := clusterCount_eq hbook cluster hcluster
    simp only [SizedEntry.clusterAtCap, hcluster, Option.isSome_some, Bool.true_and, hpos,
      decide_true, decide_eq_false_iff_not, not_le, hcount] at hcap
    exact hcap

end Approval

section Coverage

variable {newYorkDate : ℚ → ℤ} {settings : RiskSettings} {tradeId : String}

/-- The trade has a record that is live and not closed. -/
def EntryLedger.OpenLive (ledger : EntryLedger) (tradeId : String) : Prop :=
  ∃ row, ledger.trades.get? tradeId = some row ∧ isOpenLiveTrade row

/-- The call does not close the trade, nor turns its record into a shadow one. -/
def LedgerCall.KeepsOpen (tradeId : String) : LedgerCall → Prop
  | .upsertTrade record _ => record.tradeId = tradeId → isOpenLiveTrade record
  | .markClosed id _ | .markClosedIfOpen id _ => id ≠ tradeId
  | _ => True

theorem isOpenLiveTrade_merge {record row : TradeRecord} {exitIntent : Bool}
    (h : isOpenLiveTrade record) : isOpenLiveTrade (record.merge exitIntent row) := by
  simp only [isOpenLiveTrade, Bool.and_eq_true] at h ⊢
  refine ⟨h.1, ?_⟩
  unfold TradeRecord.merge isClosedTrade
  simp only
  split
  · next hpending =>
    rw [hpending.1]
    decide
  · exact h.2

theorem settle_trades (ledger : EntryLedger) (result : SizedEntryResult) :
    (ledger.settle result).trades = ledger.trades := by
  have hexpire (ids : List String) (ledger : EntryLedger) :
      (ids.foldl (fun ledger id => ledger.markReservation id "expired") ledger).trades =
        ledger.trades := by
    induction ids generalizing ledger with
    | nil => rfl
    | cons id ids ih => exact ih (ledger.markReservation id "expired")
  unfold EntryLedger.settle
  cases result.reservation with
  | none => exact hexpire _ _
  | some row => exact hexpire _ _

theorem openLive_update {ledger : EntryLedger} {p : TradeRecord → Bool} {f : TradeRecord → TradeRecord}
    (hf : ∀ row, (f row).tradeId = row.tradeId) (hp : ∀ row, p row → row.tradeId ≠ tradeId)
    (h : ledger.OpenLive tradeId) :
    ({ ledger with trades := ledger.trades.update p f hf } : EntryLedger).OpenLive tradeId := by
  obtain ⟨row, hget, hlive⟩ := h
  have hkeep : p row = false := by
    by_contra htouched
    exact hp row (Bool.eq_true_of_not_eq_false htouched) (Table.key_of_get? hget)
  refine ⟨row, ?_, hlive⟩
  simp [Table.get?_update, hget, hkeep]

/-- A call that does not close the trade leaves it open. -/
theorem openLive_ledgerStep {call : LedgerCall} {book : EntryBook} (hcall : call.KeepsOpen tradeId)
    (h : book.ledger.OpenLive tradeId) :
    (ledgerStep newYorkDate settings call book).2.ledger.OpenLive tradeId := by
  cases call with
  | upsertTrade record exitIntent =>
    obtain ⟨row, hget, hlive⟩ := h
    have hlookup := book.ledger.trades.get?_upsert record (record.merge exitIntent)
      (fun _ => rfl) tradeId
    by_cases hid : record.tradeId = tradeId
    · rw [if_pos hid, hget] at hlookup
      exact ⟨_, hlookup, isOpenLiveTrade_merge (hcall hid)⟩
    · rw [if_neg hid, hget] at hlookup
      exact ⟨row, hlookup, hlive⟩
  | markClosed id fill =>
    apply openLive_update _ _ h
    intro row hrow
    rwa [of_decide_eq_true hrow]
  | markClosedIfOpen id fill =>
    apply openLive_update _ _ h
    intro row hrow
    rwa [of_decide_eq_true (Bool.and_eq_true_iff.mp hrow).1]
  | reserveSizedEntry consult =>
    unfold EntryLedger.OpenLive
    simp only [ledgerStep, consultSizedEntry, settle_trades]
    exact h
  | releaseSizedEntry id => exact h
  | commitSizedEntry id => exact h

theorem carried_of_openLive {ledger : EntryLedger} (h : ledger.OpenLive tradeId) (now : ℚ) :
    tradeId ∈ ledger.carried now := by
  obtain ⟨row, hget, hlive⟩ := h
  have hunclosed : row.status ≠ "closed" := by
    simp only [isOpenLiveTrade, isClosedTrade, Bool.and_eq_true, Bool.not_eq_eq_eq_not, Bool.not_true,
      decide_eq_false_iff_not] at hlive
    exact hlive.2
  have hopen : row ∈ ledger.openLiveTrades := by
    simp only [EntryLedger.openLiveTrades, EntryLedger.getOpenTrades, List.mem_filter,
      decide_eq_true_eq]
    exact ⟨⟨Table.mem_of_get? hget, hunclosed⟩, hlive⟩
  apply mem_bookKeys_iff.mpr
  right
  rw [← Table.key_of_get? hget]
  exact List.mem_map_of_mem hopen

end Coverage

/-- A written reservation is the row of its trade. -/
theorem get?_writtenReservation (ledger : EntryLedger) (row : ReservationRow) :
    (ledger.upsertReservation row).reservations.get? row.tradeId = some row := by
  have hget := Table.get?_upsert ledger.reservations row row.overwrite (fun _ => rfl) row.tradeId
  rw [if_pos rfl] at hget
  apply hget.trans
  cases hold : ledger.reservations.get? row.tradeId with
  | none => rfl
  | some old =>
    -- a row that is overwritten keeps its key, and that is the trade's
    have hkey : old.tradeId = row.tradeId := Table.key_of_get? hold
    have hsame : old.val.tradeId = row.val.tradeId := hkey
    have hover : row.overwrite old = row := by
      apply Subtype.ext
      show { row.val with tradeId := old.val.tradeId } = row.val
      rw [hsame]
    rw [Option.map_some, Option.getD_some, hover]

/-- The reservation of an approval is in the ledger when the consult is over. -/
theorem reservation_of_allowed {newYorkDate : ℚ → ℤ} {settings : RiskSettings}
    {consult : SizedEntryConsult} {book : EntryBook} (hreserve : consult.entry.reserve = true)
    (h : (reserveSizedEntry newYorkDate settings consult.entry (consult.reads book.ledger)
      book.manager).1.decision.allowed) :
    (consultSizedEntry newYorkDate settings consult book).2.ledger.reservations.get?
      consult.entry.tradeId = some (consult.entry.newReservation consult.now) := by
  have hnow : (consult.reads book.ledger).now = consult.now := rfl
  simp only [consultSizedEntry, EntryLedger.settle, reserveSizedEntry_reserves h hreserve, hnow,
    Option.elim_some]
  exact get?_writtenReservation _ (consult.entry.newReservation consult.now)

/-- In every run from every book, each approval keeps the realized, carried and proposed loss within
the daily halt budget and the carried trades of its cluster below the cap, and leaves the reservation it
was asked for in the ledger; and a trade is carried from its intent on, until a write closes it. -/
theorem sized_entry_caps_hold (newYorkDate : ℚ → ℤ) {settings : RiskSettings}
    (hon : settings.prospectiveLossEnabled) (hA : settings.railAEnabled) (book : EntryBook)
    (calls : List LedgerCall) :
    (∀ e ∈ trace (ledgerStep newYorkDate settings) book calls, ∀ consult,
      e.call = .reserveSizedEntry consult → (∃ decision ∈ e.result, decision.allowed) →
        WithinCaps newYorkDate settings e.before.ledger consult ∧
          (consult.entry.reserve = true →
            e.after.ledger.reservations.get? consult.entry.tradeId =
              some (consult.entry.newReservation consult.now))) ∧
    ∀ tradeId, book.ledger.OpenLive tradeId → (∀ call ∈ calls, call.KeepsOpen tradeId) →
      ∀ e ∈ trace (ledgerStep newYorkDate settings) book calls, ∀ now,
        tradeId ∈ e.before.ledger.carried now := by
  constructor
  · intro e he consult hcall hallowed
    have hev := (eq_event_of_mem_trace (I := fun _ => True) (fun _ _ _ => trivial) trivial he).2
    rw [hev] at hallowed
    obtain ⟨decision, hresult, hallowed⟩ := hallowed
    have hafter : e.after.ledger =
        (consultSizedEntry newYorkDate settings consult e.before).2.ledger := by
      rw [hev]
      simp only [event, hcall, ledgerStep]
    simp only [event, hcall, ledgerStep, consultSizedEntry] at hresult
    split_ifs at hresult
    · cases hresult
    · obtain rfl := Option.some.inj hresult
      refine ⟨withinCaps_of_allowed hon hA hallowed, fun hreserve => ?_⟩
      rw [hafter]
      exact reservation_of_allowed hreserve hallowed
  · intro tradeId hopen hcalls e he now
    have hstep (call : LedgerCall) (s : EntryBook) (hcall : call.KeepsOpen tradeId)
        (hs : s.ledger.OpenLive tradeId) :
        (ledgerStep newYorkDate settings call s).2.ledger.OpenLive tradeId :=
      openLive_ledgerStep hcall hs
    exact carried_of_openLive (invariant_of_mem_trace hstep hopen hcalls he).1 now

namespace TwoEntries

/-- A live trade with 50 dollars to its stop. -/
def openTrade : TradeRecord where
  tradeId := "open"
  deploymentId := "d"
  symbol := "AMD"
  quantity := 1
  entryPrice := some 1
  status := "open_protected"
  entryOrderId := some "open"
  stopPrice := some (1 / 2)

def book : EntryBook where
  ledger := ⟨Table.empty.insert openTrade rfl, Table.empty⟩

/-- A second entry of another cluster, with 100 dollars to its stop, on a halt budget of 200. -/
def consult : SizedEntryConsult where
  entry := ⟨"new", "d", "SPY", 1, 2, some (1 / 2), true⟩
  now := 0
  budgetDay := .ok (some ⟨0, none, 10000, 10000, 0⟩)
  recentTrades := .ok []
  partialFills := .ok fun _ => []

end TwoEntries

open TwoEntries in
theorem sized_entry_caps_hold_two_entries :
    WithinCaps (fun _ => 0) IdleBook.defaults book.ledger consult ∧
      (finish (ledgerStep (fun _ => 0) IdleBook.defaults) book
        [.reserveSizedEntry consult]).ledger.reservations.get? "new" =
          some (consult.entry.newReservation 0) := by
  have hcaps := (@sized_entry_caps_hold (fun _ => 0) IdleBook.defaults rfl rfl book
    [.reserveSizedEntry consult]).1 _ List.mem_cons_self consult rfl
  obtain ⟨hwithin, hreserved⟩ := hcaps ⟨⟨true, .approved, some "sized-entry"⟩, by decide +kernel, rfl⟩
  exact ⟨hwithin, hreserved rfl⟩

end Bhiksha
