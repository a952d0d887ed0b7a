import Mathlib.Algebra.BigOperators.Group.Finset.Basic
import Mathlib.Algebra.Group.Subgroup.Finite
import Mathlib.Algebra.Order.Field.Rat
import Mathlib.Data.List.MinMax
import Mathlib.Tactic.Linarith
import Bhiksha.Library.Coalesce
import Bhiksha.Risk.RealizedPnl

/-! Every confirmed partial leg of a day counts once in the realized P&L of that day, but for the legs
that fall out with their trade or behind a duplicate of another day. -/

namespace Bhiksha

section Legs

/-- The confirmed legs of a trade's rows, each under its identity. -/
def legEntries (entryPrice : ℚ) (partials : List PartialFillRecord) :
    List (LegIdentity × PartialLeg) :=
  partials.zipIdx.filterMap fun row =>
    (row.1.leg? entryPrice).map fun leg => (row.1.identity row.2, leg)

/-- The lowest leg of an identity, the first one where several are. -/
def lowestObservation (entries : List (LegIdentity × PartialLeg)) (identity : LegIdentity) :
    Option (LegIdentity × PartialLeg) :=
  (entries.filter fun entry => entry.1 = identity).argmin fun entry => entry.2.pnl

/-- The entry that is kept under each identity. -/
def keptEntries (entries : List (LegIdentity × PartialLeg)) : List (LegIdentity × PartialLeg) :=
  entries.foldl (fun selected entry => keepWorstLeg entry.1 entry.2 selected) []

theorem confirmedPartialLegs_eq {trade : TradeRecord} {entryPrice : ℚ}
    (h : trade.entryPrice = some entryPrice) (partials : List PartialFillRecord) :
    confirmedPartialLegs trade partials =
      (keptEntries (legEntries entryPrice partials)).map
        fun entry => (entry.2.fill, entry.2.quantity) := by
  unfold confirmedPartialLegs keptEntries legEntries
  rw [h, List.foldl_filterMap]
  dsimp only
  congr 2
  funext selected row
  cases row.1.leg? entryPrice <;> rfl

variable {identity : LegIdentity} {leg : PartialLeg} {entry : LegIdentity × PartialLeg}
  {selected entries : List (LegIdentity × PartialLeg)}

theorem mem_keys_keepWorstLeg {key : LegIdentity} :
    key ∈ (keepWorstLeg identity leg selected).map Prod.fst ↔
      key = identity ∨ key ∈ selected.map Prod.fst := by
  induction selected with
  | nil => simp [keepWorstLeg]
  | cons first rest ih =>
    unfold keepWorstLeg
    split
    · next hsame => simp [hsame]
    · rw [List.map_cons, List.mem_cons, ih, List.map_cons, List.mem_cons]
      tauto

theorem keepWorstLeg_nodup (h : (selected.map Prod.fst).Nodup) :
    ((keepWorstLeg identity leg selected).map Prod.fst).Nodup := by
  induction selected with
  | nil => simp [keepWorstLeg]
  | cons first rest ih =>
    rw [List.map_cons, List.nodup_cons] at h
    unfold keepWorstLeg
    split
    · exact List.nodup_cons.mpr h
    · next hother =>
      rw [List.map_cons, List.nodup_cons]
      refine ⟨fun hmem => ?_, ih h.2⟩
      rcases mem_keys_keepWorstLeg.mp hmem with heq | hrest
      · exact hother heq
      · exact h.1 hrest

theorem find?_keepWorstLeg (key : LegIdentity) :
    (keepWorstLeg identity leg selected).find? (fun e => e.1 = key) =
      if identity = key then
        some (identity, ((selected.find? fun e => e.1 = key).map Prod.snd).elim leg fun current =>
          if leg.pnl < current.pnl then leg else current)
      else selected.find? fun e => e.1 = key := by
  induction selected with
  | nil =>
    unfold keepWorstLeg
    by_cases hkey : identity = key
    · simp [hkey]
    · simp [hkey]
  | cons first rest ih =>
    obtain ⟨other, current⟩ := first
    unfold keepWorstLeg
    by_cases hsame : other = identity
    · rw [if_pos hsame]
      by_cases hkey : identity = key
      · simp [hsame, hkey]
      · simp [hsame, hkey]
    · rw [if_neg hsame]
      by_cases hfirst : other = key
      · have hne : identity ≠ key := fun hkey => hsame (hfirst.trans hkey.symm)
        simp [hfirst, hne]
      · rw [List.find?_cons_of_neg (by simpa using hfirst), ih,
          List.find?_cons_of_neg (by simpa using hfirst)]

theorem nodup_keptEntries (entries : List (LegIdentity × PartialLeg)) :
    ((keptEntries entries).map Prod.fst).Nodup := by
  induction entries using List.reverseRecOn with
  | nil => exact List.nodup_nil
  | append_singleton entries entry ih =>
    unfold keptEntries at ih ⊢
    rw [List.foldl_append]
    exact keepWorstLeg_nodup ih

/-- The fold keeps the lowest observation of every identity. -/
theorem find?_keptEntries (entries : List (LegIdentity × PartialLeg)) (key : LegIdentity) :
    (keptEntries entries).find? (fun e => e.1 = key) = lowestObservation entries key := by
  induction entries using List.reverseRecOn with
  | nil => rfl
  | append_singleton entries entry ih =>
    have hfold : keptEntries (entries ++ [entry]) =
        keepWorstLeg entry.1 entry.2 (keptEntries entries) := by
      unfold keptEntries
      rw [List.foldl_append]
      rfl
    rw [hfold, find?_keepWorstLeg, ih]
    unfold lowestObservation
    rw [List.filter_append]
    by_cases hkey : entry.1 = key
    · rw [if_pos hkey, List.filter_singleton, decide_eq_true hkey, cond_true, List.argmin_concat]
      cases hlowest : (entries.filter fun e => e.1 = key).argmin fun e => e.2.pnl with
      | none => rfl
      | some current =>
        -- both have the identity, so the smaller of the legs decides the entry
        have hcurrent : current.1 = key := by
          have hmem := (List.mem_filter.mp (List.argmin_mem hlowest)).2
          exact of_decide_eq_true hmem
        dsimp only [Option.map_some, Option.elim_some]
        split
        · rfl
        · exact congrArg some (Prod.ext (hkey.trans hcurrent.symm) rfl)
    · rw [if_neg hkey, List.filter_singleton, decide_eq_false hkey, cond_false, List.append_nil]

theorem mem_keptEntries_iff :
    entry ∈ keptEntries entries ↔ lowestObservation entries entry.1 = some entry := by
  rw [← find?_keptEntries]
  constructor
  · exact Library.find?_key (nodup_keptEntries entries)
  · exact List.mem_of_find?_eq_some

theorem mem_of_lowestObservation {key : LegIdentity} (h : lowestObservation entries key = some entry) :
    entry ∈ entries ∧ entry.1 = key := by
  obtain ⟨hmem, hkey⟩ := List.mem_filter.mp (List.argmin_mem h)
  exact ⟨hmem, of_decide_eq_true hkey⟩

theorem lowestObservation_le {other : LegIdentity × PartialLeg}
    (h : lowestObservation entries entry.1 = some entry) (hother : other ∈ entries)
    (hkey : other.1 = entry.1) : entry.2.pnl ≤ other.2.pnl := by
  apply List.le_of_mem_argmin _ h
  exact List.mem_filter.mpr ⟨hother, decide_eq_true hkey⟩

end Legs

section Today

variable (newYorkDate : ℚ → ℤ) (tradeDate : ℤ)

/-- The confirmed legs of the day, each under its identity. -/
def todaysLegs (entryPrice : ℚ) (partials : List PartialFillRecord) :
    List (LegIdentity × PartialLeg) :=
  (legEntries entryPrice partials).filter fun entry =>
    filledToday newYorkDate tradeDate entry.2.fill.filledAt

/-- The P&L, in cents, of the lowest leg under an identity. -/
def lowestPnl (legs : List (LegIdentity × PartialLeg)) (identity : LegIdentity) : ℚ :=
  Python.roundTo 2 <|
    (((legs.filter fun entry => entry.1 = identity).map fun entry => entry.2.pnl).min?).getD 0

/-- The broker orders, and the rows without one, that filled a leg of the trade today. -/
def todaysOrders (trade : TradeRecord) (partials : List PartialFillRecord) : Finset LegIdentity :=
  trade.entryPrice.elim ∅ fun entryPrice =>
    ((todaysLegs newYorkDate tradeDate entryPrice partials).map Prod.fst).toFinset

/-- The P&L of one leg of an order: the lowest of its legs of today. -/
def orderPnl (trade : TradeRecord) (partials : List PartialFillRecord) (identity : LegIdentity) : ℚ :=
  trade.entryPrice.elim 0 fun entryPrice =>
    lowestPnl (todaysLegs newYorkDate tradeDate entryPrice partials) identity

def finalLegPnl (trade : TradeRecord) : ℚ :=
  if isClosedTrade trade && filledToday newYorkDate tradeDate trade.exitFilledAt then
    (realizedPnlUsd trade).getD 0
  else 0

/-- What the day realized: the final legs that filled today and one leg for every order of today. -/
def expectedPnlToday (trades : List TradeRecord)
    (partialsByTrade : String → List PartialFillRecord) : ℚ :=
  ((trades.filter isLiveTrade).map fun trade =>
    finalLegPnl newYorkDate tradeDate trade +
      ∑ identity ∈ todaysOrders newYorkDate tradeDate trade (partialsByTrade trade.tradeId),
        orderPnl newYorkDate tradeDate trade (partialsByTrade trade.tradeId) identity).sum

/-- The orders of today of which the lowest observation of any day is one of today. -/
def countedOrders (trade : TradeRecord) (partials : List PartialFillRecord) : Finset LegIdentity :=
  (todaysOrders newYorkDate tradeDate trade partials).filter fun identity =>
    trade.entryPrice.any fun entryPrice =>
      (lowestObservation (legEntries entryPrice partials) identity).any fun entry =>
        filledToday newYorkDate tradeDate entry.2.fill.filledAt

/-- The orders of today that fall out: all those of a trade that was closed without a fill of today,
else those of which the lowest observation is of another day. -/
def hiddenOrders (trade : TradeRecord) (partials : List PartialFillRecord) : Finset LegIdentity :=
  if isRelevantToday newYorkDate tradeDate trade then
    todaysOrders newYorkDate tradeDate trade partials \
      countedOrders newYorkDate tradeDate trade partials
  else todaysOrders newYorkDate tradeDate trade partials

def hiddenPnlToday (trades : List TradeRecord)
    (partialsByTrade : String → List PartialFillRecord) : ℚ :=
  ((trades.filter isLiveTrade).map fun trade =>
    ∑ identity ∈ hiddenOrders newYorkDate tradeDate trade (partialsByTrade trade.tradeId),
      orderPnl newYorkDate tradeDate trade (partialsByTrade trade.tradeId) identity).sum

variable {newYorkDate tradeDate} {trade : TradeRecord} {partials : List PartialFillRecord}
  {entryPrice : ℚ} {entry : LegIdentity × PartialLeg}

theorem lowestPnl_of_worst {legs : List (LegIdentity × PartialLeg)} (hmem : entry ∈ legs)
    (hworst : ∀ other ∈ legs, other.1 = entry.1 → entry.2.pnl ≤ other.2.pnl) :
    lowestPnl legs entry.1 = Python.roundTo 2 entry.2.pnl := by
  unfold lowestPnl
  have hmin : ((legs.filter fun e => e.1 = entry.1).map fun e => e.2.pnl).min? =
      some entry.2.pnl := by
    rw [List.min?_eq_some_iff]
    constructor
    · exact List.mem_map.mpr ⟨entry, List.mem_filter.mpr ⟨hmem, by simp⟩, rfl⟩
    · intro pnl hpnl
      obtain ⟨other, hother, rfl⟩ := List.mem_map.mp hpnl
      rw [List.mem_filter, decide_eq_true_eq] at hother
      exact hworst other hother.1 hother.2
  rw [hmin, Option.getD_some]

theorem exists_row_of_mem_legEntries (h : entry ∈ legEntries entryPrice partials) :
    ∃ fill ∈ partials, fill.leg? entryPrice = some entry.2 := by
  obtain ⟨row, hrow, hentry⟩ := List.mem_filterMap.mp h
  obtain ⟨leg, hleg, rfl⟩ := Option.map_eq_some_iff.mp hentry
  exact ⟨row.1, List.fst_mem_of_mem_zipIdx hrow, hleg⟩

/-- A confirmed leg is priced by its own row. -/
theorem partialRealizedPnlUsd_of_leg {fill : PartialFillRecord} {leg : PartialLeg}
    (hentry : trade.entryPrice = some entryPrice) (hleg : fill.leg? entryPrice = some leg) :
    partialRealizedPnlUsd trade leg.fill leg.quantity = some (Python.roundTo 2 leg.pnl) := by
  unfold PartialFillRecord.leg? at hleg
  cases hprice : fill.fillPrice with
  | none => simp [hprice] at hleg
  | some fillPrice =>
    simp only [hprice, Option.bind_eq_bind, Option.bind_some] at hleg
    split at hleg
    · cases hleg
    next hconfirmed =>
    obtain rfl := Option.some.inj hleg
    simp [partialRealizedPnlUsd, hentry, hprice, if_neg hconfirmed]

/-- The kept entries whose observation is one of today. -/
def keptToday (newYorkDate : ℚ → ℤ) (tradeDate : ℤ) (entryPrice : ℚ)
    (partials : List PartialFillRecord) : List (LegIdentity × PartialLeg) :=
  (keptEntries (legEntries entryPrice partials)).filter fun entry =>
    filledToday newYorkDate tradeDate entry.2.fill.filledAt

theorem mem_todaysLegs_of_keptToday (h : entry ∈ keptToday newYorkDate tradeDate entryPrice partials) :
    entry ∈ todaysLegs newYorkDate tradeDate entryPrice partials := by
  obtain ⟨hkept, htoday⟩ := List.mem_filter.mp h
  have hmem := (mem_of_lowestObservation (mem_keptEntries_iff.mp hkept)).1
  exact List.mem_filter.mpr ⟨hmem, htoday⟩

theorem countedOrders_subset :
    countedOrders newYorkDate tradeDate trade partials ⊆
      todaysOrders newYorkDate tradeDate trade partials := Finset.filter_subset _ _

/-- The orders that count are those of the kept entries of today. -/
theorem countedOrders_eq (hprice : trade.entryPrice = some entryPrice) :
    countedOrders newYorkDate tradeDate trade partials =
      ((keptToday newYorkDate tradeDate entryPrice partials).map Prod.fst).toFinset := by
  ext identity
  unfold countedOrders todaysOrders
  rw [hprice, Finset.mem_filter, Option.elim_some, Option.any_some, Option.any_eq_true,
    List.mem_toFinset, List.mem_toFinset]
  constructor
  · rintro ⟨-, entry, hlowest, htoday⟩
    obtain ⟨-, rfl⟩ := mem_of_lowestObservation hlowest
    apply List.mem_map_of_mem
    exact List.mem_filter.mpr ⟨mem_keptEntries_iff.mpr hlowest, htoday⟩
  · intro hidentity
    obtain ⟨entry, hentry, rfl⟩ := List.mem_map.mp hidentity
    obtain ⟨hkept, htoday⟩ := List.mem_filter.mp hentry
    refine ⟨List.mem_map_of_mem (mem_todaysLegs_of_keptToday hentry), entry, ?_, htoday⟩
    exact mem_keptEntries_iff.mp hkept

/-- What the code books for a kept entry of today is what the day is to book for its order. -/
theorem booked_eq_orderPnl (hprice : trade.entryPrice = some entryPrice)
    (h : entry ∈ keptToday newYorkDate tradeDate entryPrice partials) :
    (partialRealizedPnlUsd trade entry.2.fill entry.2.quantity).getD 0 =
      orderPnl newYorkDate tradeDate trade partials entry.1 := by
  have hlow := mem_keptEntries_iff.mp (List.mem_filter.mp h).1
  obtain ⟨fill, -, hleg⟩ := exists_row_of_mem_legEntries (mem_of_lowestObservation hlow).1
  have hlowest : lowestPnl (todaysLegs newYorkDate tradeDate entryPrice partials) entry.1 =
      Python.roundTo 2 entry.2.pnl :=
    lowestPnl_of_worst (mem_todaysLegs_of_keptToday h) fun other hother hkey =>
      lowestObservation_le hlow (List.mem_filter.mp hother).1 hkey
  rw [partialRealizedPnlUsd_of_leg hprice hleg, Option.getD_some, orderPnl, hprice]
  exact hlowest.symm

theorem tradePnlToday_eq :
    tradePnlToday newYorkDate tradeDate trade partials = finalLegPnl newYorkDate tradeDate trade +
      ∑ identity ∈ countedOrders newYorkDate tradeDate trade partials,
        orderPnl newYorkDate tradeDate trade partials identity := by
  unfold tradePnlToday
  refine congrArg (finalLegPnl newYorkDate tradeDate trade + ·) ?_
  cases hprice : trade.entryPrice with
  | none => simp [confirmedPartialLegs, countedOrders, hprice]
  | some entryPrice =>
    have hnodup : ((keptToday newYorkDate tradeDate entryPrice partials).map Prod.fst).Nodup :=
      (nodup_keptEntries _).sublist (List.filter_sublist.map _)
    rw [countedOrders_eq hprice, List.sum_toFinset _ hnodup, confirmedPartialLegs_eq hprice, List.filter_map,
      List.map_map, List.map_map]
    congr 1
    exact List.map_congr_left fun entry hentry => booked_eq_orderPnl hprice hentry

/-- A live trade books what it is to book, less the orders that fall out. -/
theorem booked_of_live (hlive : isLiveTrade trade) (partials : List PartialFillRecord) :
    (if isRelevantToday newYorkDate tradeDate trade then
        tradePnlToday newYorkDate tradeDate trade partials else 0) =
      finalLegPnl newYorkDate tradeDate trade +
          ∑ identity ∈ todaysOrders newYorkDate tradeDate trade partials,
            orderPnl newYorkDate tradeDate trade partials identity -
        ∑ identity ∈ hiddenOrders newYorkDate tradeDate trade partials,
          orderPnl newYorkDate tradeDate trade partials identity := by
  unfold hiddenOrders
  by_cases hrelevant : isRelevantToday newYorkDate tradeDate trade
  · -- the trade books its counted orders, which are the others of today
    rw [if_pos hrelevant, if_pos hrelevant, tradePnlToday_eq,
      Finset.sum_sdiff_eq_sub countedOrders_subset]
    ring
  · -- the trade is closed, and its final leg was not filled today
    have hclosed : isClosedTrade trade ∧ filledToday newYorkDate tradeDate trade.exitFilledAt = false := by
      simpa [isRelevantToday, hlive] using hrelevant
    have hfinal : finalLegPnl newYorkDate tradeDate trade = 0 := by simp [finalLegPnl, hclosed]
    rw [if_neg hrelevant, if_neg hrelevant, hfinal]
    ring

theorem isLiveTrade_of_isRelevantToday (h : isRelevantToday newYorkDate tradeDate trade) :
    isLiveTrade trade := by
  unfold isRelevantToday at h
  rw [Bool.and_eq_true] at h
  exact h.1

theorem sum_filter_eq_sum_ite {α : Type} {p q : α → Bool} (hpq : ∀ a, p a → q a) (f : α → ℚ)
    (xs : List α) : ((xs.filter p).map f).sum =
      ((xs.filter q).map fun a => if p a then f a else 0).sum := by
  induction xs with
  | nil => rfl
  | cons x xs ih =>
    by_cases hq : q x
    · rw [List.filter_cons_of_pos hq, List.map_cons, List.sum_cons, ← ih]
      by_cases hp : p x
      · rw [List.filter_cons_of_pos hp, List.map_cons, List.sum_cons, if_pos hp]
      · rw [List.filter_cons_of_neg hp, if_neg hp, zero_add]
    · rw [List.filter_cons_of_neg hq, List.filter_cons_of_neg fun hp => hq (hpq x hp), ih]

theorem finalLegPnl_mem : finalLegPnl newYorkDate tradeDate trade ∈ Python.decimalGrid 2 := by
  unfold finalLegPnl
  split
  · cases hpnl : realizedPnlUsd trade with
    | none => exact zero_mem _
    | some pnl =>
      unfold realizedPnlUsd at hpnl
      obtain ⟨_, -, hpnl⟩ := Option.bind_eq_some_iff.mp hpnl
      obtain ⟨_, -, hpnl⟩ := Option.bind_eq_some_iff.mp hpnl
      dsimp only at hpnl
      split at hpnl
      · cases hpnl
      · obtain rfl := Option.some.inj hpnl
        exact Python.roundTo_mem 2 _
  · exact zero_mem _

theorem orderPnl_mem (identity : LegIdentity) :
    orderPnl newYorkDate tradeDate trade partials identity ∈ Python.decimalGrid 2 := by
  unfold orderPnl
  cases trade.entryPrice with
  | none => exact zero_mem _
  | some entryPrice => exact Python.roundTo_mem 2 _

theorem realizedLivePnlToday_eq (trades : List TradeRecord)
    (partialsByTrade : String → List PartialFillRecord) :
    realizedLivePnlToday newYorkDate tradeDate trades partialsByTrade =
      expectedPnlToday newYorkDate tradeDate trades partialsByTrade -
        hiddenPnlToday newYorkDate tradeDate trades partialsByTrade := by
  unfold realizedLivePnlToday expectedPnlToday hiddenPnlToday
  rw [Python.roundTo_of_mem, sum_filter_eq_sum_ite fun trade => isLiveTrade_of_isRelevantToday,
    eq_sub_iff_add_eq, ← List.sum_map_add]
  · congr 1
    refine List.map_congr_left fun trade htrade => ?_
    rw [booked_of_live (List.mem_filter.mp htrade).2, sub_add_cancel]
  · refine AddSubgroup.list_sum_mem _ fun pnl hpnl => ?_
    obtain ⟨trade, -, rfl⟩ := List.mem_map.mp hpnl
    rw [tradePnlToday_eq]
    exact add_mem finalLegPnl_mem (sum_mem fun identity _ => orderPnl_mem identity)

end Today

theorem rail_a_counts_every_leg_once_iff (newYorkDate : ℚ → ℤ) (tradeDate : ℤ)
    (trades : List TradeRecord) (partialsByTrade : String → List PartialFillRecord) :
    realizedLivePnlToday newYorkDate tradeDate trades partialsByTrade =
        expectedPnlToday newYorkDate tradeDate trades partialsByTrade ↔
      hiddenPnlToday newYorkDate tradeDate trades partialsByTrade = 0 := by
  rw [realizedLivePnlToday_eq, sub_eq_self]

namespace UndatedExit

/-- Closed without a fill time, after a banked leg of today. -/
def trade : TradeRecord where
  tradeId := "t1"
  deploymentId := "d1"
  symbol := "SPY"
  quantity := 2
  entryPrice := some 3
  status := "closed"

def bankedLeg : PartialFillRecord where
  id := some 1
  tradeId := "t1"
  closedQuantity := 1
  orderId := some "o1"
  fillPrice := some 2
  filledAt := some 0

end UndatedExit

/-- A hundred dollars lost today on a confirmed leg do not count. -/
theorem rail_a_hides_leg_of_undated_exit :
    realizedLivePnlToday (fun _ => 0) 0 [UndatedExit.trade] (fun _ => [UndatedExit.bankedLeg]) ≠
      expectedPnlToday (fun _ => 0) 0 [UndatedExit.trade] (fun _ => [UndatedExit.bankedLeg]) := by
  decide +kernel

end Bhiksha
