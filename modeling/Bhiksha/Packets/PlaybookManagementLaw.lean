import Bhiksha.Packets.PlaybookLiveManagement
import Bhiksha.Library.Stateful
import Bhiksha.Library.Trace

/-! The manager never has more of a position up for sale than there is, however often it is called and
wherever a call dies: every close that it cannot account for adds at most one position. -/

namespace Bhiksha.Playbook

open Library TradeStore Live Std.Do

set_option mvcgen.warning false

section Stake

variable {σ : Type}

/-- What is executed or can still execute under the identities together. -/
def atStake (w : World σ) (ids : List String) : ℕ := (ids.map w.book.exposure).sum

/-- The process has asked for nothing under the identity. -/
def NeverAsked (w : World σ) (orderId : String) : Prop := ∀ quantity, .asked orderId quantity ∉ w.log

/-- Nothing was sent under the identity. -/
def Unsent (w : World σ) (orderId : String) : Prop := w.book.Unasked orderId ∧ NeverAsked w orderId

/-- A dead order whose filled quantity the venue leaves out had nothing executed: null is how it writes
a fill of zero. -/
def ReportsFills (w : World σ) : Prop :=
  ∀ p o, w.reports p o = true → p.isDead = true → p.filledQuantity = .missing → o.filled = 0

variable {w : World σ} {orderId other : String} {ids : List String} {n : ℕ}

theorem atStake_cons (w : World σ) (orderId : String) (ids : List String) :
    atStake w (orderId :: ids) = w.book.exposure orderId + atStake w ids := by
  unfold atStake
  rw [List.map_cons, List.sum_cons]

theorem atStake_append (w : World σ) (ids others : List String) :
    atStake w (ids ++ others) = atStake w ids + atStake w others := by
  unfold atStake
  rw [List.map_append, List.sum_append]

theorem atStake_moves_le (w : World σ) (ms : List (VenueMove String)) (beats : List Beat)
    (ids : List String) : atStake { w with book := w.book.moves ms, beats := beats } ids ≤ atStake w ids := by
  induction ids with
  | nil => exact le_refl _
  | cons orderId rest ih =>
    rw [atStake_cons, atStake_cons]
    exact Nat.add_le_add (OrderBook.exposure_moves_le ms w.book orderId) ih

theorem atStake_ask_of_notMem (h : orderId ∉ ids) (quantity : ℤ) (verdict : Verdict) :
    atStake (w.ask orderId quantity verdict) ids = atStake w ids := by
  induction ids with
  | nil => rfl
  | cons first rest ih =>
    rw [List.mem_cons, not_or] at h
    rw [atStake_cons, atStake_cons, ih h.2]
    congr 1
    exact OrderBook.exposure_request_of_ne _ _ fun heq => h.1 heq.symm

theorem lasting_atStake (ids : List String) (n : ℕ) : Lasting fun w : World σ => atStake w ids ≤ n where
  moves w ms beats h := (atStake_moves_le w ms beats ids).trans h
  read _ _ _ _ h := h

theorem lasting_neverAsked (orderId : String) : Lasting fun w : World σ => NeverAsked w orderId where
  moves _ _ _ h := h
  read w other readback _ h := by
    intro quantity hmem
    rcases List.mem_cons.mp hmem with hcontra | hmem
    · cases hcontra
    · exact h quantity hmem

theorem neverAsked_ask (h : NeverAsked w other) (hne : other ≠ orderId) (quantity : ℤ)
    (verdict : Verdict) : NeverAsked (w.ask orderId quantity verdict) other := by
  intro q hmem
  rcases List.mem_cons.mp hmem with heq | hmem
  · exact hne (DeskEvent.asked.inj heq).1
  · exact h q hmem

theorem lasting_unsent (orderId : String) : Lasting fun w : World σ => Unsent w orderId where
  moves _ ms _ h := ⟨OrderBook.unasked_moves ms h.1, h.2⟩
  read w other readback ht h := ⟨h.1, (lasting_neverAsked orderId).read w other readback ht h.2⟩

theorem unsent_ask (h : Unsent w other) (hne : other ≠ orderId) (quantity : ℤ) (verdict : Verdict) :
    Unsent (w.ask orderId quantity verdict) other :=
  ⟨OrderBook.unasked_request_of_ne _ _ h.1 hne, neverAsked_ask h.2 hne quantity verdict⟩

variable {I : World σ → Prop}

/-- An order that is confirmed dead and unfilled has nothing at stake. -/
theorem exposure_of_confirmed {p : OrderPayload} (hreports : ReportsFills w)
    (ht : w.Tells orderId (.payload p)) (hp : p.confirmedDeadUnfilled = true) :
    w.book.exposure orderId = 0 := by
  obtain ⟨o, ho, ⟨hdead, -, -⟩, hreported⟩ := ht
  unfold OrderPayload.confirmedDeadUnfilled at hp
  simp only [Bool.and_eq_true, Bool.or_eq_true, decide_eq_true_eq] at hp
  obtain ⟨halive, -, hexact⟩ := hdead hp.1
  have hnone : o.filled = 0 := by
    rcases hp.2 with hmissing | hzero
    · exact hreports p o hreported hp.1 hmissing
    · have hfilled : (0 : ℚ) = o.filled := by
        apply hexact 0
        rw [hzero]
        rfl
      exact_mod_cast hfilled.symm
  rw [OrderBook.exposure_of_order (Option.mem_def.mp ho)]
  simp [VenueOrder.exposure, halive, hnone]

theorem cancelOrder_stake_spec (hI : Lasting I) (hreports : ∀ w, I w → ReportsFills w)
    (orderId : String) :
    ⦃fun w => ⌜I w⌝⦄ (cancelOrder orderId : Desk σ Bool)
    ⦃post⟨fun canceled w => ⌜I w ∧ (canceled = true → w.book.exposure orderId ≤ 0)⌝,
      fun _ w => ⌜I w⌝⟩⦄ := by
  have hbeat := nextBeat_spec hI.toSteady
  have hread := getOrderStatus_spec hI orderId
  mvcgen [cancelOrder, hbeat, hread]
  · rename_i p world hread
    obtain ⟨hworld, ht, hlog⟩ := hread
    exact ⟨hworld, fun hdead => (exposure_of_confirmed (hreports _ hworld) ht hdead).le⟩
  · rename_i hread
    refine ⟨hread.1, fun hcontra => ?_⟩
    cases hcontra

/-- Where no block is left, every protective order is out of the way. -/
theorem cancelExitOrders_spec {V : Type} (ctx : PlaybookContext V) {I : World PlaybookStore → Prop}
    (hI : Lasting I) (hreports : ∀ w, I w → ReportsFills w) (ids : List String) :
    ⦃fun w => ⌜I w⌝⦄ cancelExitOrders ctx ids
    ⦃post⟨fun result w => ⌜I w ∧ (result.2 = [] → atStake w ids ≤ 0)⌝, fun _ w => ⌜I w⌝⟩⦄ := by
  induction ids generalizing I with
  | nil =>
    mvcgen [cancelExitOrders]
    exact ⟨‹I _›, Nat.le_refl 0⟩
  | cons orderId rest ih =>
    have hcancel := cancelOrder_stake_spec hI hreports orderId
    -- what the first cancel has proved lasts through the others
    have hrest (canceled : Bool) := ih
      (I := fun w => I w ∧ (canceled = true → atStake w [orderId] ≤ 0))
      (hI.and (lasting_imp (lasting_atStake [orderId] 0))) (fun w h => hreports w h.1)
    mvcgen [cancelExitOrders, hcancel, hrest]
    · rename_i canceled _ _ result hcanceled w h
      refine ⟨h.1.1, fun hnone => ?_⟩
      have hfirst := h.1.2 hcanceled
      have hothers := h.2 hnone
      rw [atStake_cons] at hfirst ⊢
      have hempty : atStake w [] = 0 := rfl
      omega
    · rename_i w h
      exact ⟨h.1.1, fun hcontra => absurd hcontra (List.cons_ne_nil _ _)⟩
    · intro h _
      exact h

end Stake

section Call

variable {V : Type} (ctx : PlaybookContext V)

/-- The trade's row says that its exit is out. -/
def ExitPending (tradeId : String) (w : World PlaybookStore) : Prop :=
  ∃ row, w.store.trades.get? tradeId = some row ∧ row.tradeId = tradeId ∧ row.status = "exit_pending"

/-- What a call has to reckon with: the trade, the protective orders of its row, the closes that earlier
calls sent and the most that they have at stake, and the closes that later calls will send. -/
structure Reckoning where
  tradeId : String
  row : TradeSession
  quantity : ℕ
  done : List String
  bound : ℕ
  close : String
  future : List String

namespace Reckoning

variable (s : Reckoning)

def protection : List String := exitOrderIds s.row

/-- The new identity is new, and the row is the trade's. -/
structure Apart : Prop where
  protection : s.close ∉ s.protection
  done : s.close ∉ s.done
  future : s.close ∉ s.future
  tradeId : s.row.tradeId = s.tradeId
  quantity : s.row.quantity.toNat = s.quantity

structure Frame (w : World PlaybookStore) : Prop where
  reports : ReportsFills w
  done : atStake w s.done ≤ s.bound
  close : atStake w [s.close] ≤ s.quantity
  future : ∀ orderId ∈ s.future, Unsent w orderId

/-- The venue knows nothing of the close. -/
structure Idle (w : World PlaybookStore) : Prop extends s.Frame w where
  stored : w.store.trades.get? s.tradeId = some s.row
  unasked : w.book.Unasked s.close
  covered : atStake w s.protection = 0 ∨ atStake w s.protection ≤ s.quantity ∧ atStake w s.done = 0

/-- The close may be out, with the protective orders out of its way, and the row does not know of it. -/
structure Loose (w : World PlaybookStore) : Prop extends s.Frame w where
  stored : w.store.trades.get? s.tradeId = some s.row
  cleared : atStake w s.protection ≤ 0

/-- The row knows of the close. -/
structure Booked (w : World PlaybookStore) : Prop extends s.Frame w where
  stored : ExitPending s.tradeId w
  cleared : atStake w s.protection ≤ 0

end Reckoning

variable {s : Reckoning} {w : World PlaybookStore}

open Reckoning

theorem lasting_frame (s : Reckoning) : Lasting s.Frame where
  moves w ms beats h :=
    ⟨h.reports, (lasting_atStake s.done s.bound).moves w ms beats h.done,
      (lasting_atStake [s.close] s.quantity).moves w ms beats h.close,
      fun orderId hid => (lasting_unsent orderId).moves w ms beats (h.future orderId hid)⟩
  read w other readback ht h :=
    ⟨h.reports, h.done, h.close,
      fun orderId hid => (lasting_unsent orderId).read w other readback ht (h.future orderId hid)⟩

theorem lasting_idle (s : Reckoning) : Lasting s.Idle where
  moves w ms beats h := by
    refine ⟨(lasting_frame s).moves w ms beats h.toFrame, h.stored,
      OrderBook.unasked_moves ms h.unasked, ?_⟩
    have hprotection := atStake_moves_le w ms beats s.protection
    have hdone := atStake_moves_le w ms beats s.done
    rcases h.covered with hzero | ⟨hle, hnone⟩
    · exact Or.inl (Nat.le_zero.mp (hzero ▸ hprotection))
    · exact Or.inr ⟨hprotection.trans hle, Nat.le_zero.mp (hnone ▸ hdone)⟩
  read w other readback ht h :=
    ⟨(lasting_frame s).read w other readback ht h.toFrame, h.stored, h.unasked, h.covered⟩

theorem steady_loose (s : Reckoning) : Steady s.Loose where
  moves w ms beats h := ⟨(lasting_frame s).moves w ms beats h.toFrame, h.stored,
    (lasting_atStake s.protection 0).moves w ms beats h.cleared⟩

theorem steady_booked (s : Reckoning) : Steady s.Booked where
  moves w ms beats h := ⟨(lasting_frame s).moves w ms beats h.toFrame, h.stored,
    (lasting_atStake s.protection 0).moves w ms beats h.cleared⟩

theorem Reckoning.Frame.ask (h : s.Frame w) (hapart : s.Apart) (hunasked : w.book.Unasked s.close)
    (verdict : Verdict) : s.Frame (w.ask s.close s.row.quantity verdict) where
  reports := h.reports
  done := by
    rw [atStake_ask_of_notMem hapart.done]
    exact h.done
  close := by
    have hasked := OrderBook.exposure_request_le s.row.quantity.toNat verdict w.book s.close
    rw [OrderBook.exposure_of_unasked hunasked, Nat.max_zero, hapart.quantity] at hasked
    have hnil : atStake (w.ask s.close s.row.quantity verdict) [] = 0 := rfl
    rw [atStake_cons, hnil, Nat.add_zero]
    show (w.book.request s.close s.row.quantity.toNat verdict).exposure s.close ≤ s.quantity
    rwa [hapart.quantity]
  future orderId hid := by
    have hne : orderId ≠ s.close := fun heq => hapart.future (heq ▸ hid)
    exact unsent_ask (h.future orderId hid) hne _ _

/-- The close goes out: nothing else moves, and no more than the position goes up for sale. -/
theorem Reckoning.Idle.ask (h : s.Idle w) (hapart : s.Apart) (hcleared : atStake w s.protection ≤ 0)
    (verdict : Verdict) : s.Loose (w.ask s.close s.row.quantity verdict) where
  toFrame := h.toFrame.ask hapart h.unasked verdict
  stored := h.stored
  cleared := by
    rw [atStake_ask_of_notMem hapart.protection]
    exact hcleared

/-- A close that is refused leaves the venue as it was. -/
theorem Reckoning.Idle.refused (h : s.Idle w) (hapart : s.Apart)
    (hcleared : atStake w s.protection ≤ 0) : s.Idle (w.ask s.close s.row.quantity .refused) := by
  have hbook : (w.ask s.close s.row.quantity .refused).book = w.book := by
    show w.book.request s.close s.row.quantity.toNat .refused = w.book
    simp [OrderBook.request, h.unasked.1]
  refine ⟨h.toFrame.ask hapart h.unasked .refused, h.stored, ?_, ?_⟩
  · rw [hbook]
    exact h.unasked
  · left
    rw [atStake_ask_of_notMem hapart.protection]
    exact Nat.le_zero.mp hcleared

theorem exitPending_upsert {record : TradeRecord V} {tradeId now : String} {row : TradeSession}
    {w : World PlaybookStore} (hstored : w.store.trades.get? tradeId = some row)
    (hid : record.tradeId = tradeId) (hstatus : record.status = "exit_pending") :
    ExitPending tradeId { w with store :=
      { w.store with trades := upsertTradeSync ctx.codec record now w.store.trades } } := by
  have hrow := get?_runTradeWrite ctx.codec (.upsertTrade record now) w.store.trades tradeId
  have hnamed : (TradeWrite.upsertTrade record now).tradeId = tradeId := hid
  rw [if_pos hnamed, hstored] at hrow
  refine ⟨_, hrow, Table.key_of_get? hrow, ?_⟩
  -- a record that is pending itself has its status taken over
  have hkeep : row.keepsExit (record.row ctx.codec now) = false := by
    simp [TradeSession.keepsExit, TradeRecord.row, hstatus]
  show (if row.keepsExit (record.row ctx.codec now) then row.status else record.status) = _
  rw [hkeep]
  exact hstatus

/-- The record of the close goes to the row of the trade. -/
theorem Reckoning.Loose.book {record : TradeRecord V} {now : String} (h : s.Loose w)
    (hid : record.tradeId = s.tradeId) (hstatus : record.status = "exit_pending") :
    s.Booked { w with store :=
      { w.store with trades := upsertTradeSync ctx.codec record now w.store.trades } } where
  reports := h.reports
  done := h.done
  close := h.close
  future := h.future
  stored := exitPending_upsert ctx h.stored hid hstatus
  cleared := h.cleared

theorem submit_close_spec (hapart : s.Apart) :
    ⦃fun w => ⌜s.Idle w ∧ atStake w s.protection ≤ 0⌝⦄
    (submit .sell s.close s.row.quantity : PlaybookM OrderResult)
    ⦃post⟨fun result w => ⌜s.Idle w ∧ result.orderId = none ∨ s.Loose w⌝, fun _ w => ⌜s.Idle w⌝⟩⦄ := by
  have hbeat := nextBeat_spec
    ((lasting_idle s).and (lasting_atStake s.protection 0)).toSteady
  mvcgen [submit, hbeat]
  · rename_i h _ _
    exact Or.inr (h.1.ask hapart h.2 _)
  · rename_i h _ hrefused
    have hask := h.1.refused hapart h.2
    rw [← hrefused] at hask
    exact Or.inl hask
  · rename_i h _ _
    exact Or.inr (h.1.ask hapart h.2 _)
  · intro h _
    exact h

theorem upsertTrade_spec {record : String → TradeRecord V} (hid : ∀ now, (record now).tradeId = s.tradeId)
    (hstatus : ∀ now, (record now).status = "exit_pending") :
    ⦃fun w => ⌜s.Loose w⌝⦄ upsertTrade ctx record
    ⦃post⟨fun _ w => ⌜s.Booked w⌝, fun _ w => ⌜s.Loose w⌝⟩⦄ := by
  have hbeat := nextBeat_spec (steady_loose s)
  mvcgen [upsertTrade, hbeat]
  rename_i beat w h _
  exact h.book ctx (hid beat.now) (hstatus beat.now)

variable (s) in
/-- What a call leaves: it has booked its close and says so, or the row is as it was. -/
def Reckoning.After (submitted : Bool) (w : World PlaybookStore) : Prop :=
  if submitted then s.Booked w else s.Idle w ∨ s.Loose w

variable (s) in
/-- What a call leaves that does not come to its end. -/
def Reckoning.Broken (w : World PlaybookStore) : Prop := s.Idle w ∨ s.Loose w ∨ s.Booked w

theorem closeOpenTrade_spec (hapart : s.Apart) {call : ManagementCall}
    (hclose : call.closeOrderId = s.close) :
    ⦃fun w => ⌜s.Idle w⌝⦄ closeOpenTrade ctx call s.row
    ⦃post⟨fun step w => ⌜s.After (step.status = .exitSubmitted) w⌝, fun _ w => ⌜s.Broken w⌝⟩⦄ := by
  have hcancel := cancelExitOrders_spec ctx (lasting_idle s) (fun w h => h.reports) (exitOrderIds s.row)
  have hsubmit := submit_close_spec hapart
  have hbook (exitOrderId : String) :
      ⦃fun w => ⌜s.Loose w⌝⦄
      upsertTrade ctx fun now => { tradeRecordFromRow ctx s.row with
        status := "exit_pending"
        exitOrderId := some exitOrderId
        exitSubmittedAt := some now
        exitMode := some .emergency }
      ⦃post⟨fun _ w => ⌜s.Booked w⌝, fun _ w => ⌜s.Loose w⌝⟩⦄ :=
    upsertTrade_spec ctx (fun _ => hapart.tradeId) (fun _ => rfl)
  have hevent := nextBeat_spec (steady_booked s)
  unfold closeOpenTrade
  rw [hclose]
  mvcgen [appendEvent, hcancel, hsubmit, hbook, hevent]
  · rename_i h
    exact Or.inl h.1
  · rename_i hnone _ h
    exact ⟨h.1, h.2 (not_not.mp hnone)⟩
  · rename_i h
    exact h.imp And.left id
  · rename_i hid _ h
    refine h.resolve_left fun hidle => ?_
    rw [hid] at hidle
    cases hidle.2
  · exact fun h => Or.inr (Or.inr h)
  · exact fun h => Or.inr (Or.inl h)
  · exact fun h => Or.inl h
  · exact fun h => Or.inl h

/-- Without a block the trade is there and open. -/
theorem manageable_of_lifecycleBlocks {payload : ActivePlan.Payload} {trade : Option TradeSession}
    (h : lifecycleBlocks ctx payload trade = .ok []) :
    ∃ row, trade = some row ∧ row.status ∈ manageableStatuses := by
  unfold lifecycleBlocks at h
  cases hquantity : ctx.reading.intOrZero payload "quantity" with
  | error e =>
    rw [hquantity] at h
    cases h
  | ok quantity =>
    rw [hquantity] at h
    have hnone := Except.ok.inj h
    simp only [List.append_eq_nil_iff] at hnone
    obtain ⟨⟨⟨-, htrade⟩, -⟩, -⟩ := hnone
    cases trade with
    | none => cases htrade
    | some row =>
      refine ⟨row, rfl, ?_⟩
      by_contra hclosed
      simp only [if_neg hclosed] at htrade
      cases htrade

theorem openTrade_eq {trades : TradeDb} {tradeId : String} {row found : TradeSession}
    (hstored : trades.get? tradeId = some row) (h : openTrade tradeId trades = some found) :
    found = row := by
  unfold openTrade at h
  have hid := List.find?_some h
  have hmem := (List.mem_filter.mp (List.mem_of_find?_eq_some h)).1
  have hfound := (Table.get?_eq_some_iff trades tradeId found).mpr ⟨hmem, of_decide_eq_true hid⟩
  exact Option.some.inj (hfound.symm.trans hstored)

section Manage

variable {tradeId : String} {row : TradeSession} {I : World PlaybookStore → Prop}

theorem resolveTrade_spec (hI : Steady I)
    (hstored : ∀ w, I w → w.store.trades.get? tradeId = some row) :
    ⦃fun w => ⌜I w⌝⦄ resolveTrade tradeId
    ⦃post⟨fun trade w => ⌜I w ∧ ∀ found, trade = some found → found = row⌝, fun _ w => ⌜I w⌝⟩⦄ := by
  have hbeat := nextBeat_spec hI
  mvcgen [resolveTrade, hbeat]
  · refine ⟨‹I _›, fun found hcontra => ?_⟩
    cases hcontra
  · rename_i w h
    exact ⟨h, fun found hfound => openTrade_eq (hstored w h) hfound⟩

/-- A call of the manager, given what the close of its open trade keeps. -/
theorem managementStep_spec {call : ManagementCall} {trade : Option TradeSession}
    {blocks triggers : List String} {P : Bool → World PlaybookStore → Prop}
    {E : World PlaybookStore → Prop} (hkeep : ∀ w, I w → P false w ∧ E w)
    (htrade : ∀ found, trade = some found → found = row)
    (hblocks : blocks = [] → ∃ found, trade = some found ∧ found.status ∈ manageableStatuses)
    (hclose : row.status ∈ manageableStatuses → ⦃fun w => ⌜I w⌝⦄ closeOpenTrade ctx call row
      ⦃post⟨fun step w => ⌜P (step.status = .exitSubmitted) w⌝, fun _ w => ⌜E w⌝⟩⦄) :
    ⦃fun w => ⌜I w⌝⦄ managementStep ctx call trade blocks triggers
    ⦃post⟨fun step w => ⌜P (step.status = .exitSubmitted) w⌝, fun _ w => ⌜E w⌝⟩⦄ := by
  have hstay (step : ManagementStep) (hstatus : step.status ≠ .exitSubmitted) :
      ⦃fun w => ⌜I w⌝⦄ (pure step : PlaybookM ManagementStep)
      ⦃post⟨fun step w => ⌜P (step.status = .exitSubmitted) w⌝, fun _ w => ⌜E w⌝⟩⦄ := by
    mvcgen
    rw [decide_eq_false hstatus]
    exact (hkeep _ ‹I _›).1
  unfold managementStep
  by_cases hnone : blocks = []
  · obtain ⟨found, hfound, hopen⟩ := hblocks hnone
    obtain rfl := htrade found hfound
    rw [if_neg (not_not.mpr hnone), hfound]
    by_cases hquiet : triggers = []
    · rw [if_pos hquiet]
      exact hstay _ (fun h => by cases h)
    · rw [if_neg hquiet]
      simp only
      by_cases hdry : call.dryRun = true
      · rw [if_pos hdry]
        exact hstay _ (fun h => by cases h)
      · rw [if_neg hdry]
        exact hclose hopen
  · rw [if_pos hnone]
    exact hstay _ (fun h => by cases h)

theorem managePlaybookLiveTrade_spec {call : ManagementCall} (hI : Steady I)
    (htrade : ctx.reading.strOr call.lifecycle "trade_id" "" = tradeId)
    (hstored : ∀ w, I w → w.store.trades.get? tradeId = some row)
    {P : Bool → World PlaybookStore → Prop} {E : World PlaybookStore → Prop}
    (hkeep : ∀ w, I w → P false w ∧ E w) (hbroken : ∀ submitted w, P submitted w → E w)
    (hclose : row.status ∈ manageableStatuses → ⦃fun w => ⌜I w⌝⦄ closeOpenTrade ctx call row
      ⦃post⟨fun step w => ⌜P (step.status = .exitSubmitted) w⌝, fun _ w => ⌜E w⌝⟩⦄) :
    ⦃fun w => ⌜I w⌝⦄ managePlaybookLiveTrade ctx call
    ⦃post⟨fun result w => ⌜P (result.status = .exitSubmitted) w⌝, fun _ w => ⌜E w⌝⟩⦄ := by
  have hresolve := resolveTrade_spec hI hstored
  have hstep (trade : Option TradeSession) (blocks triggers : List String)
      (hrow : ∀ found, trade = some found → found = row)
      (hblocks : blocks = [] → ∃ found, trade = some found ∧ found.status ∈ manageableStatuses) :
      ⦃fun w => ⌜I w⌝⦄ managementStep ctx call trade blocks triggers
      ⦃post⟨fun step w => ⌜P (step.status = .exitSubmitted) w⌝, fun _ w => ⌜E w⌝⟩⦄ :=
    managementStep_spec ctx hkeep hrow hblocks hclose
  unfold managePlaybookLiveTrade
  dsimp only
  rw [htrade]
  mvcgen [hresolve, liftPy, hstep]
  · exact ‹I _ ∧ _›.2
  · rename_i hlifecycle _ _ _ _
    intro hnone
    simp only [List.append_eq_nil_iff] at hnone
    rw [hnone.1.2] at hlifecycle
    exact manageable_of_lifecycleBlocks ctx hlifecycle
  · exact ‹I _ ∧ _›.1
  · exact hbroken _ _ ‹_›
  · exact (hkeep _ ‹I _ ∧ _›.1).2
  · exact (hkeep _ ‹I _ ∧ _›.1).2
  · exact (hkeep _ ‹I _ ∧ _›.1).2
  · exact fun h => (hkeep _ h).2

end Manage

end Call

section Run

variable {V : Type} (ctx : PlaybookContext V)

/-- One call of the manager with what the venue does during it. -/
def callManager (attempt : ManagementCall × List Beat) (w : World PlaybookStore) :
    Except Interruption ManagementResult × World PlaybookStore :=
  (finalResult (managePlaybookLiveTrade ctx attempt.1) { w with beats := attempt.2 },
    finalState (managePlaybookLiveTrade ctx attempt.1) { w with beats := attempt.2 })

def submitted : Except Interruption ManagementResult → Bool
  | .ok result => result.status = .exitSubmitted
  | .error _ => false

/-- The venue has the order or may still get it. -/
def reached (w : World PlaybookStore) (orderId : String) : Bool :=
  (w.book.orders orderId).isSome || (w.book.inFlight orderId).isSome

/-- A close that is out and that its call did not come back with. -/
def unaccounted
    (e : Event (World PlaybookStore) (ManagementCall × List Beat) (Except Interruption ManagementResult)) :
    Bool :=
  !submitted e.result && reached e.after e.call.1.closeOrderId

/-- The protective orders of the trade sell at most the position, and the closes are new. -/
structure Armed (row : TradeSession) (closes : List String) (w : World PlaybookStore) : Prop where
  stored : w.store.trades.get? row.tradeId = some row
  covered : atStake w (exitOrderIds row) ≤ row.quantity.toNat
  reports : ReportsFills w
  unsent : ∀ orderId ∈ closes, Unsent w orderId
  nodup : closes.Nodup
  apart : ∀ orderId ∈ closes, orderId ∉ exitOrderIds row

/-- What holds between two calls: the closes behind, those ahead, and how many of the former are
unaccounted for. -/
structure Managed (start : TradeSession) (done future : List String) (loose : ℕ)
    (w : World PlaybookStore) : Prop where
  reports : ReportsFills w
  row : ∃ row, w.store.trades.get? start.tradeId = some row ∧
    (row = start ∧ atStake w done ≤ start.quantity.toNat * loose ∨
      row.status ∉ manageableStatuses ∧ atStake w done ≤ start.quantity.toNat * (loose + 1))
  covered : atStake w (exitOrderIds start) = 0 ∨
    atStake w (exitOrderIds start) ≤ start.quantity.toNat ∧ atStake w done = 0
  future : ∀ orderId ∈ future, Unsent w orderId

variable {start : TradeSession} {done future : List String} {loose : ℕ} {w : World PlaybookStore}
  {attempt : ManagementCall × List Beat} {ctx}

theorem not_reached_iff {orderId : String} :
    reached w orderId = false ↔ w.book.Unasked orderId := by
  unfold reached OrderBook.Unasked
  rw [Bool.or_eq_false_iff, Option.isSome_eq_false_iff, Option.isSome_eq_false_iff,
    Option.isNone_iff_eq_none, Option.isNone_iff_eq_none]

/-- A trade that is not open any more is left alone. -/
theorem managePlaybookLiveTrade_closed {tradeId : String} {row : TradeSession}
    {I : World PlaybookStore → Prop} (hI : Steady I)
    (htrade : ctx.reading.strOr attempt.1.lifecycle "trade_id" "" = tradeId)
    (hstored : ∀ w, I w → w.store.trades.get? tradeId = some row)
    (hclosed : row.status ∉ manageableStatuses) (hw : I { w with beats := attempt.2 }) :
    I (callManager ctx attempt w).2 ∧ submitted (callManager ctx attempt w).1 = false := by
  have hspec := managePlaybookLiveTrade_spec ctx hI htrade hstored
    (P := fun submitted w => submitted = false ∧ I w) (E := I) (fun w h => ⟨⟨rfl, h⟩, h⟩)
    (fun _ _ h => h.2) (fun hopen => absurd hopen hclosed)
  refine ⟨finalState_of_posts hspec (fun _ _ h => h.2) (fun _ _ h => h) hw, ?_⟩
  cases hresult : (callManager ctx attempt w).1 with
  | error e => rfl
  | ok result => exact (ok_of_triple hspec hw hresult).1

/-- What an open trade's call leaves, by what it came back with. -/
theorem managePlaybookLiveTrade_open {s : Reckoning} (hapart : s.Apart)
    (hclose : attempt.1.closeOrderId = s.close)
    (htrade : ctx.reading.strOr attempt.1.lifecycle "trade_id" "" = s.tradeId) (hw : s.Idle w) :
    if submitted (callManager ctx attempt w).1 then s.Booked (callManager ctx attempt w).2
    else s.Broken (callManager ctx attempt w).2 := by
  have hstart : s.Idle { w with beats := attempt.2 } := (lasting_idle s).moves w [] attempt.2 hw
  have hspec := managePlaybookLiveTrade_spec ctx
    (lasting_idle s).toSteady htrade (fun w h => h.stored) (P := s.After) (E := s.Broken)
    (fun w h => ⟨Or.inl h, Or.inl h⟩)
    (fun submitted w h => by
      cases submitted with
      | true => exact Or.inr (Or.inr h)
      | false => exact h.imp id Or.inl)
    (fun _ => closeOpenTrade_spec ctx hapart hclose)
  cases hresult : (callManager ctx attempt w).1 with
  | error e =>
    have hbroken := finalState_of_posts (R := s.Broken) hspec
      (fun result w h => by
        cases hstatus : decide (result.status = .exitSubmitted) with
        | true =>
          rw [hstatus] at h
          exact Or.inr (Or.inr h)
        | false =>
          rw [hstatus] at h
          exact h.imp id Or.inl) (fun _ _ h => h) hstart
    exact hbroken
  | ok result =>
    have hafter := ok_of_triple hspec hstart hresult
    by_cases hstatus : result.status = .exitSubmitted
    · rw [decide_eq_true hstatus] at hafter
      rw [if_pos (show submitted (.ok result) = true from decide_eq_true hstatus)]
      exact hafter
    · rw [decide_eq_false hstatus] at hafter
      rw [if_neg (show ¬submitted (.ok result) = true from fun h => hstatus (of_decide_eq_true h))]
      exact hafter.imp id Or.inl

/-- One call keeps the account. -/
theorem Managed.call (h : Managed start done (attempt.1.closeOrderId :: future) loose w)
    (htrade : ctx.reading.strOr attempt.1.lifecycle "trade_id" "" = start.tradeId)
    (hdone : attempt.1.closeOrderId ∉ done) (hfuture : attempt.1.closeOrderId ∉ future)
    (hprotection : attempt.1.closeOrderId ∉ exitOrderIds start) :
    Managed start (done ++ [attempt.1.closeOrderId]) future
      (loose + if unaccounted (event (callManager ctx) attempt w) then 1 else 0)
      (callManager ctx attempt w).2 := by
  have hown := h.future _ List.mem_cons_self
  have hahead : ∀ orderId ∈ future, Unsent w orderId := fun orderId hid =>
    h.future orderId (List.mem_cons_of_mem _ hid)
  have hsingle (v : World PlaybookStore) : atStake v (done ++ [attempt.1.closeOrderId]) =
      atStake v done + atStake v [attempt.1.closeOrderId] := atStake_append v done _
  have hunasked {v : World PlaybookStore} (hnone : v.book.Unasked attempt.1.closeOrderId) :
      atStake v [attempt.1.closeOrderId] = 0 := by
    rw [atStake_cons, OrderBook.exposure_of_unasked hnone]
    rfl
  obtain ⟨row, hstored, ⟨rfl, hstake⟩ | ⟨hclosed, hstake⟩⟩ := h.row
  · -- The row is as it was at the start: the call may close the trade.
    let s : Reckoning := ⟨row.tradeId, row, row.quantity.toNat, done, row.quantity.toNat * loose,
      attempt.1.closeOrderId, future⟩
    have hapart : s.Apart := ⟨hprotection, hdone, hfuture, rfl, rfl⟩
    have hidle : s.Idle w :=
      ⟨⟨h.reports, hstake, (hunasked hown.1).le.trans (Nat.zero_le _), hahead⟩, hstored, hown.1, h.covered⟩
    have hafter := managePlaybookLiveTrade_open hapart rfl htrade hidle
    have hbooked (hb : s.Booked (callManager ctx attempt w).2) (extra : ℕ) :
        Managed row (done ++ [attempt.1.closeOrderId]) future (loose + extra)
          (callManager ctx attempt w).2 := by
      obtain ⟨booked, hrow, -, hpending⟩ := hb.stored
      refine ⟨hb.reports, ⟨booked, hrow, Or.inr ⟨?_, ?_⟩⟩, Or.inl (Nat.le_zero.mp hb.cleared), hb.future⟩
      · rw [hpending]
        decide
      · rw [hsingle]
        have hsum := Nat.add_le_add hb.done hb.close
        calc _ ≤ row.quantity.toNat * loose + row.quantity.toNat := hsum
          _ = row.quantity.toNat * (loose + 1) := (Nat.mul_succ _ _).symm
          _ ≤ row.quantity.toNat * (loose + extra + 1) := Nat.mul_le_mul_left _ (by omega)
    by_cases hsubmitted : submitted (callManager ctx attempt w).1 = true
    · rw [if_pos hsubmitted] at hafter
      exact hbooked hafter _
    · rw [if_neg hsubmitted] at hafter
      rcases hafter with hi | hl | hb
      · refine ⟨hi.reports, ⟨row, hi.stored, Or.inl ⟨rfl, ?_⟩⟩, ?_, hi.future⟩
        · rw [hsingle, hunasked hi.unasked]
          exact hi.done.trans (Nat.mul_le_mul_left _ (Nat.le_add_right _ _))
        · refine hi.covered.imp id fun hcovered => ⟨hcovered.1, ?_⟩
          rw [hsingle, hunasked hi.unasked]
          exact hcovered.2
      · refine ⟨hl.reports, ⟨row, hl.stored, Or.inl ⟨rfl, ?_⟩⟩, Or.inl (Nat.le_zero.mp hl.cleared), hl.future⟩
        rw [hsingle]
        by_cases hreached : reached (callManager ctx attempt w).2 attempt.1.closeOrderId = true
        · -- The close is out, and the call did not come back with it.
          have hcounts : unaccounted (event (callManager ctx) attempt w) = true := by
            show (!submitted (callManager ctx attempt w).1 &&
              reached (callManager ctx attempt w).2 attempt.1.closeOrderId) = true
            have hopen : submitted (callManager ctx attempt w).1 = false := by
              rwa [Bool.not_eq_true] at hsubmitted
            rw [hopen, hreached]
            rfl
          rw [if_pos hcounts]
          exact (Nat.add_le_add hl.done hl.close).trans (Nat.mul_succ _ _).ge
        · rw [hunasked (not_reached_iff.mp (Bool.not_eq_true _ ▸ hreached))]
          exact hl.done.trans (Nat.mul_le_mul_left _ (Nat.le_add_right _ _))
      · exact hbooked hb _
  · -- The row has left the open statuses: nothing is sent any more.
    have hsteady : Steady fun v : World PlaybookStore =>
        v.store.trades.get? start.tradeId = some row ∧ ReportsFills v ∧
        atStake v done ≤ start.quantity.toNat * (loose + 1) ∧
        (atStake v (exitOrderIds start) = 0 ∨
          atStake v (exitOrderIds start) ≤ start.quantity.toNat ∧ atStake v done = 0) ∧
        Unsent v attempt.1.closeOrderId ∧ ∀ orderId ∈ future, Unsent v orderId := by
      refine ⟨fun v ms beats hv => ?_⟩
      obtain ⟨hrow, hreports, hbound, hcovered, hnew, hothers⟩ := hv
      have hprotected := atStake_moves_le v ms beats (exitOrderIds start)
      have hclosing := atStake_moves_le v ms beats done
      refine ⟨hrow, hreports, hclosing.trans hbound, ?_, (lasting_unsent _).moves v ms beats hnew,
        fun orderId hid => (lasting_unsent orderId).moves v ms beats (hothers orderId hid)⟩
      rcases hcovered with hzero | ⟨hle, hnone⟩
      · exact Or.inl (Nat.le_zero.mp (hzero ▸ hprotected))
      · exact Or.inr ⟨hprotected.trans hle, Nat.le_zero.mp (hnone ▸ hclosing)⟩
    have hbefore := hsteady.moves w [] attempt.2 ⟨hstored, h.reports, hstake, h.covered, hown, hahead⟩
    obtain ⟨⟨hrow, hreports, hbound, hcovered, hnew, hothers⟩, -⟩ :=
      managePlaybookLiveTrade_closed hsteady htrade (fun v hv => hv.1) hclosed hbefore
    refine ⟨hreports, ⟨row, hrow, Or.inr ⟨hclosed, ?_⟩⟩, ?_, hothers⟩
    · rw [hsingle, hunasked hnew.1]
      exact hbound.trans (Nat.mul_le_mul_left _ (by omega))
    · refine hcovered.imp id fun hboth => ⟨hboth.1, ?_⟩
      rw [hsingle, hunasked hnew.1]
      exact hboth.2

/-- A run of calls keeps the account. -/
theorem Managed.run {attempts : List (ManagementCall × List Beat)}
    (h : Managed start done (attempts.map fun attempt => attempt.1.closeOrderId) loose w)
    (htrade : ∀ attempt ∈ attempts,
      ctx.reading.strOr attempt.1.lifecycle "trade_id" "" = start.tradeId)
    (hnodup : (done ++ attempts.map fun attempt => attempt.1.closeOrderId).Nodup)
    (hprotection : ∀ attempt ∈ attempts, attempt.1.closeOrderId ∉ exitOrderIds start) :
    Managed start (done ++ attempts.map fun attempt => attempt.1.closeOrderId) []
      (loose + (trace (callManager ctx) w attempts).countP unaccounted)
      (finish (callManager ctx) w attempts) := by
  induction attempts generalizing done loose w with
  | nil =>
    rw [List.map_nil, List.append_nil]
    exact h
  | cons attempt rest ih =>
    rw [List.map_cons] at hnodup
    obtain ⟨-, hahead, hdisjoint⟩ := List.nodup_append.mp hnodup
    have hdone : attempt.1.closeOrderId ∉ done := fun hmem =>
      hdisjoint _ hmem _ List.mem_cons_self rfl
    have hcall := h.call (htrade attempt List.mem_cons_self) hdone (List.nodup_cons.mp hahead).1
      (hprotection attempt List.mem_cons_self)
    rw [List.append_cons] at hnodup
    have hrest := ih hcall (fun other hother => htrade other (List.mem_cons_of_mem attempt hother)) hnodup
      fun other hother => hprotection other (List.mem_cons_of_mem attempt hother)
    rw [trace, List.countP_cons, List.map_cons, List.append_cons, finish]
    have hcount : loose + ((trace (callManager ctx) (callManager ctx attempt w).2 rest).countP unaccounted +
          if unaccounted (event (callManager ctx) attempt w) then 1 else 0) =
        (loose + if unaccounted (event (callManager ctx) attempt w) then 1 else 0) +
          (trace (callManager ctx) (callManager ctx attempt w).2 rest).countP unaccounted := by omega
    rw [hcount]
    exact hrest

/-- However often the manager of an open trade is called and wherever its calls die, what is executed or
up for sale of the trade is at most the position once, and once more for each close that is out and
that its call did not come back with. -/
theorem manager_never_oversells (ctx : PlaybookContext V) (row : TradeSession)
    (attempts : List (ManagementCall × List Beat)) (w : World PlaybookStore)
    (harmed : Armed row (attempts.map fun attempt => attempt.1.closeOrderId) w)
    (htrade : ∀ attempt ∈ attempts,
      ctx.reading.strOr attempt.1.lifecycle "trade_id" "" = row.tradeId) :
    atStake (finish (callManager ctx) w attempts)
        (exitOrderIds row ++ attempts.map fun attempt => attempt.1.closeOrderId) ≤
      row.quantity.toNat * (1 + (trace (callManager ctx) w attempts).countP unaccounted) := by
  have hstart : Managed row [] (attempts.map fun attempt => attempt.1.closeOrderId) 0 w :=
    ⟨harmed.reports, ⟨row, harmed.stored, Or.inl ⟨rfl, Nat.zero_le _⟩⟩, Or.inr ⟨harmed.covered, rfl⟩,
      harmed.unsent⟩
  have hnodup : (([] : List String) ++ attempts.map fun attempt => attempt.1.closeOrderId).Nodup :=
    harmed.nodup
  have hend := hstart.run htrade hnodup fun attempt hattempt =>
    harmed.apart _ (List.mem_map_of_mem hattempt)
  rw [List.nil_append, Nat.zero_add] at hend
  rw [atStake_append]
  set loose := (trace (callManager ctx) w attempts).countP unaccounted
  obtain ⟨last, -, hlast⟩ := hend.row
  have hdone : atStake (finish (callManager ctx) w attempts)
      (attempts.map fun attempt => attempt.1.closeOrderId) ≤ row.quantity.toNat * (loose + 1) := by
    rcases hlast with ⟨-, hle⟩ | ⟨-, hle⟩
    · exact hle.trans (Nat.mul_le_mul_left _ (Nat.le_succ _))
    · exact hle
  rw [Nat.add_comm 1 loose]
  rcases hend.covered with hzero | ⟨hle, hnone⟩
  · rw [hzero, Nat.zero_add]
    exact hdone
  · rw [hnone, Nat.add_zero]
    exact hle.trans (Nat.le_mul_of_pos_right _ (Nat.succ_pos loose))

section Booked

variable {tradeId : String} {row : TradeSession} {sent : Bool}

/-- Cancelling touches neither the store nor what was asked for. -/
theorem cancelExitOrders_keeps (ctx : PlaybookContext V) {I : World PlaybookStore → Prop} (hI : Lasting I)
    (ids : List String) :
    ⦃fun w => ⌜I w⌝⦄ cancelExitOrders ctx ids ⦃post⟨fun _ w => ⌜I w⌝, fun _ w => ⌜I w⌝⟩⦄ := by
  induction ids with
  | nil => mvcgen [cancelExitOrders]
  | cons orderId rest ih =>
    have hcancel := cancelOrder_spec hI orderId
    mvcgen [cancelExitOrders, hcancel, ih]
    exact ‹I _ ∧ _›.1

/-- The row is as it was, and the closes of later calls are not asked for. -/
def Unfiled (tradeId : String) (row : TradeSession) (future : List String) (w : World PlaybookStore) :
    Prop :=
  (∀ orderId ∈ future, NeverAsked w orderId) ∧ w.store.trades.get? tradeId = some row

/-- What a call leaves at the row: its close if it says so, else the row as it was, or a close whose call
died with the record written. -/
def Filed (tradeId : String) (row : TradeSession) (future : List String) (sent : Bool)
    (w : World PlaybookStore) : Prop :=
  (∀ orderId ∈ future, NeverAsked w orderId) ∧
    (sent = false ∧ w.store.trades.get? tradeId = some row ∨ ExitPending tradeId w)

theorem Unfiled.filed (h : Unfiled tradeId row future w) : Filed tradeId row future false w :=
  ⟨h.1, Or.inl ⟨rfl, h.2⟩⟩

theorem Filed.forget (h : Filed tradeId row future sent w) : Filed tradeId row future false w :=
  ⟨h.1, h.2.imp (fun hrow => ⟨rfl, hrow.2⟩) id⟩

theorem Filed.pending (h : Filed tradeId row future true w) : ExitPending tradeId w := by
  rcases h.2 with ⟨hcontra, -⟩ | hpending
  · cases hcontra
  · exact hpending

theorem lasting_unfiled (tradeId : String) (row : TradeSession) (future : List String) :
    Lasting (Unfiled tradeId row future) where
  moves _ _ _ h := h
  read w other readback ht h :=
    ⟨fun orderId hid => (lasting_neverAsked orderId).read w other readback ht (h.1 orderId hid), h.2⟩

theorem steady_filed (tradeId : String) (row : TradeSession) (future : List String) (sent : Bool) :
    Steady (Filed tradeId row future sent) where
  moves _ _ _ h := h

theorem upsertTrade_files {record : String → TradeRecord V} (hid : ∀ now, (record now).tradeId = tradeId)
    (hstatus : ∀ now, (record now).status = "exit_pending") :
    ⦃fun w => ⌜Unfiled tradeId row future w⌝⦄ upsertTrade ctx record
    ⦃post⟨fun _ w => ⌜Filed tradeId row future true w⌝, fun _ w => ⌜Unfiled tradeId row future w⌝⟩⦄ := by
  have hbeat := nextBeat_spec (lasting_unfiled tradeId row future).toSteady
  mvcgen [upsertTrade, hbeat]
  rename_i beat w h _
  exact ⟨h.1, Or.inr (exitPending_upsert ctx h.2 (hid beat.now) (hstatus beat.now))⟩

theorem closeOpenTrade_files {call : ManagementCall} (hrow : row.tradeId = tradeId)
    (hnew : call.closeOrderId ∉ future) :
    ⦃fun w => ⌜Unfiled tradeId row future w⌝⦄ closeOpenTrade ctx call row
    ⦃post⟨fun step w => ⌜Filed tradeId row future (step.status = .exitSubmitted) w⌝,
      fun _ w => ⌜Filed tradeId row future false w⌝⟩⦄ := by
  have hunfiled := lasting_unfiled tradeId row future
  have hcancel := cancelExitOrders_keeps ctx hunfiled (exitOrderIds row)
  have hask : World.Submits (Unfiled tradeId row future) call.closeOrderId row.quantity := by
    intro w verdict h
    refine ⟨fun orderId hid => ?_, h.2⟩
    apply neverAsked_ask (h.1 orderId hid)
    intro heq
    exact hnew (heq ▸ hid)
  have hsubmit := submit_spec hunfiled.toSteady .sell hask
  have hbook (exitOrderId : String) :
      ⦃fun w => ⌜Unfiled tradeId row future w⌝⦄
      upsertTrade ctx fun now => { tradeRecordFromRow ctx row with
        status := "exit_pending"
        exitOrderId := some exitOrderId
        exitSubmittedAt := some now
        exitMode := some .emergency }
      ⦃post⟨fun _ w => ⌜Filed tradeId row future true w⌝,
        fun _ w => ⌜Unfiled tradeId row future w⌝⟩⦄ :=
    upsertTrade_files (fun _ => hrow) (fun _ => rfl)
  have hevent := nextBeat_spec (steady_filed tradeId row future true)
  mvcgen [closeOpenTrade, appendEvent, hcancel, hsubmit, hbook, hevent]
  · rename_i h
    exact h.filed
  · rename_i h
    exact h.1.filed
  · rename_i h
    exact h.1
  · exact Filed.forget
  · exact Unfiled.filed
  · exact Unfiled.filed
  · exact Unfiled.filed

/-- One call of the manager, at a row that is as it was at the start or has its close booked. -/
theorem Filed.call (h : Filed tradeId row (attempt.1.closeOrderId :: future) false w)
    (htrade : ctx.reading.strOr attempt.1.lifecycle "trade_id" "" = tradeId)
    (hnew : attempt.1.closeOrderId ∉ future) :
    Filed tradeId row future (submitted (callManager ctx attempt w).1)
      (callManager ctx attempt w).2 := by
  have hahead : ∀ orderId ∈ future, NeverAsked w orderId := fun orderId hid =>
    h.1 orderId (List.mem_cons_of_mem _ hid)
  rcases h.2 with ⟨-, hstored⟩ | ⟨booked, hbooked, -, hpending⟩
  · -- the row is as it was, so this call may close the trade
    have hspec := managePlaybookLiveTrade_spec ctx (lasting_unfiled tradeId row future).toSteady htrade
      (fun w hw => hw.2) (P := Filed tradeId row future) (E := Filed tradeId row future false)
      (fun w hw => ⟨hw.filed, hw.filed⟩) (fun _ _ hw => hw.forget)
      (fun _ => closeOpenTrade_files (Table.key_of_get? hstored) hnew)
    have hstart : Unfiled tradeId row future { w with beats := attempt.2 } := ⟨hahead, hstored⟩
    cases hresult : (callManager ctx attempt w).1 with
    | error e => exact finalState_of_posts hspec (fun _ _ hw => hw.forget) (fun _ _ hw => hw) hstart
    | ok result => exact ok_of_triple hspec hstart hresult
  · -- the close is booked, so no close is sent and the row stays
    have hsteady : Steady fun v : World PlaybookStore =>
        (∀ orderId ∈ future, NeverAsked v orderId) ∧ v.store.trades.get? tradeId = some booked :=
      (lasting_unfiled tradeId booked future).toSteady
    have hclosed : booked.status ∉ manageableStatuses := by
      rw [hpending]
      decide
    obtain ⟨hafter, hnone⟩ := managePlaybookLiveTrade_closed hsteady htrade (fun v hv => hv.2) hclosed
      (w := w) ⟨hahead, hbooked⟩
    exact ⟨hafter.1, Or.inr ⟨booked, hafter.2, Table.key_of_get? hafter.2, hpending⟩⟩

/-- With its close booked, the trade is left alone: the store stays, and nothing is asked for. -/
theorem ExitPending.call (h : ExitPending tradeId w)
    (htrade : ctx.reading.strOr attempt.1.lifecycle "trade_id" "" = tradeId)
    (hfuture : ∀ orderId ∈ future, NeverAsked w orderId) :
    (callManager ctx attempt w).2.store = w.store ∧
      ∀ orderId ∈ future, NeverAsked (callManager ctx attempt w).2 orderId := by
  obtain ⟨booked, hbooked, -, hpending⟩ := h
  have hsteady : Steady fun v : World PlaybookStore =>
      v.store = w.store ∧ ∀ orderId ∈ future, NeverAsked v orderId := ⟨fun _ _ _ hv => hv⟩
  have hclosed : booked.status ∉ manageableStatuses := by
    rw [hpending]
    decide
  have hrow : ∀ v : World PlaybookStore,
      (v.store = w.store ∧ ∀ orderId ∈ future, NeverAsked v orderId) →
        v.store.trades.get? tradeId = some booked := by
    intro v hv
    rw [hv.1]
    exact hbooked
  exact (managePlaybookLiveTrade_closed hsteady htrade hrow hclosed (w := w) ⟨rfl, hfuture⟩).1

theorem ExitPending.run {attempts : List (ManagementCall × List Beat)} (h : ExitPending tradeId w)
    (htrade : ∀ attempt ∈ attempts, ctx.reading.strOr attempt.1.lifecycle "trade_id" "" = tradeId)
    (hfuture : ∀ orderId ∈ future, NeverAsked w orderId) :
    ∀ e ∈ trace (callManager ctx) w attempts,
      e.after.store = w.store ∧ ∀ orderId ∈ future, NeverAsked e.after orderId := by
  induction attempts generalizing w with
  | nil =>
    intro e he
    cases he
  | cons attempt rest ih =>
    have hcall := h.call (htrade attempt List.mem_cons_self) hfuture
    intro e he
    rcases List.mem_cons.mp he with rfl | he
    · exact hcall
    · have hnext : ExitPending tradeId (callManager ctx attempt w).2 := by
        unfold ExitPending
        rw [hcall.1]
        exact h
      have hlater := ih hnext (fun other hother => htrade other (List.mem_cons_of_mem attempt hother))
        hcall.2 e he
      exact ⟨hlater.1.trans hcall.1, hlater.2⟩

theorem Filed.final {attempts : List (ManagementCall × List Beat)}
    (h : Filed tradeId row (attempts.map fun attempt => attempt.1.closeOrderId) false w)
    (htrade : ∀ attempt ∈ attempts, ctx.reading.strOr attempt.1.lifecycle "trade_id" "" = tradeId)
    (hnodup : (attempts.map fun attempt => attempt.1.closeOrderId).Nodup) :
    (trace (callManager ctx) w attempts).Pairwise fun e f =>
      submitted e.result = true →
        f.after.store = e.after.store ∧ NeverAsked f.after f.call.1.closeOrderId := by
  induction attempts generalizing w with
  | nil => exact List.Pairwise.nil
  | cons attempt rest ih =>
    rw [List.map_cons] at hnodup h
    obtain ⟨hnew, hrest⟩ := List.nodup_cons.mp hnodup
    have htail : ∀ other ∈ rest, ctx.reading.strOr other.1.lifecycle "trade_id" "" = tradeId :=
      fun other hother => htrade other (List.mem_cons_of_mem attempt hother)
    have hcall := h.call (htrade attempt List.mem_cons_self) hnew
    refine List.Pairwise.cons ?_ (ih hcall.forget htail hrest)
    intro f hf hsubmitted
    rw [show submitted (callManager ctx attempt w).1 = true from hsubmitted] at hcall
    obtain ⟨hstore, hasked⟩ := hcall.pending.run htail hcall.1 f hf
    exact ⟨hstore, hasked _ (List.mem_map_of_mem (call_mem_of_mem_trace hf))⟩

end Booked

/-- Once a call has come back with its close, no later call touches the store or sends a close. -/
theorem booked_exit_is_final (ctx : PlaybookContext V) (row : TradeSession)
    (attempts : List (ManagementCall × List Beat)) (w : World PlaybookStore)
    (hstored : w.store.trades.get? row.tradeId = some row)
    (htrade : ∀ attempt ∈ attempts,
      ctx.reading.strOr attempt.1.lifecycle "trade_id" "" = row.tradeId)
    (hnodup : (attempts.map fun attempt => attempt.1.closeOrderId).Nodup)
    (hnew : ∀ attempt ∈ attempts, NeverAsked w attempt.1.closeOrderId) :
    (trace (callManager ctx) w attempts).Pairwise fun e f =>
      submitted e.result = true →
        f.after.store = e.after.store ∧ NeverAsked f.after f.call.1.closeOrderId := by
  have hahead : ∀ orderId ∈ attempts.map fun attempt => attempt.1.closeOrderId,
      NeverAsked w orderId := by
    intro orderId hid
    obtain ⟨attempt, hattempt, rfl⟩ := List.mem_map.mp hid
    exact hnew attempt hattempt
  have hstart : Filed row.tradeId row (attempts.map fun attempt => attempt.1.closeOrderId) false w :=
    ⟨hahead, Or.inl ⟨rfl, hstored⟩⟩
  exact hstart.final htrade hnodup

end Run

namespace PilotTrade

def context : PlaybookContext Unit where
  codec := ⟨fun _ => .ok "", fun _ => "", id⟩
  loadsPayload _ := []
  reading := ⟨fun _ => "", fun _ => some 15, fun _ => none⟩
  cancelError _ := "cancel_pending:NEW"
  submitError := "exit_order_submit_failed"

def row : TradeSession where
  tradeId := "t1"
  deploymentId := "playbook_p1_spy_long_live"
  symbol := "SPY"
  optionSymbol := some "SPY260116C00600000"
  quantity := 2
  entryPrice := some 1
  underlyingEntryPrice := some 600
  entryTimestamp := none
  status := "open_protected"
  entryOrderId := some "entry"
  stopOrderId := some "stop"
  stopPrice := some (1 / 2)
  targetOrderId := none
  targetPrice := some 2
  pendingExit := ⟨none, none, none, none⟩
  facts := fun _ => none
  canLadder := none
  frozen := fun _ => none
  updatedAt := "10:00"

def lifecycle : ActivePlan.Payload :=
  [("status", .text "lifecycle_started"), ("lifecycle_started", .bool true), ("trade_id", .text "t1"),
    ("direction", .text "long"), ("option_symbol", .text "SPY260116C00600000"), ("quantity", .int 2),
    ("underlying_stop_price", .int 595)]

def packet : ExecutionPacket where
  packetId := "p1"
  version := 1
  status := "approved"
  operatorApprovalStatus := "approved"
  runtimeMode := "live_approval_gated"
  runtimeControls := [("shadow_only", .bool false), ("live_ticket_required", .bool true),
    ("live_management_required", .bool true)]

def call (closeOrderId : String) : ManagementCall where
  lifecycle := lifecycle
  packet := packet
  currentUnderlyingPrice := some 594
  easternTime := 0
  dryRun := false
  closeOrderId := closeOrderId

/-- The venue leaves the filled quantity of an order out that had no fill. -/
def canceled : OrderPayload where
  status := some .canceled

/-- The stop is taken down and the close accepted; the process dies before the record of it. -/
def dying : List Beat :=
  [{}, { moves := [.die "stop"] }, { readback := .payload canceled }, { verdict := .accepted }]

/-- The next call finds the stop dead and sends another close. -/
def resumed : List Beat := [{}, {}, { readback := .payload canceled }, { verdict := .accepted }, {}, {}]

def attempts : List (ManagementCall × List Beat) := [(call "close1", dying), (call "close2", resumed)]

/-- The close comes back and is booked; the next call finds nothing left to do. -/
def calls : List (ManagementCall × List Beat) :=
  [(call "close1", [{}, { moves := [.die "stop"] }, { readback := .payload canceled },
      { verdict := .accepted }, {}, {}]),
    (call "close2", [{}, {}, {}, { verdict := .accepted }, {}, {}])]

def start : World PlaybookStore where
  store := ⟨⟨[row], List.nodup_singleton _⟩⟩
  book := ⟨fun i => if i = "stop" then some (.opened 2 true) else none, fun _ => none⟩
  reports := fun p o => !p.isDead || p.filledQuantity ≠ .missing || o.filled = 0
  beats := []

theorem armed : Armed row (attempts.map fun attempt => attempt.1.closeOrderId) start where
  stored := rfl
  covered := by decide
  reports p o h hdead hmissing := by
    simpa [start, hdead, hmissing] using h
  unsent orderId hid := by
    simp only [attempts, call, List.map_cons, List.map_nil, List.mem_cons, List.not_mem_nil, or_false] at hid
    rcases hid with rfl | rfl
    · exact ⟨⟨rfl, rfl⟩, fun quantity hcontra => by cases hcontra⟩
    · exact ⟨⟨rfl, rfl⟩, fun quantity hcontra => by cases hcontra⟩
  nodup := by decide
  apart := by decide

theorem named : ∀ attempt ∈ attempts,
    context.reading.strOr attempt.1.lifecycle "trade_id" "" = row.tradeId := by
  decide

end PilotTrade

/-- A close whose call died before it was recorded is the one that is not accounted for. -/
theorem manager_never_oversells_pilot :
    (trace (callManager PilotTrade.context) PilotTrade.start PilotTrade.attempts).countP unaccounted = 1 ∧
    atStake (finish (callManager PilotTrade.context) PilotTrade.start PilotTrade.attempts)
        ["stop", "close1", "close2"] ≤ 2 * (1 + 1) := by
  have hcount : (trace (callManager PilotTrade.context) PilotTrade.start
      PilotTrade.attempts).countP unaccounted = 1 := by
    decide +kernel
  refine ⟨hcount, ?_⟩
  have hbound := manager_never_oversells PilotTrade.context PilotTrade.row PilotTrade.attempts
    PilotTrade.start PilotTrade.armed PilotTrade.named
  rw [hcount] at hbound
  exact hbound

/-- A close that comes back, and a call after it. -/
theorem booked_exit_is_final_pilot :
    (trace (callManager PilotTrade.context) PilotTrade.start PilotTrade.calls).map
        (fun e => submitted e.result) = [true, false] ∧
    (trace (callManager PilotTrade.context) PilotTrade.start PilotTrade.calls).Pairwise fun e f =>
      submitted e.result = true →
        f.after.store = e.after.store ∧ NeverAsked f.after f.call.1.closeOrderId :=
  ⟨by decide +kernel,
    booked_exit_is_final PilotTrade.context PilotTrade.row PilotTrade.calls PilotTrade.start rfl
      (by decide) (by decide) (fun _ _ _ hcontra => List.not_mem_nil hcontra)⟩

end Bhiksha.Playbook
