import Bhiksha.State.Reconciliation

/-! Reconciliation comes to the same whatever the order of the broker's list, just when the working orders
of each held contract can be read in one way only. -/

namespace Bhiksha.Live

section Choice

variable {α : Type}

/-- What a list may have as its last element, in some order. -/
def Choosable (xs : List α) : Option α → Prop
  | none => xs = []
  | some x => x ∈ xs

theorem choosable_getLast? {xs ys : List α} (h : ys.Perm xs) : Choosable xs ys.getLast? := by
  cases hlast : ys.getLast? with
  | none =>
    rw [List.getLast?_eq_none_iff] at hlast
    subst hlast
    exact h.nil_eq.symm
  | some y => exact h.subset (List.mem_of_getLast? hlast)

/-- Two selections of which one selects all that the other does, and which come to the same list, agree
element by element. -/
theorem eq_of_filterMap_eq {β : Type} {f g : α → Option β} {xs : List α}
    (hle : ∀ x ∈ xs, (g x).isSome → (f x).isSome) (heq : xs.filterMap f = xs.filterMap g) :
    ∀ x ∈ xs, f x = g x := by
  induction xs with
  | nil => exact fun _ h => absurd h List.not_mem_nil
  | cons x xs ih =>
    have hrest : ∀ y ∈ xs, (g y).isSome → (f y).isSome := fun y hy =>
      hle y (List.mem_cons_of_mem x hy)
    have hlength : (xs.filterMap g).length ≤ (xs.filterMap f).length := by
      clear ih heq hle
      induction xs with
      | nil => exact le_rfl
      | cons y ys ih =>
        have ih' := ih fun z hz => hrest z (List.mem_cons_of_mem y hz)
        have hy := hrest y List.mem_cons_self
        cases hg : g y with
        | none =>
          rw [List.filterMap_cons_none hg]
          cases hf : f y with
          | none => rwa [List.filterMap_cons_none hf]
          | some _ =>
            rw [List.filterMap_cons_some hf, List.length_cons]
            omega
        | some _ =>
          obtain ⟨b, hf⟩ := Option.isSome_iff_exists.mp (hy (by rw [hg]; rfl))
          rw [List.filterMap_cons_some hg, List.filterMap_cons_some hf, List.length_cons,
            List.length_cons]
          omega
    have hx := hle x List.mem_cons_self
    cases hg : g x with
    | none =>
      cases hf : f x with
      | none =>
        rw [List.filterMap_cons_none hf, List.filterMap_cons_none hg] at heq
        intro y hy
        rcases List.mem_cons.mp hy with rfl | hy
        · rw [hf, hg]
        · exact ih hrest heq y hy
      | some b =>
        -- the longer list would have to be the shorter one
        rw [List.filterMap_cons_some hf, List.filterMap_cons_none hg] at heq
        have hcount := congrArg List.length heq
        rw [List.length_cons] at hcount
        omega
    | some c =>
      obtain ⟨b, hf⟩ := Option.isSome_iff_exists.mp (hx (by rw [hg]; rfl))
      rw [List.filterMap_cons_some hf, List.filterMap_cons_some hg] at heq
      obtain ⟨rfl, htail⟩ := List.cons.inj heq
      intro y hy
      rcases List.mem_cons.mp hy with rfl | hy
      · rw [hf, hg]
      · exact ih hrest htail y hy

end Choice

section Index

variable {orders : List ListedOrder} {contract : String}

/-- The working stops that sell a contract. -/
def sellStops (orders : List ListedOrder) (contract : String) : List IndexedStop :=
  orders.filterMap (·.stopOf? contract)

def sellLimits (orders : List ListedOrder) (contract : String) : List IndexedLimit :=
  orders.filterMap (·.limitOf? contract)

/-- An order that is moved to the end of the list. -/
theorem exists_moved_last {β : Type} {f : ListedOrder → Option β} {b : β}
    (h : b ∈ orders.filterMap f) : ∃ (order : ListedOrder) (orders' : List ListedOrder),
      orders'.Perm orders ∧ f order = some b ∧
      (∀ {γ : Type} (g : ListedOrder → Option γ), g order = none →
        orders'.filterMap g = orders.filterMap g) ∧ (orders'.filterMap f).getLast? = some b := by
  obtain ⟨order, hmem, hb⟩ := List.mem_filterMap.mp h
  obtain ⟨front, back, rfl⟩ := List.append_of_mem hmem
  refine ⟨order, front ++ back ++ [order], ?_, hb, fun g hg => ?_, ?_⟩
  · have hswap : (back ++ [order]).Perm (order :: back) := List.perm_append_singleton order back
    rw [List.append_assoc]
    exact hswap.append_left front
  · rw [List.filterMap_append, List.filterMap_append, List.filterMap_append,
      List.filterMap_cons_none hg, List.filterMap_cons_none hg, List.filterMap_nil, List.append_nil]
  · rw [List.filterMap_append, List.filterMap_cons_some hb, List.filterMap_nil,
      List.getLast?_append_of_ne_nil _ (by simp), List.getLast?_singleton]

theorem sellsContract?_unique {order : ListedOrder} {other id : String}
    (h : order.sellsContract? contract = some id) (hother : other ≠ contract) :
    order.sellsContract? other = none := by
  unfold ListedOrder.sellsContract? at h ⊢
  split at h
  · next hsells =>
    rw [if_neg]
    rintro ⟨-, -, -, heq, -⟩
    exact hother (heq.symm.trans hsells.2.2.2.1)
  · cases h

/-- A working stop of one contract is a stop of no other and no limit at all. -/
theorem of_stopOf? {order : ListedOrder} {stop : IndexedStop}
    (h : order.stopOf? contract = some stop) :
    (∀ other, other ≠ contract → order.stopOf? other = none) ∧ ∀ other, order.limitOf? other = none := by
  unfold ListedOrder.stopOf? at h
  split at h
  · next hstop =>
    obtain ⟨id, hid, -⟩ := Option.map_eq_some_iff.mp h
    refine ⟨fun other hother => ?_, fun other => ?_⟩
    · unfold ListedOrder.stopOf?
      rw [if_pos hstop, sellsContract?_unique hid hother, Option.map_none]
    · unfold ListedOrder.limitOf?
      rw [if_neg (by rw [hstop]; decide)]
  · cases h

theorem of_limitOf? {order : ListedOrder} {limit : IndexedLimit}
    (h : order.limitOf? contract = some limit) :
    (∀ other, other ≠ contract → order.limitOf? other = none) ∧ ∀ other, order.stopOf? other = none := by
  unfold ListedOrder.limitOf? at h
  split at h
  · next hlimit =>
    obtain ⟨id, hid, -⟩ := Option.map_eq_some_iff.mp h
    refine ⟨fun other hother => ?_, fun other => ?_⟩
    · unfold ListedOrder.limitOf?
      rw [if_pos hlimit, sellsContract?_unique hid hother, Option.map_none]
    · unfold ListedOrder.stopOf?
      rw [if_neg (by rw [hlimit]; decide)]
  · cases h

/-- Any stop of a contract is the indexed one after a reordering that changes no other entry. -/
theorem exists_perm_stop {stop : Option IndexedStop} (h : Choosable (sellStops orders contract) stop) :
    ∃ orders' : List ListedOrder, orders'.Perm orders ∧
      (indexOpenExitOrders orders').1 contract = stop ∧
      (∀ other, other ≠ contract →
        (indexOpenExitOrders orders').1 other = (indexOpenExitOrders orders).1 other) ∧
      ∀ other, sellLimits orders' other = sellLimits orders other := by
  cases stop with
  | none =>
    refine ⟨orders, .refl _, ?_, fun _ _ => rfl, fun _ => rfl⟩
    exact List.getLast?_eq_none_iff.mpr h
  | some stop =>
    obtain ⟨order, orders', hperm, hstop, hkeep, hlast⟩ := exists_moved_last (f := (·.stopOf? contract)) h
    obtain ⟨hothers, hlimits⟩ := of_stopOf? hstop
    refine ⟨orders', hperm, hlast, fun other hother => ?_, fun other => ?_⟩
    · exact congrArg List.getLast? (hkeep (·.stopOf? other) (hothers other hother))
    · exact hkeep (·.limitOf? other) (hlimits other)

theorem exists_perm_limit {limit : Option IndexedLimit}
    (h : Choosable (sellLimits orders contract) limit) :
    ∃ orders' : List ListedOrder, orders'.Perm orders ∧
      (indexOpenExitOrders orders').2 contract = limit ∧
      (∀ other, other ≠ contract →
        (indexOpenExitOrders orders').2 other = (indexOpenExitOrders orders).2 other) ∧
      ∀ other, (indexOpenExitOrders orders').1 other = (indexOpenExitOrders orders).1 other := by
  cases limit with
  | none =>
    refine ⟨orders, .refl _, ?_, fun _ _ => rfl, fun _ => rfl⟩
    exact List.getLast?_eq_none_iff.mpr h
  | some limit =>
    obtain ⟨order, orders', hperm, hlimit, hkeep, hlast⟩ :=
      exists_moved_last (f := (·.limitOf? contract)) h
    obtain ⟨hothers, hstops⟩ := of_limitOf? hlimit
    refine ⟨orders', hperm, hlast, fun other hother => ?_, fun other => ?_⟩
    · exact congrArg List.getLast? (hkeep (·.limitOf? other) (hothers other hother))
    · exact congrArg List.getLast? (hkeep (·.stopOf? other) (hstops other))

/-- Both choices at once. -/
theorem exists_perm_choice {stop : Option IndexedStop} {limit : Option IndexedLimit}
    (hstop : Choosable (sellStops orders contract) stop)
    (hlimit : Choosable (sellLimits orders contract) limit) :
    ∃ orders' : List ListedOrder, orders'.Perm orders ∧
      (indexOpenExitOrders orders').1 contract = stop ∧
      (indexOpenExitOrders orders').2 contract = limit ∧
      ∀ other, other ≠ contract →
        (indexOpenExitOrders orders').1 other = (indexOpenExitOrders orders).1 other ∧
          (indexOpenExitOrders orders').2 other = (indexOpenExitOrders orders).2 other := by
  obtain ⟨first, hfirst, hstopFirst, hstops, hlimits⟩ := exists_perm_stop hstop
  have hlimit' : Choosable (sellLimits first contract) limit := by rwa [hlimits]
  obtain ⟨second, hsecond, hlimitSecond, hothers, hkept⟩ := exists_perm_limit hlimit'
  refine ⟨second, hsecond.trans hfirst, (hkept contract).trans hstopFirst, hlimitSecond, ?_⟩
  intro other hother
  refine ⟨(hkept other).trans (hstops other hother), (hothers other hother).trans ?_⟩
  exact congrArg List.getLast? (hlimits other)

end Index

section Track

variable {text : ℚ → String} {deployments : List ReconciledDeployment} {trades : List KnownTrade}
  {stop stop' : Option IndexedStop} {limit limit' : Option IndexedLimit} {position : BrokerPosition}
  {contract : String}

theorem track_isSome : (track text deployments trades stop limit position).isSome ↔
    (position.isOption ∧ 0 < position.quantity) ∧
      (owner deployments position.optionSymbol (resolveTrade trades stop limit position)).isSome := by
  unfold track
  dsimp only
  split
  · next hheld => simp [hheld]
  · next hheld => simp [hheld]

/-- Of two choices one tracks every position of the contract that the other does: an order either
decides the trade of all of them or leaves each to its own evidence. -/
theorem track_comparable (text : ℚ → String) (deployments : List ReconciledDeployment)
    (trades : List KnownTrade) (contract : String) (stop stop' : Option IndexedStop)
    (limit limit' : Option IndexedLimit) :
    (∀ position : BrokerPosition, position.optionSymbol = contract →
      (track text deployments trades stop' limit' position).isSome →
        (track text deployments trades stop limit position).isSome) ∨
    ∀ position : BrokerPosition, position.optionSymbol = contract →
      (track text deployments trades stop limit position).isSome →
        (track text deployments trades stop' limit' position).isSome := by
  have hdecided {stop : Option IndexedStop} {limit : Option IndexedLimit} {trade : KnownTrade}
      (h : resolveByOrders trades stop limit = some trade) (position : BrokerPosition) :
      resolveTrade trades stop limit position = some trade := by
    rw [resolveTrade, h, Option.some_or]
  cases hm : resolveByOrders trades stop limit with
  | some trade =>
    by_cases howner : (owner deployments contract (some trade)).isSome
    · left
      rintro position rfl hsome
      rw [track_isSome, hdecided hm]
      exact ⟨(track_isSome.mp hsome).1, howner⟩
    · right
      rintro position rfl hsome
      rw [track_isSome, hdecided hm] at hsome
      exact absurd hsome.2 howner
  | none =>
    cases hm' : resolveByOrders trades stop' limit' with
    | some trade =>
      by_cases howner : (owner deployments contract (some trade)).isSome
      · right
        rintro position rfl hsome
        rw [track_isSome, hdecided hm']
        exact ⟨(track_isSome.mp hsome).1, howner⟩
      · left
        rintro position rfl hsome
        rw [track_isSome, hdecided hm'] at hsome
        exact absurd hsome.2 howner
    | none =>
      left
      intro position _ hsome
      rw [track_isSome, resolveTrade, hm', Option.none_or] at hsome
      rwa [track_isSome, resolveTrade, hm, Option.none_or]

end Track

section Law

variable (text : ℚ → String) (deployments : List ReconciledDeployment) (trades : List KnownTrade)

/-- Whichever of its contract's working orders one takes, the position comes to the same. -/
def ChoiceFree (orders : List ListedOrder) (position : BrokerPosition) : Prop :=
  ∀ stop stop' limit limit', Choosable (sellStops orders position.optionSymbol) stop →
    Choosable (sellStops orders position.optionSymbol) stop' →
      Choosable (sellLimits orders position.optionSymbol) limit →
        Choosable (sellLimits orders position.optionSymbol) limit' →
          track text deployments trades stop limit position =
            track text deployments trades stop' limit' position

/-- The position tracked through the index of a list of orders. -/
def trackIn (orders : List ListedOrder) (position : BrokerPosition) : Option TrackedPosition :=
  track text deployments trades ((indexOpenExitOrders orders).1 position.optionSymbol)
    ((indexOpenExitOrders orders).2 position.optionSymbol) position

variable {text deployments trades} {orders orders' : List ListedOrder}
  {positions : List BrokerPosition} {position : BrokerPosition}

theorem trackIn_of_perm (h : ChoiceFree text deployments trades orders position)
    (hperm : orders'.Perm orders) :
    trackIn text deployments trades orders' position =
      trackIn text deployments trades orders position :=
  h _ _ _ _ (choosable_getLast? (hperm.filterMap _)) (choosable_getLast? (.refl _))
    (choosable_getLast? (hperm.filterMap _)) (choosable_getLast? (.refl _))

/-- If no reordering changes the outcome, no choice of one contract's orders does. -/
theorem track_eq_trackIn
    (hsame : ∀ orders' : List ListedOrder, orders'.Perm orders →
      reconcilePublicPositions text deployments trades positions orders' =
        reconcilePublicPositions text deployments trades positions orders)
    (hposition : position ∈ positions) {stop : Option IndexedStop} {limit : Option IndexedLimit}
    (hstop : Choosable (sellStops orders position.optionSymbol) stop)
    (hlimit : Choosable (sellLimits orders position.optionSymbol) limit) :
    track text deployments trades stop limit position =
      trackIn text deployments trades orders position := by
  obtain ⟨orders', hperm, hstop', hlimit', hothers⟩ := exists_perm_choice hstop hlimit
  have heq : positions.filterMap (trackIn text deployments trades orders') =
      positions.filterMap (trackIn text deployments trades orders) := hsame orders' hperm
  have hother : ∀ q : BrokerPosition, q.optionSymbol ≠ position.optionSymbol →
      trackIn text deployments trades orders' q = trackIn text deployments trades orders q := by
    intro q hq
    unfold trackIn
    rw [(hothers q.optionSymbol hq).1, (hothers q.optionSymbol hq).2]
  have hpointwise : trackIn text deployments trades orders' position =
      trackIn text deployments trades orders position := by
    rcases track_comparable text deployments trades position.optionSymbol
        ((indexOpenExitOrders orders').1 position.optionSymbol)
        ((indexOpenExitOrders orders).1 position.optionSymbol)
        ((indexOpenExitOrders orders').2 position.optionSymbol)
        ((indexOpenExitOrders orders).2 position.optionSymbol) with hle | hle
    · refine eq_of_filterMap_eq (fun q _ hsome => ?_) heq position hposition
      by_cases hq : q.optionSymbol = position.optionSymbol
      · unfold trackIn at hsome ⊢
        rw [hq] at hsome ⊢
        exact hle q hq hsome
      · rwa [hother q hq]
    · refine (eq_of_filterMap_eq (fun q _ hsome => ?_) heq.symm position hposition).symm
      by_cases hq : q.optionSymbol = position.optionSymbol
      · unfold trackIn at hsome ⊢
        rw [hq] at hsome ⊢
        exact hle q hq hsome
      · rwa [← hother q hq]
  rw [← hpointwise, trackIn, hstop', hlimit']

end Law

theorem reconcile_same_iff_choiceFree (text : ℚ → String) (deployments : List ReconciledDeployment)
    (trades : List KnownTrade) (positions : List BrokerPosition) (orders : List ListedOrder) :
    (∀ orders' : List ListedOrder, orders'.Perm orders →
      reconcilePublicPositions text deployments trades positions orders' =
        reconcilePublicPositions text deployments trades positions orders) ↔
      ∀ position ∈ positions, ChoiceFree text deployments trades orders position := by
  constructor
  · intro hsame position hposition stop stop' limit limit' hstop hstop' hlimit hlimit'
    exact (track_eq_trackIn hsame hposition hstop hlimit).trans
      (track_eq_trackIn hsame hposition hstop' hlimit').symm
  · intro hfree orders' hperm
    exact List.filterMap_congr fun position hposition =>
      trackIn_of_perm (hfree position hposition) hperm

section Readings

variable (trades : List KnownTrade) (orders : List ListedOrder) (position : BrokerPosition)

/-- The trades that some order ids resolve to; without an id none is named. -/
def namedTrades (ids : List String) : List (Option KnownTrade) :=
  if ids = [] then [none] else ids.map (tradeByOrderId trades)

/-- The trades that the working orders of its contract may match the position to: that of a stop, where a
stop's id resolves to none that of a limit, and where neither does the one of the broker's evidence. -/
def candidateTrades : List (Option KnownTrade) :=
  (namedTrades trades
    ((sellStops orders position.optionSymbol).map IndexedStop.orderId)).flatMap fun byStop =>
      (namedTrades trades
        ((sellLimits orders position.optionSymbol).map IndexedLimit.orderId)).map fun byLimit =>
          (byStop.or byLimit).or (resolveByEvidence trades position)

/-- The price that a limit gives the position: an exit's falls back on the price that its trade holds. -/
def shownPrice (matched : Option KnownTrade) (limit : IndexedLimit) : Option ℚ :=
  if matched.any fun trade => trade.status = "exit_pending" then
    (limit.price.filter (· ≠ 0)).or (matched.bind KnownTrade.exitLimitPrice)
  else limit.price

/-- The working orders of the contract can be read in one way only. -/
structure OneReading (matched : Option KnownTrade) : Prop where
  trade : ∀ candidate ∈ candidateTrades trades orders position, candidate = matched
  /-- A stop for the whole position has no other stop beside it. -/
  stop : ∀ stop ∈ sellStops orders position.optionSymbol,
    stop.remainingQuantity = some position.quantity →
      ∀ other ∈ sellStops orders position.optionSymbol, other = stop
  limit : ∀ limit ∈ sellLimits orders position.optionSymbol,
    ∀ other ∈ sellLimits orders position.optionSymbol,
      other.orderId = limit.orderId ∧ shownPrice matched other = shownPrice matched limit

variable {trades orders position} {text : ℚ → String} {deployments : List ReconciledDeployment}
  {deployment deployment' : ReconciledDeployment} {matched matched' : Option KnownTrade}
  {stop stop' : Option IndexedStop} {limit limit' : Option IndexedLimit}

theorem mem_namedTrades {ι : Type} {id : ι → String} {xs : List ι} :
    matched ∈ namedTrades trades (xs.map id) ↔
      ∃ choice, Choosable xs choice ∧
        (choice.bind fun x => tradeByOrderId trades (id x)) = matched := by
  unfold namedTrades
  by_cases hnil : xs = []
  · subst hnil
    rw [List.map_nil, if_pos rfl, List.mem_singleton]
    constructor
    · intro hnone
      exact ⟨none, rfl, hnone.symm⟩
    · rintro ⟨choice, hchoice, hnamed⟩
      cases choice with
      | none => exact hnamed.symm
      | some x => exact absurd hchoice List.not_mem_nil
  · rw [if_neg (mt List.map_eq_nil_iff.mp hnil), List.map_map, List.mem_map]
    constructor
    · rintro ⟨x, hx, hnamed⟩
      exact ⟨some x, hx, hnamed⟩
    · rintro ⟨choice, hchoice, hnamed⟩
      cases choice with
      | none => exact absurd hchoice hnil
      | some x => exact ⟨x, hchoice, hnamed⟩

/-- The candidates are what the choices resolve to. -/
theorem mem_candidateTrades :
    matched ∈ candidateTrades trades orders position ↔
      ∃ stop limit, Choosable (sellStops orders position.optionSymbol) stop ∧
        Choosable (sellLimits orders position.optionSymbol) limit ∧
          resolveTrade trades stop limit position = matched := by
  unfold candidateTrades
  simp only [List.mem_flatMap, List.mem_map, mem_namedTrades]
  constructor
  · rintro ⟨byStop, ⟨stop, hstop, rfl⟩, byLimit, ⟨limit, hlimit, rfl⟩, hmatched⟩
    exact ⟨stop, limit, hstop, hlimit, hmatched⟩
  · rintro ⟨stop, limit, hstop, hlimit, hmatched⟩
    exact ⟨_, ⟨stop, hstop, rfl⟩, _, ⟨limit, hlimit, rfl⟩, hmatched⟩

theorem mem_of_only? {α : Type} {xs : List α} {x : α} (h : only? xs = some x) : x ∈ xs := by
  unfold only? at h
  split at h
  · exact List.mem_singleton.mpr (Option.some.inj h).symm
  · cases h

theorem mem_of_tradeByOrderId {orderId : String} {trade : KnownTrade}
    (h : tradeByOrderId trades orderId = some trade) : trade ∈ trades := by
  unfold tradeByOrderId at h
  split at h
  · cases h
  · exact List.mem_of_find?_eq_some h

theorem mem_of_resolveTrade {trade : KnownTrade}
    (h : resolveTrade trades stop limit position = some trade) : trade ∈ trades := by
  unfold resolveTrade at h
  rcases Option.or_eq_some_iff.mp h with horders | ⟨-, hevidence⟩
  · -- by the id of an order
    unfold resolveByOrders at horders
    rcases Option.or_eq_some_iff.mp horders with hstop | ⟨-, hlimit⟩
    · obtain ⟨s, -, hs⟩ := Option.bind_eq_some_iff.mp hstop
      exact mem_of_tradeByOrderId hs
    · obtain ⟨l, -, hl⟩ := Option.bind_eq_some_iff.mp hlimit
      exact mem_of_tradeByOrderId hl
  · -- by the broker's evidence: each step narrows the stored trades down
    unfold resolveByEvidence at hevidence
    rcases Option.or_eq_some_iff.mp hevidence with hopen | ⟨-, hmore⟩
    · exact List.mem_of_mem_filter (List.mem_of_mem_filter (List.mem_of_mem_filter (mem_of_only? hopen)))
    rcases Option.or_eq_some_iff.mp hmore with htime | ⟨-, hprice⟩
    · exact List.mem_of_mem_filter (List.mem_of_mem_filter (List.mem_of_mem_filter (mem_of_only? htime)))
    · have hpool := List.mem_of_mem_filter (mem_of_only? hprice)
      split at hpool
      · exact List.mem_of_mem_filter (List.mem_of_mem_filter hpool)
      · exact List.mem_of_mem_filter (List.mem_of_mem_filter (List.mem_of_mem_filter hpool))

theorem matchedSource_ne_recovered (trade : KnownTrade) : matchedSource trade ≠ "broker_recovered" := by
  unfold matchedSource
  split
  · split
    · decide
    · decide
  · decide

/-- A tracked position tells the trade that it was matched to. -/
theorem matched_eq_of_attach_eq
    (hids : ∀ a ∈ trades, ∀ b ∈ trades, a.tradeId = b.tradeId → a = b)
    (hmatched : ∀ trade ∈ matched, trade ∈ trades) (hmatched' : ∀ trade ∈ matched', trade ∈ trades)
    (h : attach text deployment matched stop limit position =
      attach text deployment' matched' stop' limit' position) : matched = matched' := by
  -- a matched position tells the id of its trade, and a recovered one has a source of its own
  have hsource := congrArg TrackedPosition.source h
  have hid := congrArg TrackedPosition.tradeId h
  cases matched with
  | none =>
    cases matched' with
    | none => rfl
    | some trade => exact absurd hsource.symm (matchedSource_ne_recovered trade)
  | some trade =>
    cases matched' with
    | none => exact absurd hsource (matchedSource_ne_recovered trade)
    | some trade' =>
      have hsame : trade.tradeId = trade'.tradeId := Option.some.inj hid
      rw [hids trade (hmatched trade rfl) trade' (hmatched' trade' rfl) hsame]

theorem stop_eq_of_attach_eq {s s' : IndexedStop}
    (hcovers : s.remainingQuantity = some position.quantity)
    (h : attach text deployment matched (some s) limit position =
      attach text deployment matched (some s') limit position) : s' = s := by
  have hid := congrArg TrackedPosition.stopOrderId h
  have hprice := congrArg TrackedPosition.stopPrice h
  unfold attach at hid hprice
  -- only a stop for the whole position is attached
  by_cases hcovers' : s'.remainingQuantity = some position.quantity
  · simp [Option.filter, hcovers, hcovers'] at hid hprice
    obtain ⟨id, price, remaining⟩ := s
    obtain ⟨id', price', remaining'⟩ := s'
    subst hid hprice
    rw [← hcovers'] at hcovers
    exact congrArg _ hcovers.symm
  · simp [Option.filter, hcovers, hcovers'] at hid

theorem limit_eq_of_attach_eq {l l' : IndexedLimit}
    (h : attach text deployment matched stop (some l) position =
      attach text deployment matched stop (some l') position) :
    l'.orderId = l.orderId ∧ shownPrice matched l' = shownPrice matched l := by
  have htarget := congrArg TrackedPosition.targetOrderId h
  have htargetPrice := congrArg TrackedPosition.targetPrice h
  have hexit := congrArg TrackedPosition.exitOrderId h
  have hexitPrice := congrArg TrackedPosition.exitLimitPrice h
  unfold attach at htarget htargetPrice hexit hexitPrice
  unfold shownPrice
  -- a limit is the exit of a trade that is exit_pending, and the target of any other
  by_cases hpending : matched.any fun trade => trade.status = "exit_pending"
  · simp only [hpending, if_true, Option.map_some, Option.bind_some, Option.some_or,
      Option.some.injEq] at hexit hexitPrice ⊢
    exact ⟨hexit.symm, hexitPrice.symm⟩
  · simp only [hpending, if_false, Option.map_some, Option.bind_some, Option.some.injEq,
      Bool.false_eq_true] at htarget htargetPrice ⊢
    exact ⟨htarget.symm, htargetPrice.symm⟩

theorem attach_congr_stop
    (h : (stop.filter fun s => s.remainingQuantity = some position.quantity) =
      stop'.filter fun s => s.remainingQuantity = some position.quantity) :
    attach text deployment matched stop limit position =
      attach text deployment matched stop' limit position := by
  unfold attach
  simp only [h]

theorem attach_congr_limit {l l' : IndexedLimit} (hid : l'.orderId = l.orderId)
    (hprice : shownPrice matched l' = shownPrice matched l) :
    attach text deployment matched stop (some l) position =
      attach text deployment matched stop (some l') position := by
  unfold shownPrice at hprice
  unfold attach
  by_cases hpending : matched.any fun trade => trade.status = "exit_pending"
  · simp only [hpending, if_true, Option.map_some, Option.bind_some, Option.some_or] at hprice ⊢
    rw [hid, hprice]
  · simp only [hpending, if_false, Option.map_some, Option.bind_some, Bool.false_eq_true] at hprice ⊢
    rw [hid, hprice]

/-- A position that is held is tracked under the owner of its trade. -/
theorem track_of_held (hoption : position.isOption = true) (hquantity : 0 < position.quantity)
    (hmatched : resolveTrade trades stop limit position = matched) :
    track text deployments trades stop limit position =
      (owner deployments position.optionSymbol matched).map fun deployment =>
        attach text deployment matched stop limit position := by
  unfold track
  dsimp only
  rw [if_pos ⟨hoption, hquantity⟩, hmatched]

theorem OneReading.attach_eq (h : OneReading trades orders position matched)
    (hstop : Choosable (sellStops orders position.optionSymbol) stop)
    (hstop' : Choosable (sellStops orders position.optionSymbol) stop')
    (hlimit : Choosable (sellLimits orders position.optionSymbol) limit)
    (hlimit' : Choosable (sellLimits orders position.optionSymbol) limit') :
    attach text deployment matched stop limit position =
      attach text deployment matched stop' limit' position := by
  have hstops : (stop.filter fun s => s.remainingQuantity = some position.quantity) =
      stop'.filter fun s => s.remainingQuantity = some position.quantity := by
    cases stop with
    | none =>
      cases stop' with
      | none => rfl
      | some s' => exact absurd (hstop ▸ hstop') List.not_mem_nil
    | some s =>
      cases stop' with
      | none => exact absurd (hstop' ▸ hstop) List.not_mem_nil
      | some s' =>
        by_cases hcovers : s.remainingQuantity = some position.quantity
        · rw [h.stop s hstop hcovers s' hstop']
        · by_cases hcovers' : s'.remainingQuantity = some position.quantity
          · rw [h.stop s' hstop' hcovers' s hstop]
          · simp [Option.filter, hcovers, hcovers']
  rw [attach_congr_stop hstops]
  cases limit with
  | none =>
    cases limit' with
    | none => rfl
    | some l' => exact absurd (hlimit ▸ hlimit') List.not_mem_nil
  | some l =>
    cases limit' with
    | none => exact absurd (hlimit' ▸ hlimit) List.not_mem_nil
    | some l' =>
      obtain ⟨hid, hprice⟩ := h.limit l hlimit l' hlimit'
      exact attach_congr_limit hid hprice

/-- What a choice leaves open is told by the orders themselves: the trades that their ids resolve to, their
quantities against the position's, their ids and their prices. -/
theorem choiceFree_iff (hids : ∀ a ∈ trades, ∀ b ∈ trades, a.tradeId = b.tradeId → a = b)
    (hoption : position.isOption = true) (hquantity : 0 < position.quantity) :
    ChoiceFree text deployments trades orders position ↔
      (∀ candidate ∈ candidateTrades trades orders position,
        owner deployments position.optionSymbol candidate = none) ∨
      ∃ matched, OneReading trades orders position matched := by
  constructor
  · intro hfree
    by_cases hunowned : ∀ candidate ∈ candidateTrades trades orders position,
        owner deployments position.optionSymbol candidate = none
    · exact .inl hunowned
    right
    push Not at hunowned
    obtain ⟨matched, hmatched, howned⟩ := hunowned
    obtain ⟨deployment, howner⟩ := Option.ne_none_iff_exists'.mp howned
    obtain ⟨stop, limit, hstop, hlimit, hresolved⟩ := mem_candidateTrades.mp hmatched
    have hstored {m : Option KnownTrade} {s : Option IndexedStop} {l : Option IndexedLimit}
        (h : resolveTrade trades s l position = m) : ∀ trade ∈ m, trade ∈ trades := by
      intro trade htrade
      rw [Option.mem_def.mp htrade] at h
      exact mem_of_resolveTrade h
    have htracked : track text deployments trades stop limit position =
        some (attach text deployment matched stop limit position) := by
      rw [track_of_held hoption hquantity hresolved, howner, Option.map_some]
    -- every choice comes to this position, so that the trade behind it is this trade
    have hone : ∀ candidate ∈ candidateTrades trades orders position, candidate = matched := by
      intro candidate hcandidate
      obtain ⟨stop', limit', hstop', hlimit', hresolved'⟩ := mem_candidateTrades.mp hcandidate
      have hsame := hfree stop' stop limit' limit hstop' hstop hlimit' hlimit
      rw [htracked, track_of_held hoption hquantity hresolved'] at hsame
      obtain ⟨deployment', -, hattach⟩ := Option.map_eq_some_iff.mp hsame
      exact matched_eq_of_attach_eq hids (hstored hresolved') (hstored hresolved) hattach
    have hattached {s : Option IndexedStop} {l : Option IndexedLimit}
        (hs : Choosable (sellStops orders position.optionSymbol) s)
        (hl : Choosable (sellLimits orders position.optionSymbol) l) :
        attach text deployment matched s l position =
          attach text deployment matched stop limit position := by
      have hresolved' : resolveTrade trades s l position = matched :=
        hone _ (mem_candidateTrades.mpr ⟨s, l, hs, hl, rfl⟩)
      have hsame := hfree s stop l limit hs hstop hl hlimit
      rw [htracked, track_of_held hoption hquantity hresolved', howner, Option.map_some] at hsame
      exact Option.some.inj hsame
    refine ⟨matched, hone, ?_, ?_⟩
    · intro s hs hcovers s' hs'
      apply stop_eq_of_attach_eq hcovers
      have hread : Choosable (sellStops orders position.optionSymbol) (some s) := hs
      have hread' : Choosable (sellStops orders position.optionSymbol) (some s') := hs'
      exact (hattached hread hlimit).trans (hattached hread' hlimit).symm
    · intro l hl l' hl'
      apply limit_eq_of_attach_eq
      have hread : Choosable (sellLimits orders position.optionSymbol) (some l) := hl
      have hread' : Choosable (sellLimits orders position.optionSymbol) (some l') := hl'
      exact (hattached hstop hread).trans (hattached hstop hread').symm
  · intro hreading stop stop' limit limit' hstop hstop' hlimit hlimit'
    have hcandidate {s : Option IndexedStop} {l : Option IndexedLimit}
        (hs : Choosable (sellStops orders position.optionSymbol) s)
        (hl : Choosable (sellLimits orders position.optionSymbol) l) :
        resolveTrade trades s l position ∈ candidateTrades trades orders position :=
      mem_candidateTrades.mpr ⟨s, l, hs, hl, rfl⟩
    rcases hreading with hunowned | ⟨matched, hone⟩
    · -- whichever trade it is matched to, nobody owns the position
      rw [track_of_held hoption hquantity rfl, track_of_held hoption hquantity rfl,
        hunowned _ (hcandidate hstop hlimit), hunowned _ (hcandidate hstop' hlimit')]
      rfl
    · -- both choices come to the same trade, and with it to the same owner
      rw [track_of_held hoption hquantity (hone.trade _ (hcandidate hstop hlimit)),
        track_of_held hoption hquantity (hone.trade _ (hcandidate hstop' hlimit'))]
      apply congrArg (Option.map · (owner deployments position.optionSymbol matched))
      funext deployment
      exact hone.attach_eq hstop hstop' hlimit hlimit'

end Readings

/-- Reconciliation is the same for every order of the list just when, for each held contract, no
deployment may own the position whichever trade the orders match it to, or the orders can be read in one
way only. A trade id names one row of the trades table. -/
theorem reconcile_order_independent_iff (text : ℚ → String)
    (deployments : List ReconciledDeployment) (trades : List KnownTrade)
    (positions : List BrokerPosition) (orders : List ListedOrder)
    (hids : ∀ a ∈ trades, ∀ b ∈ trades, a.tradeId = b.tradeId → a = b) :
    (∀ orders' : List ListedOrder, orders'.Perm orders →
      reconcilePublicPositions text deployments trades positions orders' =
        reconcilePublicPositions text deployments trades positions orders) ↔
      ∀ position ∈ positions, position.isOption = true → 0 < position.quantity →
        (∀ candidate ∈ candidateTrades trades orders position,
          owner deployments position.optionSymbol candidate = none) ∨
        ∃ matched, OneReading trades orders position matched := by
  rw [reconcile_same_iff_choiceFree]
  constructor
  · intro hfree position hposition hoption hquantity
    exact (choiceFree_iff hids hoption hquantity).mp (hfree position hposition)
  · intro hreading position hposition
    by_cases hheld : position.isOption = true ∧ 0 < position.quantity
    · exact (choiceFree_iff hids hheld.1 hheld.2).mpr (hreading position hposition hheld.1 hheld.2)
    · -- what is not held is not tracked
      intro stop stop' limit limit' _ _ _ _
      unfold track
      dsimp only
      rw [if_neg hheld, if_neg hheld]

namespace TwoStops

def deployment : ReconciledDeployment := ⟨"d1", "SPY", false⟩

def position : BrokerPosition where
  optionSymbol := "SPY260116C00600000"
  quantity := 2

def stop (orderId : String) (status : PublicStatus) (quantity : ℚ) : ListedOrder where
  status := some status
  contract := "SPY260116C00600000"
  side := some .sell
  orderType := some .stop
  quantity := .value quantity
  stopPrice := .value 1
  orderId := some orderId

/-- The stop of the position next to an older one for another quantity that is being cancelled. -/
def orders : List ListedOrder := [stop "old" .pendingCancel 1, stop "new" .new 2]

/-- A row of the trades table for each of the stops. -/
def trade (tradeId stopOrderId : String) : KnownTrade where
  tradeId := tradeId
  deploymentId := "d1"
  optionSymbol := some "SPY260116C00600000"
  status := "open"
  stopOrderId := some stopOrderId

def trades : List KnownTrade := [trade "t1" "old", trade "t2" "new"]

end TwoStops

theorem reconcile_order_independent_iff_two_stops :
    (∀ orders' : List ListedOrder, orders'.Perm TwoStops.orders →
      reconcilePublicPositions (fun _ => "") [TwoStops.deployment] TwoStops.trades
          [TwoStops.position] orders' =
        reconcilePublicPositions (fun _ => "") [TwoStops.deployment] TwoStops.trades
          [TwoStops.position] TwoStops.orders) ↔
      ∀ position ∈ [TwoStops.position], position.isOption = true → 0 < position.quantity →
        (∀ candidate ∈ candidateTrades TwoStops.trades TwoStops.orders position,
          owner [TwoStops.deployment] position.optionSymbol candidate = none) ∨
        ∃ matched, OneReading TwoStops.trades TwoStops.orders position matched :=
  reconcile_order_independent_iff (fun _ => "") [TwoStops.deployment] TwoStops.trades
    [TwoStops.position] TwoStops.orders (by decide +kernel)

/-- Listed last, the stop that is being cancelled hides the one that protects the position. -/
theorem reconcile_depends_on_order : ¬∀ orders' : List ListedOrder,
    orders'.Perm TwoStops.orders →
      reconcilePublicPositions (fun _ => "") [TwoStops.deployment] [] [TwoStops.position] orders' =
        reconcilePublicPositions (fun _ => "") [TwoStops.deployment] [] [TwoStops.position]
          TwoStops.orders := by
  intro hsame
  have hswap := hsame [TwoStops.stop "new" .new 2, TwoStops.stop "old" .pendingCancel 1]
    (List.Perm.swap _ _ [])
  revert hswap
  decide +kernel

end Bhiksha.Live
