import Bhiksha.Execution.StopRatchet
import Bhiksha.Persistence.IntentSpec
import Bhiksha.Persistence.RuntimeSpec
import Bhiksha.Library.History
import Bhiksha.Library.Stateful

/-! The handoff of a stop is crash-safe: whenever the process dies and however often it recovers, the
prior stop, the replacement and the restored stop are never at stake together. -/

namespace Bhiksha.Live

open Library Std.Do

set_option mvcgen.warning false

section Facts

variable {σ : Type}

/-- An assertion about the venue and the history, which the desk's records have no part in. -/
structure Framed (K : World σ → Prop) : Prop extends Steady K where
  store : ∀ w s, K w → K { w with store := s }

/-- A fact that nothing the desk does takes back. -/
structure Permanent (K : World σ → Prop) : Prop extends Lasting K where
  store : ∀ w s, K w → K { w with store := s }
  ask : ∀ w orderId quantity verdict, K w → K (w.ask orderId quantity verdict)
  settle : ∀ w key, K w → K (w.note (.settled key))

theorem Permanent.framed {K : World σ → Prop} (hK : Permanent K) : Framed K :=
  ⟨hK.toSteady, hK.store⟩

theorem Framed.and {K L : World σ → Prop} (hK : Framed K) (hL : Framed L) :
    Framed fun w => K w ∧ L w :=
  ⟨hK.toSteady.and hL.toSteady, fun w s h => ⟨hK.store w s h.1, hL.store w s h.2⟩⟩

theorem Permanent.and {K L : World σ → Prop} (hK : Permanent K) (hL : Permanent L) :
    Permanent fun w => K w ∧ L w :=
  ⟨hK.toLasting.and hL.toLasting, fun w s h => ⟨hK.store w s h.1, hL.store w s h.2⟩,
    fun w o q v h => ⟨hK.ask w o q v h.1, hL.ask w o q v h.2⟩,
    fun w k h => ⟨hK.settle w k h.1, hL.settle w k h.2⟩⟩

theorem permanent_const (p : Prop) : Permanent fun _ : World σ => p :=
  ⟨lasting_const p, fun _ _ h => h, fun _ _ _ _ h => h, fun _ _ h => h⟩

theorem permanent_imp {p : Prop} {K : World σ → Prop} (hK : Permanent K) :
    Permanent fun w => p → K w :=
  ⟨lasting_imp hK.toLasting, fun w s h hp => hK.store w s (h hp),
    fun w o q v h hp => hK.ask w o q v (h hp), fun w k h hp => hK.settle w k (h hp)⟩

theorem permanent_provedDead (orderId : String) :
    Permanent fun w : World σ => w.ProvedDead orderId where
  toLasting := lasting_provedDead orderId
  store _ _ h := ⟨h.1, h.2⟩
  ask w _ quantity verdict h := by
    obtain ⟨o, ho, ha, hf⟩ := h.cutShort
    obtain ⟨p, hp, hd⟩ := h.shown
    exact ⟨⟨o, OrderBook.order_request _ _ ho, ha, hf⟩, p, List.mem_cons_of_mem _ hp, hd⟩
  settle _ _ h := by
    obtain ⟨p, hp, hd⟩ := h.shown
    exact ⟨h.cutShort, p, List.mem_cons_of_mem _ hp, hd⟩

/-- Nothing was sent under the identity, and nothing that was sent is on its way. -/
structure World.Quiet (w : World σ) (orderId : String) : Prop where
  unasked : w.book.Unasked orderId
  never : ∀ quantity, .asked orderId quantity ∉ w.log

/-- Every request under the identity was for at most one contract. -/
structure World.AtMostOne (w : World σ) (orderId : String) : Prop where
  order : ∀ o, w.book.orders orderId = some o → o.quantity ≤ 1
  inFlight : ∀ q, w.book.inFlight orderId = some q → q ≤ 1

theorem lasting_quiet (orderId : String) : Lasting fun w : World σ => w.Quiet orderId where
  moves _ ms _ h := ⟨OrderBook.unasked_moves ms h.unasked, h.never⟩
  read _ _ _ _ h := ⟨h.unasked, fun quantity hmem => by
    rcases List.mem_cons.mp hmem with heq | hold
    · cases heq
    · exact h.never quantity hold⟩

theorem atMostOne_move {b : OrderBook String} {orderId : String}
    (h : (∀ o, b.orders orderId = some o → o.quantity ≤ 1) ∧
      ∀ q, b.inFlight orderId = some q → q ≤ 1) (m : VenueMove String) :
    (∀ o, (b.move m).orders orderId = some o → o.quantity ≤ 1) ∧
      ∀ q, (b.move m).inFlight orderId = some q → q ≤ 1 := by
  -- a write at the identity keeps the quantity or takes it from the request on its way
  have hput : ∀ i p, (i = orderId → p.quantity ≤ 1) →
      (∀ o, (b.put i p).orders orderId = some o → o.quantity ≤ 1) ∧
        ∀ q, (b.put i p).inFlight orderId = some q → q ≤ 1 := by
    intro i p hp
    refine ⟨fun o ho => ?_, h.2⟩
    by_cases hi : orderId = i
    · subst hi
      rw [OrderBook.put_orders_self] at ho
      obtain rfl := Option.some.inj ho
      exact hp rfl
    · rw [OrderBook.put_orders_of_ne hi] at ho
      exact h.1 o ho
  rcases b.move_cases m with hm | ⟨i, o, n, ho, hm⟩ | ⟨i, o, ho, hm⟩ | ⟨i, q, alive, -, hq, hm⟩
  · rwa [hm]
  · rw [hm]
    exact hput i _ fun hi => h.1 o (hi ▸ ho)
  · rw [hm]
    exact hput i _ fun hi => h.1 o (hi ▸ ho)
  · rw [hm]
    exact hput i _ fun hi => h.2 q (hi ▸ hq)

theorem lasting_atMostOne (orderId : String) : Lasting fun w : World σ => w.AtMostOne orderId where
  moves w ms _ h := by
    obtain ⟨ho, hq⟩ := OrderBook.moves_induction
      (P := fun b => (∀ o, b.orders orderId = some o → o.quantity ≤ 1) ∧
        ∀ q, b.inFlight orderId = some q → q ≤ 1) ms (fun _ m hb => atMostOne_move hb m)
      ⟨h.order, h.inFlight⟩
    exact ⟨ho, hq⟩
  read _ _ _ _ h := ⟨h.order, h.inFlight⟩

theorem atMostOne_ask {w : World σ} {orderId : String} (h : w.AtMostOne orderId) (asked : String)
    (verdict : Verdict) : (w.ask asked 1 verdict).AtMostOne orderId := by
  by_cases hid : orderId = asked
  · subst hid
    cases ho : w.book.orders orderId with
    | some o =>
      have hsame := OrderBook.request_of_known (1 : ℤ).toNat verdict ho
      exact ⟨fun p hp => h.order p (by rwa [World.ask, hsame] at hp),
        fun q hq => h.inFlight q (by rwa [World.ask, hsame] at hq)⟩
    | none =>
      constructor
      · intro p hp
        cases verdict <;> simp [World.ask, OrderBook.request, ho, VenueOrder.opened] at hp
        rw [← hp]
      · intro q hq
        cases verdict with
        | lost =>
          -- the larger of the request on its way and this one
          have hq' : max 1 ((w.book.inFlight orderId).getD 0) = q := by
            simpa [World.ask, OrderBook.request, ho] using hq
          have hpending : (w.book.inFlight orderId).getD 0 ≤ 1 := by
            cases hflight : w.book.inFlight orderId with
            | none => simp
            | some n => simpa [hflight] using h.inFlight n hflight
          omega
        | accepted => exact h.inFlight q (by simpa [World.ask, OrderBook.request, ho] using hq)
        | refused => exact h.inFlight q (by simpa [World.ask, OrderBook.request, ho] using hq)
  · refine ⟨fun p hp => h.order p ?_, fun q hq => h.inFlight q ?_⟩
    · rwa [World.ask, OrderBook.request_orders_of_ne _ _ hid] at hp
    · rwa [World.ask, OrderBook.request_inFlight_of_ne _ _ hid] at hq

/-- An order for one contract that is cut short was not executed at all. -/
theorem exposure_of_cutShort {w : World σ} {orderId : String} (h : w.CutShort orderId)
    (hone : ∀ o, w.book.orders orderId = some o → o.quantity ≤ 1) : w.book.exposure orderId = 0 := by
  obtain ⟨o, ho, ha, hf⟩ := h
  have hq := hone o ho
  have hexecuted : o.filled = 0 := by omega
  rw [OrderBook.exposure_of_order ho]
  simp [VenueOrder.exposure, ha, hexecuted]

end Facts

section Invariant

/-- A status read in the history has shown the order dead with nothing executed. -/
def ShownDead (orderId : String) (log : List DeskEvent) : Prop :=
  ∃ p : OrderPayload, .read orderId (.payload p) ∈ log ∧ p.ShowsDeadUnfilled

/-- The three stops of one handoff, by their order ids. -/
structure HandoffIds where
  prior : String
  replacement : String
  restore : String

variable (ids : HandoffIds)

/-- What an intent may be settled on: the last read shows the replacement or the restored stop working
for the whole contract, or a stop of the three executed, or all three were shown dead. -/
def SettledOn (log : List DeskEvent) : Prop :=
  (∃ orderId p optionSymbol stopPrice,
      log.head? = some (.read orderId (.payload p)) ∧
        (((orderId = ids.replacement ∨ orderId = ids.restore) ∧
            p.stopOutcome optionSymbol 1 stopPrice = .working) ∨
          ((orderId = ids.prior ∨ orderId = ids.replacement ∨ orderId = ids.restore) ∧
            (p.stopOutcome optionSymbol 1 stopPrice).isFill = true))) ∨
    (ShownDead ids.prior log ∧ ShownDead ids.replacement log ∧ ShownDead ids.restore log)

/-- The replacement is asked for once the prior stop is shown dead, the restored stop once the
replacement is, and the intent is settled on proof. -/
def HandoffGrounds : DeskEvent → List DeskEvent → Prop
  | .asked orderId _, earlier =>
    (orderId = ids.replacement → ShownDead ids.prior earlier) ∧
      (orderId = ids.restore → ShownDead ids.replacement earlier)
  | .settled key, earlier => key = ids.replacement → SettledOn ids earlier
  | .read _ _, _ => True

/-- What is proved by the time that the handoff has come to a stage. -/
structure StageProved (stage : String) (w : World RatchetStore) : Prop where
  prior : stage ∉ ["prepared", "prior_stop_cancel_pending"] → w.ProvedDead ids.prior
  replacement : stage ∈ ["restore_submit_pending", "restore_submitted"] →
    w.ProvedDead ids.replacement

/-- The row of the intent fits the handoff. -/
structure RowFits (row : ExitActionIntent) (w : World RatchetStore) : Prop where
  prior : row.priorStopOrderId = some ids.prior
  quantity : row.requestedQuantity = some 1
  bound : ∀ o, row.brokerOrderId = some o → o = ids.replacement ∧ w.ProvedDead ids.prior
  restoreBound : ∀ o, row.restoreOrderId = some o → o = ids.restore
  named : row.handoffStage ≠ ""
  stage : StageProved ids row.handoffStage w

structure HandoffInv (w : World RatchetStore) : Prop where
  priorOne : w.AtMostOne ids.prior
  replacementOne : w.AtMostOne ids.replacement
  restoreOne : w.AtMostOne ids.restore
  replacementAsked : w.Quiet ids.replacement ∨ w.ProvedDead ids.prior
  restoreAsked : w.Quiet ids.restore ∨ (w.ProvedDead ids.prior ∧ w.ProvedDead ids.replacement)
  row : ∀ row, w.store.db.intents.get? ids.replacement = some row → RowFits ids row w
  settled : ∀ row, w.store.db.intents.get? ids.replacement = some row → row.status.IsTerminal →
    .settled ids.replacement ∈ w.log
  history : Justified (HandoffGrounds ids) w.log

variable {ids}

theorem permanent_stageProved (ids : HandoffIds) (stage : String) :
    Permanent (StageProved ids stage) := by
  have hprior : Permanent fun w : World RatchetStore => w.ProvedDead ids.prior :=
    permanent_provedDead _
  have hreplacement : Permanent fun w : World RatchetStore => w.ProvedDead ids.replacement :=
    permanent_provedDead _
  have hboth := (permanent_imp (p := stage ∉ ["prepared", "prior_stop_cancel_pending"]) hprior).and
    (permanent_imp (p := stage ∈ ["restore_submit_pending", "restore_submitted"]) hreplacement)
  have hiff : StageProved ids stage = fun w =>
      (stage ∉ ["prepared", "prior_stop_cancel_pending"] → w.ProvedDead ids.prior) ∧
        (stage ∈ ["restore_submit_pending", "restore_submitted"] →
          w.ProvedDead ids.replacement) := by
    funext w
    exact propext ⟨fun h => ⟨h.1, h.2⟩, fun h => ⟨h.1, h.2⟩⟩
  rwa [hiff]

theorem permanent_rowFits (row : ExitActionIntent) : Permanent (RowFits ids row) := by
  have hprior : Permanent fun w : World RatchetStore => w.ProvedDead ids.prior :=
    permanent_provedDead _
  have hstage := permanent_stageProved ids row.handoffStage
  constructor
  · constructor
    · exact ⟨fun w ms beats h => { h with
        bound := fun o ho => ⟨(h.bound o ho).1, hprior.moves w ms beats (h.bound o ho).2⟩
        stage := hstage.moves w ms beats h.stage }⟩
    · exact fun w o r ht h => { h with
        bound := fun o' ho => ⟨(h.bound o' ho).1, hprior.read w o r ht (h.bound o' ho).2⟩
        stage := hstage.read w o r ht h.stage }
  · exact fun w s h => { h with
      bound := fun o ho => ⟨(h.bound o ho).1, hprior.store w s (h.bound o ho).2⟩
      stage := hstage.store w s h.stage }
  · exact fun w o q v h => { h with
      bound := fun o' ho => ⟨(h.bound o' ho).1, hprior.ask w o q v (h.bound o' ho).2⟩
      stage := hstage.ask w o q v h.stage }
  · exact fun w k h => { h with
      bound := fun o ho => ⟨(h.bound o ho).1, hprior.settle w k (h.bound o ho).2⟩
      stage := hstage.settle w k h.stage }

theorem lasting_handoffInv (ids : HandoffIds) : Lasting (HandoffInv ids) where
  moves w ms beats h := {
      priorOne := (lasting_atMostOne _).moves w ms beats h.priorOne
      replacementOne := (lasting_atMostOne _).moves w ms beats h.replacementOne
      restoreOne := (lasting_atMostOne _).moves w ms beats h.restoreOne
      replacementAsked := ((lasting_quiet _).or (lasting_provedDead _)).moves w ms beats
        h.replacementAsked
      restoreAsked := ((lasting_quiet _).or ((lasting_provedDead _).and
        (lasting_provedDead _))).moves w ms beats h.restoreAsked
      row := fun row hrow => (permanent_rowFits row).moves w ms beats (h.row row hrow)
      settled := h.settled
      history := h.history }
  read w orderId readback ht h := {
      priorOne := (lasting_atMostOne _).read w orderId readback ht h.priorOne
      replacementOne := (lasting_atMostOne _).read w orderId readback ht h.replacementOne
      restoreOne := (lasting_atMostOne _).read w orderId readback ht h.restoreOne
      replacementAsked := ((lasting_quiet _).or (lasting_provedDead _)).read w orderId readback ht
        h.replacementAsked
      restoreAsked := ((lasting_quiet _).or ((lasting_provedDead _).and
        (lasting_provedDead _))).read w orderId readback ht h.restoreAsked
      row := fun row hrow => (permanent_rowFits row).read w orderId readback ht (h.row row hrow)
      settled := fun row hrow hterm => List.mem_cons_of_mem _ (h.settled row hrow hterm)
      history := h.history.cons trivial }

/-- A change of the records that leaves the intent's row alone or fits it to the handoff. -/
theorem HandoffInv.store {w : World RatchetStore} (h : HandoffInv ids w) (s : RatchetStore)
    (hrow : ∀ row, s.db.intents.get? ids.replacement = some row →
      RowFits ids row w ∧ (row.status.IsTerminal → .settled ids.replacement ∈ w.log)) :
    HandoffInv ids { w with store := s } where
  priorOne := ⟨h.priorOne.order, h.priorOne.inFlight⟩
  replacementOne := ⟨h.replacementOne.order, h.replacementOne.inFlight⟩
  restoreOne := ⟨h.restoreOne.order, h.restoreOne.inFlight⟩
  replacementAsked := h.replacementAsked.imp (fun hq => ⟨hq.1, hq.2⟩) fun hd => ⟨hd.1, hd.2⟩
  restoreAsked := h.restoreAsked.imp (fun hq => ⟨hq.1, hq.2⟩) fun hd =>
    ⟨⟨hd.1.1, hd.1.2⟩, hd.2.1, hd.2.2⟩
  row row hr := (permanent_rowFits row).store w s (hrow row hr).1
  settled row hr := (hrow row hr).2
  history := h.history

/-- Changes elsewhere in the records. -/
theorem HandoffInv.store_same {w : World RatchetStore} (h : HandoffInv ids w) (s : RatchetStore)
    (hsame : s.db.intents = w.store.db.intents) : HandoffInv ids { w with store := s } := by
  refine h.store s fun row hrow => ?_
  rw [hsame] at hrow
  exact ⟨h.row row hrow, h.settled row hrow⟩

section Asking

variable {w : World RatchetStore} {orderId : String} {verdict : Verdict}

theorem quiet_ask_of_ne {other : String} (h : w.Quiet other) (hne : other ≠ orderId)
    (verdict : Verdict) : (w.ask orderId 1 verdict).Quiet other where
  unasked := OrderBook.unasked_request_of_ne _ _ h.unasked hne
  never quantity hmem := by
    rcases List.mem_cons.mp hmem with heq | hold
    · cases heq
      exact hne rfl
    · exact h.never quantity hold

/-- A request is within the invariant when its grounds are proved. -/
theorem HandoffInv.ask (h : HandoffInv ids w) (hids : ids.replacement ≠ ids.restore)
    (hprior : w.ProvedDead ids.prior)
    (hask : orderId = ids.replacement ∨ (orderId = ids.restore ∧ w.ProvedDead ids.replacement)) :
    HandoffInv ids (w.ask orderId 1 verdict) := by
  have hpriorKept := (permanent_provedDead ids.prior).ask w orderId 1 verdict hprior
  refine {
    priorOne := atMostOne_ask h.priorOne _ _
    replacementOne := atMostOne_ask h.replacementOne _ _
    restoreOne := atMostOne_ask h.restoreOne _ _
    replacementAsked := .inr hpriorKept
    restoreAsked := ?_
    row := fun row hrow => (permanent_rowFits row).ask w orderId 1 verdict (h.row row hrow)
    settled := fun row hrow hterm => List.mem_cons_of_mem _ (h.settled row hrow hterm)
    history := ?_ }
  · rcases hask with rfl | ⟨-, hdead⟩
    · -- the restored stop is not touched by a request for the replacement
      refine h.restoreAsked.imp (fun hquiet => quiet_ask_of_ne hquiet hids.symm verdict) ?_
      exact fun hd => ⟨hpriorKept, (permanent_provedDead _).ask w _ 1 verdict hd.2⟩
    · exact .inr ⟨hpriorKept, (permanent_provedDead _).ask w orderId 1 verdict hdead⟩
  · refine h.history.cons ⟨fun _ => hprior.shown, fun hid => ?_⟩
    rcases hask with hrep | ⟨-, hdead⟩
    · exact absurd (hrep.symm.trans hid) hids
    · exact hdead.shown

theorem HandoffInv.settle (h : HandoffInv ids w) (hon : SettledOn ids w.log) :
    HandoffInv ids (w.note (.settled ids.replacement)) where
  priorOne := ⟨h.priorOne.order, h.priorOne.inFlight⟩
  replacementOne := ⟨h.replacementOne.order, h.replacementOne.inFlight⟩
  restoreOne := ⟨h.restoreOne.order, h.restoreOne.inFlight⟩
  replacementAsked := h.replacementAsked.imp
    (fun hq => ⟨hq.unasked, fun quantity hmem => hq.never quantity (by simpa [World.note] using hmem)⟩)
    ((permanent_provedDead _).settle w _)
  restoreAsked := h.restoreAsked.imp
    (fun hq => ⟨hq.unasked, fun quantity hmem => hq.never quantity (by simpa [World.note] using hmem)⟩)
    (((permanent_provedDead _).and (permanent_provedDead _)).settle w _)
  row row hrow := (permanent_rowFits row).settle w _ (h.row row hrow)
  settled _ _ _ := List.mem_cons_self
  history := h.history.cons fun _ => hon

end Asking

end Invariant

section Records

variable {V : Type} {ids : HandoffIds} {K : World RatchetStore → Prop}

/-- A transaction, given what it does to the tables when it goes through and when it raises. -/
theorem commit_spec (tx : String → Tx PyException ExitDb Unit)
    {J : World RatchetStore → Prop} (hI : Steady J) {P Q : World RatchetStore → Prop}
    (hok : ∀ w now db, J w → Tx.run (tx now) w.store.db = (.ok (), db) →
      P { w with store := { w.store with db := db } })
    (herror : ∀ w now e db, J w → Tx.run (tx now) w.store.db = (.error e, db) →
      Q { w with store := { w.store with db := db } })
    (hdied : ∀ w, J w → Q w) :
    ⦃fun w => ⌜J w⌝⦄ commit tx ⦃post⟨fun _ w => ⌜P w⌝, fun _ w => ⌜Q w⌝⟩⦄ := by
  have hbeat := nextBeat_spec hI
  mvcgen [commit, hbeat]
  · rename_i beat w hw hresult
    exact hok w beat.now _ hw (Prod.ext hresult rfl)
  · rename_i beat w hw e hresult
    exact herror w beat.now e _ hw (Prod.ext hresult rfl)
  · exact hdied _

theorem transition_intents (state : ExitRuntimeState) (v : ℤ) (now : String) (db : ExitDb) :
    (Tx.run (transitionRuntimeStateSync state v now) db).2.intents = db.intents := by
  rcases hrun : Tx.run (transitionRuntimeStateSync state v now) db with ⟨e | u, db'⟩
  · have hsame := transitionRuntimeStateSync_error (congrArg Prod.fst hrun)
    rw [hrun] at hsame
    exact congrArg ExitDb.intents hsame
  · obtain ⟨current, ht⟩ := transitionRuntimeStateSync_ok hrun
    exact ht.intents

/-- A step of the records that has no part in the intents. -/
theorem transition_spec (ids : HandoffIds) (hK : Framed K) (state : ExitRuntimeState) (v : ℤ) :
    ⦃fun w => ⌜HandoffInv ids w ∧ K w⌝⦄ commit (transitionRuntimeStateSync state v)
    ⦃post⟨fun _ w => ⌜HandoffInv ids w ∧ K w⌝, fun _ w => ⌜HandoffInv ids w⌝⟩⦄ := by
  have hintents : ∀ (w : World RatchetStore) (now : String) (r : Except PyException Unit)
      (db : ExitDb), Tx.run (transitionRuntimeStateSync state v now) w.store.db = (r, db) →
      db.intents = w.store.db.intents := by
    intro w now r db hrun
    have h := transition_intents state v now w.store.db
    rwa [hrun] at h
  apply commit_spec _ ((lasting_handoffInv ids).toSteady.and hK.toSteady)
  · intro w now db h hrun
    exact ⟨h.1.store_same _ (hintents w now _ db hrun), hK.store w _ h.2⟩
  · intro w now e db h hrun
    exact h.1.store_same _ (hintents w now _ db hrun)
  · exact fun w h => h.1

/-- A row update that goes through leaves a row that fits; one that raises changes nothing. -/
theorem rowUpdate_spec (hK : Framed K) {tx : String → Tx PyException ExitDb Unit}
    (hok : ∀ w now db, HandoffInv ids w → K w → Tx.run (tx now) w.store.db = (.ok (), db) →
      ∀ row, db.intents.get? ids.replacement = some row →
        RowFits ids row w ∧ (row.status.IsTerminal → .settled ids.replacement ∈ w.log))
    (herror : ∀ now d e db, Tx.run (tx now) d = (.error e, db) → db = d) :
    ⦃fun w => ⌜HandoffInv ids w ∧ K w⌝⦄ commit tx
    ⦃post⟨fun _ w => ⌜HandoffInv ids w ∧ K w⌝, fun _ w => ⌜HandoffInv ids w⌝⟩⦄ := by
  apply commit_spec _ ((lasting_handoffInv ids).toSteady.and hK.toSteady)
  · intro w now db h hrun
    exact ⟨h.1.store _ (hok w now db h.1 h.2 hrun), hK.store w _ h.2⟩
  · intro w now e db h hrun
    obtain rfl := herror now _ e db hrun
    exact h.1.store_same _ rfl
  · exact fun w h => h.1

theorem updateActionHandoff_spec (ctx : RatchetContext V) (stage : String)
    (restore : Option String) (payload : Option (JsonObject V)) (hK : Framed K) {key : String}
    (hkey : key = ids.replacement) (hnamed : stage ≠ "")
    (hstage : ∀ w, K w → StageProved ids stage w)
    (hrestore : ∀ o, restore = some o → o = ids.restore) :
    ⦃fun w => ⌜HandoffInv ids w ∧ K w⌝⦄ updateActionHandoff ctx key stage restore payload
    ⦃post⟨fun _ w => ⌜HandoffInv ids w ∧ K w⌝, fun _ w => ⌜HandoffInv ids w⌝⟩⦄ := by
  subst hkey
  apply rowUpdate_spec hK
  · intro w now db h hk hrun row hrow
    obtain ⟨old, hold, hopen, rfl⟩ := updateActionHandoffSync_ok hrun
    have hnew := (get?_updateIntent _ w.store.db ids.replacement).symm.trans hrow
    rw [if_pos rfl, hold] at hnew
    obtain rfl := Option.some.inj hnew
    have hfits := h.row old hold
    refine ⟨{ hfits with
      restoreBound := fun o ho => ?_
      named := hnamed
      stage := hstage w hk }, fun hterm => absurd hterm hopen⟩
    -- the new restore identity where one is given, else the old one
    cases hr : restore with
    | none => exact hfits.restoreBound o (by simpa [ExitActionIntent.advanceHandoff, hr] using ho)
    | some r =>
      have hro : r = o := by simpa [ExitActionIntent.advanceHandoff, hr] using ho
      exact hro ▸ hrestore r hr
  · intro now d e db hrun
    have hsame := updateActionHandoffSync_error (congrArg Prod.fst hrun)
    rwa [hrun] at hsame

theorem bindActionOrder_spec (ctx : RatchetContext V) (hK : Framed K) {key : String}
    (hkey : key = ids.replacement)
    (hprior : ∀ w, K w → w.ProvedDead ids.prior) (orderId : String) :
    ⦃fun w => ⌜HandoffInv ids w ∧ orderId = ids.replacement ∧ K w⌝⦄ bindActionOrder ctx key orderId
    ⦃post⟨fun _ w => ⌜HandoffInv ids w ∧ orderId = ids.replacement ∧ K w⌝,
      fun _ w => ⌜HandoffInv ids w⌝⟩⦄ := by
  subst hkey
  apply rowUpdate_spec ((permanent_const _).framed.and hK)
  · rintro w now db h ⟨hid, hk⟩ hrun row hrow
    obtain ⟨old, hold, hopen, -, rfl⟩ := bindActionOrderSync_ok hrun
    have hnew := (get?_updateIntent _ w.store.db ids.replacement).symm.trans hrow
    rw [if_pos rfl, hold] at hnew
    obtain rfl := Option.some.inj hnew
    refine ⟨{ h.row old hold with bound := fun o ho => ?_ }, fun hterm => ?_⟩
    · exact ⟨(Option.some.inj ho).symm.trans hid, hprior w hk⟩
    · rcases hterm with hterm | hterm | hterm <;> cases hterm
  · intro now d e db hrun
    have hsame := bindActionOrderSync_error (congrArg Prod.fst hrun)
    rwa [hrun] at hsame

theorem bindSubmitted_spec (ctx : RatchetContext V) (hK : Framed K) {key : String}
    (hkey : key = ids.replacement)
    (hprior : ∀ w, K w → w.ProvedDead ids.prior) (result : OrderResult) (bound : Option String) :
    ⦃fun w => ⌜(HandoffInv ids w ∧ K w) ∧ result.orderId.getD key = key⌝⦄
    bindSubmitted ctx key result bound
    ⦃post⟨fun _ w => ⌜HandoffInv ids w ∧ K w⌝, fun _ w => ⌜HandoffInv ids w⌝⟩⦄ := by
  have hbind := fun orderId => bindActionOrder_spec ctx hK hkey hprior orderId
  mvcgen [bindSubmitted, hbind]
  · rename_i hresult _ hworld
    have hid := hworld.2
    rw [hresult] at hid
    exact ⟨hworld.1.1, hid.trans hkey, hworld.1.2⟩
  · exact fun hinv _ hk => ⟨hinv, hk⟩
  · exact ‹_ ∧ _›.1

theorem prepareActionIntent_spec (ids : HandoffIds) (intent : ExitActionIntent)
    (hprior : intent.priorStopOrderId = some ids.prior)
    (hquantity : intent.requestedQuantity = some 1)
    (hstage : intent.handoffStage = "prior_stop_cancel_pending") :
    ⦃fun w => ⌜HandoffInv ids w⌝⦄ commit (prepareActionIntentSync intent)
    ⦃post⟨fun _ w => ⌜HandoffInv ids w⌝, fun _ w => ⌜HandoffInv ids w⌝⟩⦄ := by
  apply commit_spec _ (lasting_handoffInv ids).toSteady
  · intro w now db h hrun
    obtain ⟨-, -, hintents | ⟨hfree, -, hintents⟩⟩ := prepareActionIntentSync_ok hrun
    · exact h.store_same _ hintents
    · refine h.store _ fun row hrow => ?_
      simp only [hintents] at hrow
      have hnew := (Table.get?_insert _ _ _ ids.replacement).symm.trans hrow
      split at hnew
      · obtain rfl := Option.some.inj hnew
        refine ⟨{
          prior := hprior
          quantity := hquantity
          bound := by
            rintro _ ⟨⟩
          restoreBound := by
            rintro _ ⟨⟩
          named := ?_
          stage := ⟨fun hnot => ?_, fun hmem => ?_⟩ }, fun hterm => ?_⟩
        · simp [ExitActionIntent.preparedRow, hstage]
        · simp [ExitActionIntent.preparedRow, hstage] at hnot
        · simp [ExitActionIntent.preparedRow, hstage] at hmem
        · rcases hterm with hterm | hterm | hterm <;> cases hterm
      · exact ⟨h.row row hnew, h.settled row hnew⟩
  · intro w now e db h hrun
    have hsame := prepareActionIntentSync_error (congrArg Prod.fst hrun)
    rw [hrun] at hsame
    exact h.store_same _ (congrArg ExitDb.intents hsame)
  · exact fun w h => h

/-- An intent is resolved only where the history warrants it. -/
theorem resolveActionIntent_spec (ctx : RatchetContext V) (ids : HandoffIds) {key : String}
    (hkey : key = ids.replacement) (status : String) (payload : JsonObject V) :
    ⦃fun w => ⌜HandoffInv ids w ∧ SettledOn ids w.log⌝⦄ resolveActionIntent ctx key status payload
    ⦃post⟨fun _ w => ⌜HandoffInv ids w⌝, fun _ w => ⌜HandoffInv ids w⌝⟩⦄ := by
  subst hkey
  have hsteady : Steady fun w : World RatchetStore => SettledOn ids w.log := ⟨fun _ _ _ h => h⟩
  -- between the transaction and its note only the row's status differs
  have hcommit := commit_spec (resolveActionIntentSync ctx.codec ids.replacement status (some payload))
    (P := fun w => HandoffInv ids (w.note (.settled ids.replacement)))
    (Q := HandoffInv ids) ((lasting_handoffInv ids).toSteady.and hsteady)
    (by
      intro w now db h hrun
      obtain ⟨s, -, rfl⟩ := resolveActionIntentSync_ok hrun
      have hsettled := h.1.settle h.2
      refine hsettled.store _ fun row hrow => ⟨?_, fun _ => List.mem_cons_self⟩
      have hnew := (get?_updateIntent _ w.store.db ids.replacement).symm.trans hrow
      rw [if_pos rfl] at hnew
      obtain ⟨old, hold, rfl⟩ := Option.map_eq_some_iff.mp hnew
      exact { hsettled.row old hold with })
    (by
      intro w now e db h hrun
      have hsame := resolveActionIntentSync_error (congrArg Prod.fst hrun)
      rw [hrun] at hsame
      exact h.1.store_same _ (congrArg ExitDb.intents hsame))
    (fun w h => h.1)
  mvcgen [resolveActionIntent, hcommit]

theorem adoptRecoveredRatchetStop_spec (ids : HandoffIds) (hK : Framed K)
    (position : TrackedPosition) (orderId : String) (stopPrice : ℚ) :
    ⦃fun w => ⌜HandoffInv ids w ∧ K w⌝⦄ adoptRecoveredRatchetStop position orderId stopPrice
    ⦃post⟨fun _ w => ⌜HandoffInv ids w ∧ K w⌝, fun _ w => ⌜HandoffInv ids w⌝⟩⦄ := by
  have hbeat := nextBeat_spec ((lasting_handoffInv ids).toSteady.and hK.toSteady)
  mvcgen [adoptRecoveredRatchetStop, hbeat]
  · rename_i hworld _
    exact ⟨hworld.1.store_same _ rfl, hK.store _ _ hworld.2⟩
  · exact fun h _ => h

theorem finalizePendingExitFill_spec (ids : HandoffIds) :
    ⦃fun w => ⌜HandoffInv ids w⌝⦄ finalizePendingExitFill
    ⦃post⟨fun _ w => ⌜HandoffInv ids w⌝, fun _ w => ⌜HandoffInv ids w⌝⟩⦄ := by
  have hbeat := nextBeat_spec (lasting_handoffInv ids).toSteady
  mvcgen [finalizePendingExitFill, hbeat]
  exact HandoffInv.store_same ‹_› _ rfl

theorem latchCanaryRollback_spec (ids : HandoffIds) (deploymentId : String) :
    ⦃fun w => ⌜HandoffInv ids w⌝⦄ latchCanaryRollback deploymentId
    ⦃post⟨fun _ w => ⌜HandoffInv ids w⌝, fun _ w => ⌜HandoffInv ids w⌝⟩⦄ := by
  have hbeat := nextBeat_spec (lasting_handoffInv ids).toSteady
  mvcgen [latchCanaryRollback, hbeat]
  exact HandoffInv.store_same ‹_› _ rfl

theorem readDb_spec (ids : HandoffIds) (hK : Steady K) :
    ⦃fun w => ⌜HandoffInv ids w ∧ K w⌝⦄ readDb
    ⦃post⟨fun db w => ⌜(HandoffInv ids w ∧ K w) ∧ db = w.store.db⌝,
      fun _ w => ⌜HandoffInv ids w⌝⟩⦄ := by
  have hbeat := nextBeat_spec ((lasting_handoffInv ids).toSteady.and hK)
  mvcgen [readDb, hbeat]
  exact fun h _ => h

theorem markExitStateDegraded_spec (ids : HandoffIds) (tradeId reason : String) :
    ⦃fun w => ⌜HandoffInv ids w⌝⦄ markExitStateDegraded tradeId reason
    ⦃post⟨fun _ w => ⌜HandoffInv ids w⌝, fun _ w => ⌜HandoffInv ids w⌝⟩⦄ := by
  have hread := readDb_spec ids (lasting_const True).toSteady
  have hbeat := nextBeat_spec (lasting_handoffInv ids).toSteady
  mvcgen [markExitStateDegraded, hread, hbeat]
  · exact ‹_ ∧ _›.1
  · exact ‹_ ∧ _›.1
  · exact ‹_ ∧ _›.1
  · exact HandoffInv.store_same ‹_› _ (transition_intents _ _ _ _)

end Records

section Grounds

variable {ids : HandoffIds} {w : World RatchetStore} {orderId optionSymbol : String} {quantity : ℤ}
  {stopPrice : ℚ} {outcome : StopOutcome}

theorem settledOn_of_working
    (h : w.Classified orderId optionSymbol quantity stopPrice outcome) (hquantity : quantity = 1)
    (hworking : outcome = .working) (hid : orderId = ids.replacement ∨ orderId = ids.restore) :
    SettledOn ids w.log := by
  subst hworking hquantity
  obtain ⟨p, hlog, hp⟩ := h.shown nofun
  exact .inl ⟨orderId, p, optionSymbol, stopPrice, hlog, .inl ⟨hid, hp⟩⟩

theorem settledOn_of_fill
    (h : w.Classified orderId optionSymbol quantity stopPrice outcome) (hquantity : quantity = 1)
    (hfill : outcome.isFill = true)
    (hid : orderId = ids.prior ∨ orderId = ids.replacement ∨ orderId = ids.restore) :
    SettledOn ids w.log := by
  obtain ⟨p, hlog, hp⟩ := h.shown (by rintro rfl; cases hfill)
  rw [hquantity] at hp
  exact .inl ⟨orderId, p, optionSymbol, stopPrice, hlog, .inr ⟨hid, by rwa [hp]⟩⟩

theorem settledOn_of_dead (hprior : w.ProvedDead ids.prior)
    (hreplacement : w.ProvedDead ids.replacement) (hrestore : w.ProvedDead ids.restore) :
    SettledOn ids w.log :=
  .inr ⟨hprior.shown, hreplacement.shown, hrestore.shown⟩

theorem stageProved_replacement {stage : String} (hprior : w.ProvedDead ids.prior)
    (h : stage ∈ ["prior_stop_dead_zero_fill", "replacement_submit_pending",
      "replacement_submitted"]) : StageProved ids stage w := by
  refine ⟨fun _ => hprior, fun hmem => ?_⟩
  simp only [List.mem_cons, List.not_mem_nil, or_false] at h hmem
  rcases h with rfl | rfl | rfl <;> simp at hmem

theorem stageProved_restore {stage : String} (hprior : w.ProvedDead ids.prior)
    (hreplacement : w.ProvedDead ids.replacement) : StageProved ids stage w :=
  ⟨fun _ => hprior, fun _ => hreplacement⟩

end Grounds

section Orders

variable {ids : HandoffIds} {K : World RatchetStore → Prop}

theorem placeStop_spec (hids : ids.replacement ≠ ids.restore) (hK : Permanent K) {orderId : String}
    {quantity : ℤ} (hquantity : quantity = 1)
    (hgrounds : ∀ w, K w → w.ProvedDead ids.prior ∧ (orderId = ids.replacement ∨
      (orderId = ids.restore ∧ w.ProvedDead ids.replacement))) :
    ⦃fun w => ⌜HandoffInv ids w ∧ K w⌝⦄ placeStopLossOrder orderId quantity
    ⦃post⟨fun result w => ⌜(HandoffInv ids w ∧ K w) ∧ result.orderId.getD orderId = orderId⌝,
      fun _ w => ⌜HandoffInv ids w⌝⟩⦄ := by
  subst hquantity
  have hsubmits : World.Submits (fun w => HandoffInv ids w ∧ K w) orderId 1 := by
    rintro w verdict ⟨hinv, hk⟩
    obtain ⟨hprior, hask⟩ := hgrounds w hk
    exact ⟨hinv.ask hids hprior hask, hK.ask w orderId 1 verdict hk⟩
  have hplace := placeStopLossOrder_spec ((lasting_handoffInv ids).toSteady.and hK.toSteady)
    hsubmits
  mvcgen [hplace]
  · exact fun hinv hk hid => ⟨⟨hinv, hk⟩, hid⟩
  · exact fun h _ => h

theorem classifyStop_handoff_spec (ids : HandoffIds) (hK : Lasting K)
    (orderId optionSymbol : String) (quantity : ℤ)
    (stopPrice : ℚ) :
    ⦃fun w => ⌜HandoffInv ids w ∧ K w⌝⦄ classifyStopReadback orderId optionSymbol quantity stopPrice
    ⦃post⟨fun outcome w => ⌜(HandoffInv ids w ∧ K w) ∧
        w.Classified orderId optionSymbol quantity stopPrice outcome⌝,
      fun _ w => ⌜HandoffInv ids w⌝⟩⦄ := by
  have hclassify := classifyStopReadback_spec ((lasting_handoffInv ids).and hK) orderId optionSymbol
    quantity stopPrice
  mvcgen [hclassify]
  · exact fun hinv hk hshown => ⟨⟨hinv, hk⟩, hshown⟩
  · exact fun h _ => h

theorem cancelOrder_handoff_spec (ids : HandoffIds) (hK : Lasting K) (orderId : String) :
    ⦃fun w => ⌜HandoffInv ids w ∧ K w⌝⦄ (cancelOrder orderId : RatchetM Bool)
    ⦃post⟨fun canceled w => ⌜(HandoffInv ids w ∧ K w) ∧ (canceled = true → w.ProvedDead orderId)⌝,
      fun _ w => ⌜HandoffInv ids w⌝⟩⦄ := by
  have hcancel := cancelOrder_spec ((lasting_handoffInv ids).and hK) orderId
  mvcgen [hcancel]
  · exact fun hinv hk hdead => ⟨⟨hinv, hk⟩, hdead⟩
  · exact fun h _ => h

end Orders

section Live

variable {V : Type} (ctx : RatchetContext V) {ids : HandoffIds} (tick : RatchetTick)

/-- The tick is the one that starts the handoff. -/
structure TickOf (ids : HandoffIds) : Prop where
  replacement : tick.intentKey = ids.replacement
  restore : restoreKey ctx tick.intentKey = ids.restore
  apart : ids.replacement ≠ ids.restore

variable {ctx tick}

theorem degradeHandoff_spec (tick : RatchetTick) (ids : HandoffIds) (tradeId reason : String) :
    ⦃fun w => ⌜HandoffInv ids w⌝⦄ degradeHandoff tick tradeId reason
    ⦃post⟨fun _ w => ⌜HandoffInv ids w⌝, fun _ w => ⌜HandoffInv ids w⌝⟩⦄ := by
  have hmark := markExitStateDegraded_spec ids tradeId reason
  have hlatch := latchCanaryRollback_spec ids tick.deploymentId
  mvcgen [degradeHandoff, hmark, hlatch]

theorem submitReplacement_spec (ht : TickOf ctx tick ids) (hquantity : tick.position.quantity = 1)
    (request : RatchetRequest) :
    ⦃fun w => ⌜HandoffInv ids w ∧ w.ProvedDead ids.prior⌝⦄ submitReplacement ctx tick request
    ⦃post⟨fun result w => ⌜(HandoffInv ids w ∧ w.ProvedDead ids.prior) ∧
        result.1 = ids.replacement ∧ w.Classified ids.replacement request.optionSymbol 1
          request.requestedStop result.2⌝, fun _ w => ⌜HandoffInv ids w⌝⟩⦄ := by
  have hprior : Permanent fun w : World RatchetStore => w.ProvedDead ids.prior :=
    permanent_provedDead _
  have hplace := placeStop_spec ht.apart hprior hquantity
    fun w h => ⟨h, Or.inl ht.replacement⟩
  have hbind := fun result => bindSubmitted_spec ctx hprior.framed ht.replacement
    (fun w h => h) result none
  have hupdate := updateActionHandoff_spec ctx "replacement_submitted" none
    (some (ctx.evidence "submission_error")) hprior.framed ht.replacement (by decide)
    (fun w h => stageProved_replacement h (by simp)) nofun
  have hclassify := fun orderId => classifyStop_handoff_spec ids hprior.toLasting orderId
    request.optionSymbol tick.position.quantity request.requestedStop
  mvcgen [submitReplacement, hplace, hbind, hupdate, hclassify]
  rename_i result _ hplaced _ _ _ _ replacementId _ _ outcome _ hclassified
  -- the venue answers with the client order id, and without an answer the client order id is used
  have hid : replacementId = ids.replacement := hplaced.2.trans ht.replacement
  refine ⟨hclassified.1, hid, ?_⟩
  have h := hclassified.2
  rwa [hid, hquantity] at h

/-- Both earlier stops are proved dead when the prior one is put back. -/
theorem submitRestore_spec (ht : TickOf ctx tick ids) (hquantity : tick.position.quantity = 1)
    (request : RatchetRequest) :
    ⦃fun w => ⌜HandoffInv ids w ∧ w.ProvedDead ids.prior ∧ w.ProvedDead ids.replacement⌝⦄
    submitRestore ctx tick request
    ⦃post⟨fun result w => ⌜(HandoffInv ids w ∧ w.ProvedDead ids.prior ∧
        w.ProvedDead ids.replacement) ∧ result.1 = ids.restore ∧ w.Classified ids.restore
          request.optionSymbol 1 request.priorStopPrice result.2⌝, fun _ w => ⌜HandoffInv ids w⌝⟩⦄ := by
  have hdead : Permanent fun w : World RatchetStore =>
      w.ProvedDead ids.prior ∧ w.ProvedDead ids.replacement :=
    (permanent_provedDead _).and (permanent_provedDead _)
  have hpending := updateActionHandoff_spec ctx "restore_submit_pending"
    (some (restoreKey ctx tick.intentKey)) (some (ctx.evidence "replacement")) hdead.framed
    ht.replacement (by decide) (fun w h => stageProved_restore h.1 h.2)
    (fun o ho => (Option.some.inj ho).symm.trans ht.restore)
  have hplace := placeStop_spec ht.apart hdead hquantity fun w h => ⟨h.1, .inr ⟨ht.restore, h.2⟩⟩
  have hsubmitted := fun id (hid : id = ids.restore) => updateActionHandoff_spec ctx
    "restore_submitted" (some id) (some (ctx.evidence "restore_submission_error")) hdead.framed
    ht.replacement (by decide) (fun w h => stageProved_restore h.1 h.2)
    (fun o ho => (Option.some.inj ho).symm.trans hid)
  have hclassify := fun orderId => classifyStop_handoff_spec ids hdead.toLasting orderId
    request.optionSymbol tick.position.quantity request.priorStopPrice
  mvcgen [submitRestore, hpending, hplace, hsubmitted, hclassify]
  · exact ‹_ ∧ Option.getD _ _ = _›.2.trans ht.restore
  · exact ‹_ ∧ Option.getD _ _ = _›.1
  · rename_i result restoreId _ hplaced _ _ _ _ _ hclassified
    have hid : restoreId = ids.restore := hplaced.2.trans ht.restore
    refine ⟨hclassified.1, hid, ?_⟩
    have h := hclassified.2
    rwa [hid, hquantity] at h

theorem restorePriorStop_spec (ht : TickOf ctx tick ids) (hquantity : tick.position.quantity = 1)
    (request : RatchetRequest) :
    ⦃fun w => ⌜HandoffInv ids w ∧ w.ProvedDead ids.prior ∧ w.ProvedDead ids.replacement⌝⦄
    restorePriorStop ctx tick request
    ⦃post⟨fun _ w => ⌜HandoffInv ids w⌝, fun _ w => ⌜HandoffInv ids w⌝⟩⦄ := by
  have hsubmit := submitRestore_spec ht hquantity request
  have hresolve := resolveActionIntent_spec ctx ids ht.replacement
  have hfinalize := finalizePendingExitFill_spec ids
  have hdegrade := degradeHandoff_spec tick ids request.tradeId
    "stop_ratchet_replacement_unproved"
  mvcgen [restorePriorStop, hsubmit, hresolve, hfinalize, hdegrade]
  · rename_i hworking _ hread
    exact ⟨hread.1.1, settledOn_of_working hread.2.2 rfl hworking (.inr rfl)⟩
  · rename_i hfull _ hread
    exact ⟨hread.1.1, settledOn_of_fill hread.2.2 rfl (by rw [hfull]; rfl) (.inr (.inr rfl))⟩
  · rename_i houtcome _ hread
    exact ⟨hread.1.1, settledOn_of_fill hread.2.2 rfl (by rw [houtcome]; rfl) (.inr (.inr rfl))⟩
  · rename_i hdead _ hread
    exact ⟨hread.1.1, settledOn_of_dead hread.1.2.1 hread.1.2.2 (hread.2.2.dead hdead)⟩
  · rename_i hread
    exact hread.1.1

/-- The replacement was just read working, and the transition in between changes no read. -/
theorem commitRatchet_spec (ht : TickOf ctx tick ids) (request : RatchetRequest)
    (replacementId : String) :
    ⦃fun w => ⌜HandoffInv ids w ∧ SettledOn ids w.log⌝⦄ commitRatchet ctx tick request replacementId
    ⦃post⟨fun _ w => ⌜HandoffInv ids w⌝, fun _ w => ⌜HandoffInv ids w⌝⟩⦄ := by
  have hframed : Framed fun w : World RatchetStore => SettledOn ids w.log :=
    ⟨⟨fun _ _ _ h => h⟩, fun _ _ h => h⟩
  have htransition := fun state v => transition_spec ids hframed state v
  have hresolve := resolveActionIntent_spec ctx ids ht.replacement
  mvcgen [commitRatchet, htransition, hresolve]

theorem handOverStop_spec (ht : TickOf ctx tick ids) (hquantity : tick.position.quantity = 1)
    (request : RatchetRequest) (hprior : request.priorStopOrderId = ids.prior) :
    ⦃fun w => ⌜HandoffInv ids w⌝⦄ handOverStop ctx tick request
    ⦃post⟨fun _ w => ⌜HandoffInv ids w⌝, fun _ w => ⌜HandoffInv ids w⌝⟩⦄ := by
  have hdead : Permanent fun w : World RatchetStore => w.ProvedDead ids.prior :=
    permanent_provedDead _
  have hprepare := prepareActionIntent_spec ids
    (request.intent tick.intentKey tick.position.quantity)
    (congrArg some hprior) (congrArg some hquantity) rfl
  have hcancel := cancelOrder_handoff_spec ids (lasting_const True) request.priorStopOrderId
  have hproved := updateActionHandoff_spec ctx "prior_stop_dead_zero_fill" none
    (some (ctx.evidence "prior_stop_order_id")) hdead.framed ht.replacement (by decide)
    (fun w h => stageProved_replacement h (by simp)) nofun
  have hpending := updateActionHandoff_spec ctx "replacement_submit_pending" none none hdead.framed
    ht.replacement (by decide) (fun w h => stageProved_replacement h (by simp)) nofun
  have hsubmit := submitReplacement_spec ht hquantity request
  have hrestore := restorePriorStop_spec ht hquantity request
  have hcommit := commitRatchet_spec ht request
  have hresolve := resolveActionIntent_spec ctx ids ht.replacement
  have hfinalize := finalizePendingExitFill_spec ids
  have hdegrade := degradeHandoff_spec tick ids request.tradeId
  mvcgen [handOverStop, hprepare, hcancel, hproved, hpending, hsubmit, hrestore, hcommit, hresolve,
    hfinalize, hdegrade]
  · exact ‹_ ∧ _›.1
  · rename_i canceled hnot _ hcanceled
    refine ⟨hcanceled.1, ?_⟩
    rw [← hprior]
    exact hcanceled.2 (by simpa using hnot)
  · rename_i hfull _ hread _
    exact ⟨hread.1.1, settledOn_of_fill hread.2.2 rfl (by rw [hfull]; rfl) (.inr (.inl rfl))⟩
  · rename_i houtcome _ hread _
    exact ⟨hread.1.1, settledOn_of_fill hread.2.2 rfl (by rw [houtcome]; rfl) (.inr (.inl rfl))⟩
  · rename_i hworking _ hread _
    exact ⟨hread.1.1, settledOn_of_working hread.2.2 rfl hworking (.inl rfl)⟩
  · rename_i hdeadZero _ hread _
    exact ⟨hread.1.1, hread.1.2, hread.2.2.dead hdeadZero⟩
  · rename_i hread _
    exact hread.1.1

theorem quantity_of_applies (h : tick.applies = true) : tick.position.quantity = 1 := by
  simp only [RatchetTick.applies, decide_eq_true_eq] at h
  exact h.2.2.2.2.2

theorem recordPeak_spec (tick : RatchetTick) (ids : HandoffIds) (durable : ExitRuntimeState) (bid : ℚ) :
    ⦃fun w => ⌜HandoffInv ids w⌝⦄ recordPeak tick durable bid
    ⦃post⟨fun _ w => ⌜HandoffInv ids w⌝, fun _ w => ⌜HandoffInv ids w⌝⟩⦄ := by
  have htransition := fun state v =>
    transition_spec ids (permanent_const True).framed state v
  mvcgen [recordPeak, htransition]
  exact ‹HandoffInv ids _›

theorem tighterStop_spec (ctx : RatchetContext V) (tick : RatchetTick) (ids : HandoffIds)
    (working : ExitRuntimeState) (stopPrice bid : ℚ)
    (target1R : Option ℚ) :
    ⦃fun w => ⌜HandoffInv ids w⌝⦄ tighterStop ctx tick working stopPrice bid target1R
    ⦃post⟨fun _ w => ⌜HandoffInv ids w⌝, fun _ w => ⌜HandoffInv ids w⌝⟩⦄ := by
  have hbeat := nextBeat_spec (lasting_handoffInv ids).toSteady
  have hlatch := latchCanaryRollback_spec ids tick.deploymentId
  mvcgen [tighterStop, canonicalRatchet, hbeat, hlatch]

/-- The request is about the stop and the one contract of the tick's position. -/
theorem ratchetRequest_spec (ctx : RatchetContext V) (tick : RatchetTick) (ids : HandoffIds) :
    ⦃fun w => ⌜HandoffInv ids w⌝⦄ ratchetRequest ctx tick
    ⦃post⟨fun request w => ⌜HandoffInv ids w ∧ request.elim True fun r =>
        tick.position.stopOrderId = some r.priorStopOrderId ∧ tick.position.quantity = 1⌝,
      fun _ w => ⌜HandoffInv ids w⌝⟩⦄ := by
  have hbeat := nextBeat_spec (lasting_handoffInv ids).toSteady
  have hread := readDb_spec ids (lasting_const True).toSteady
  have hpeak := recordPeak_spec tick ids
  have htighter := tighterStop_spec ctx tick ids
  mvcgen [ratchetRequest, hbeat, hread, hpeak, htighter]
  · exact ⟨‹_ ∧ _›.1, trivial⟩
  · exact ‹_ ∧ _›.1
  · have happlies : tick.applies = true := by simpa using ‹¬(!tick.applies) = true›
    have hone := quantity_of_applies happlies
    exact ⟨‹HandoffInv ids _›, ‹tick.position.stopOrderId = some _›, hone⟩

theorem applyLiveSafetyStackRatchet_spec (ht : TickOf ctx tick ids)
    (hprior : ∀ prior, tick.position.stopOrderId = some prior → prior = ids.prior) :
    ⦃fun w => ⌜HandoffInv ids w⌝⦄ applyLiveSafetyStackRatchet ctx tick
    ⦃post⟨fun _ w => ⌜HandoffInv ids w⌝, fun _ w => ⌜HandoffInv ids w⌝⟩⦄ := by
  have hrequest := ratchetRequest_spec ctx tick ids
  have hhandover := fun request (h : tick.position.stopOrderId = some request.priorStopOrderId ∧
    tick.position.quantity = 1) => handOverStop_spec ht h.2 request (hprior _ h.1)
  mvcgen [applyLiveSafetyStackRatchet, hrequest, hhandover]
  · exact ‹_ ∧ _›.1
  · exact ‹_ ∧ Option.elim _ _ _›.1
  · exact fun _ _ h => h

end Live

section Recovery

variable {V : Type} {ctx : RatchetContext V} {ids : HandoffIds} {resume : RatchetResume}

/-- The recovery is the one of this handoff: its intent's columns name the three stops. -/
structure ResumeOf (ctx : RatchetContext V) (resume : RatchetResume) (ids : HandoffIds) : Prop where
  replacement : resume.key = ids.replacement
  prior : resume.prior = ids.prior
  quantity : resume.quantity = 1
  bound : ∀ o, resume.intent.brokerOrderId = some o → o = ids.replacement
  restoreBound : ∀ o, resume.intent.restoreOrderId = some o → o = ids.restore
  restore : restoreKey ctx resume.key = ids.restore
  apart : ids.replacement ≠ ids.restore

/-- What is known when the prior stop is out of the way. -/
structure PriorGone (ids : HandoffIds) (stage : String) (w : World RatchetStore) : Prop where
  prior : w.ProvedDead ids.prior
  stage : StageProved ids stage w

theorem permanent_priorGone (ids : HandoffIds) (stage : String) :
    Permanent (PriorGone ids stage) := by
  have hboth := (permanent_provedDead (ids.prior)).and (permanent_stageProved ids stage)
  have hiff : PriorGone ids stage = fun w => w.ProvedDead ids.prior ∧ StageProved ids stage w := by
    funext w
    exact propext ⟨fun h => ⟨h.1, h.2⟩, fun h => ⟨h.1, h.2⟩⟩
  rwa [hiff]

theorem resumePriorStop_spec (hr : ResumeOf ctx resume ids) (stage : String) :
    ⦃fun w => ⌜HandoffInv ids w ∧ StageProved ids stage w⌝⦄ resumePriorStop ctx resume stage
    ⦃post⟨fun next w => ⌜HandoffInv ids w ∧ next.elim True fun stage => PriorGone ids stage w⌝,
      fun _ w => ⌜HandoffInv ids w⌝⟩⦄ := by
  have hdead : Permanent fun w : World RatchetStore => w.ProvedDead ids.prior :=
    permanent_provedDead _
  have hclassify := classifyStop_handoff_spec ids (lasting_const True) resume.prior
    resume.optionSymbol resume.quantity resume.priorPrice
  have hcancel := cancelOrder_handoff_spec ids (lasting_const True) resume.prior
  have hproved := updateActionHandoff_spec ctx "prior_stop_dead_zero_fill" none
    (some (ctx.evidence "prior_stop")) hdead.framed hr.replacement (by decide)
    (fun w h => stageProved_replacement h (by simp)) nofun
  have hresolve := resolveActionIntent_spec ctx ids hr.replacement
  have hfinalize := finalizePendingExitFill_spec ids
  mvcgen [resumePriorStop, hclassify, hcancel, hproved, hresolve, hfinalize]
  · exact ⟨‹_ ∧ _›.1, ‹_ ∧ StageProved _ _ _›.2.prior ‹_›, ‹_ ∧ StageProved _ _ _›.2⟩
  · exact ‹_ ∧ StageProved _ _ _›.1
  · rename_i hfill _ hread
    exact ⟨hread.1, settledOn_of_fill hread.2 hr.quantity hfill (.inl hr.prior)⟩
  · rename_i hdeadZero _ _ hread
    exact ⟨hread.1, hr.prior ▸ hread.2.dead hdeadZero⟩
  · rename_i hgone _
    exact ⟨hgone.1, hgone.2, stageProved_replacement hgone.2 (by simp)⟩
  · exact ‹_ ∧ World.Classified _ _ _ _ _ _›.1
  · rename_i hread
    exact ⟨hread.1, trivial⟩
  · rename_i hnot _ _ hcanceled
    exact ⟨hcanceled.1, hr.prior ▸ hcanceled.2 (by simpa using hnot)⟩
  · rename_i hgone _ _
    exact ⟨hgone.1, hgone.2, stageProved_replacement hgone.2 (by simp)⟩

theorem resumeSubmission_spec (hr : ResumeOf ctx resume ids) (stage : String) :
    ⦃fun w => ⌜HandoffInv ids w ∧ PriorGone ids stage w⌝⦄ resumeSubmission ctx resume stage
    ⦃post⟨fun next w => ⌜HandoffInv ids w ∧ next.1 = ids.replacement ∧ PriorGone ids next.2 w⌝,
      fun _ w => ⌜HandoffInv ids w⌝⟩⦄ := by
  have hdead : Permanent fun w : World RatchetStore => w.ProvedDead ids.prior :=
    permanent_provedDead _
  have hpending := updateActionHandoff_spec ctx "replacement_submit_pending" none none hdead.framed
    hr.replacement (by decide) (fun w h => stageProved_replacement h (by simp)) nofun
  have hplace := placeStop_spec hr.apart hdead hr.quantity fun w h => ⟨h, .inl hr.replacement⟩
  have hbind := fun result => bindSubmitted_spec ctx hdead.framed hr.replacement
    (fun w h => h) result resume.intent.brokerOrderId
  have hsubmitted := updateActionHandoff_spec ctx "replacement_submitted" none
    (some (ctx.evidence "submission_error")) hdead.framed hr.replacement (by decide)
    (fun w h => stageProved_replacement h (by simp)) nofun
  mvcgen [resumeSubmission, hpending, hplace, hbind, hsubmitted]
  · rename_i hgone
    refine ⟨hgone.1, ?_, hgone.2⟩
    cases hbound : resume.intent.brokerOrderId with
    | none => exact hr.replacement
    | some o => exact hr.bound o hbound
  · exact ⟨‹_ ∧ PriorGone _ _ _›.1, ‹_ ∧ PriorGone _ _ _›.2.prior⟩
  · rename_i hplaced _ _ _ _ _ hgone
    exact ⟨hgone.1, hplaced.2.trans hr.replacement, hgone.2,
      stageProved_replacement hgone.2 (by simp)⟩

theorem recoverReplacement_spec (hr : ResumeOf ctx resume ids) (position : TrackedPosition)
    (replacementId : String) :
    ⦃fun w => ⌜HandoffInv ids w ∧ SettledOn ids w.log⌝⦄
    recoverReplacement ctx position resume replacementId
    ⦃post⟨fun _ w => ⌜HandoffInv ids w⌝, fun _ w => ⌜HandoffInv ids w⌝⟩⦄ := by
  have hframed : Framed fun w : World RatchetStore => SettledOn ids w.log :=
    ⟨⟨fun _ _ _ h => h⟩, fun _ _ h => h⟩
  have hread := readDb_spec ids hframed.toSteady
  have htransition := fun state v => transition_spec ids hframed state v
  have hadopt := adoptRecoveredRatchetStop_spec ids hframed position replacementId
    resume.requested
  have hresolve := resolveActionIntent_spec ctx ids hr.replacement
  mvcgen [recoverReplacement, hread, htransition, hadopt, hresolve]
  · rename_i hread
    exact hread.1.1
  · rename_i hread
    exact hread.1

theorem resumeReplacement_spec (hr : ResumeOf ctx resume ids) (position : TrackedPosition)
    {replacementId : String} (hid : replacementId = ids.replacement) (stage : String) :
    ⦃fun w => ⌜HandoffInv ids w ∧ PriorGone ids stage w⌝⦄
    resumeReplacement ctx position resume replacementId stage
    ⦃post⟨fun next w => ⌜HandoffInv ids w ∧ next.elim True fun stage => PriorGone ids stage w⌝,
      fun _ w => ⌜HandoffInv ids w⌝⟩⦄ := by
  have hgone := permanent_priorGone ids stage
  have hdead : Permanent fun w : World RatchetStore =>
      w.ProvedDead ids.prior ∧ w.ProvedDead ids.replacement :=
    (permanent_provedDead _).and (permanent_provedDead _)
  have hclassify := classifyStop_handoff_spec ids hgone.toLasting replacementId
    resume.optionSymbol resume.quantity resume.requested
  have hrecover := recoverReplacement_spec hr position replacementId
  have hpending := updateActionHandoff_spec ctx "restore_submit_pending"
    (some (restoreKey ctx resume.key)) (some (ctx.evidence "replacement")) hdead.framed
    hr.replacement (by decide) (fun w h => stageProved_restore h.1 h.2)
    (fun o ho => (Option.some.inj ho).symm.trans hr.restore)
  have hresolve := resolveActionIntent_spec ctx ids hr.replacement
  have hfinalize := finalizePendingExitFill_spec ids
  mvcgen [resumeReplacement, hclassify, hrecover, hpending, hresolve, hfinalize]
  · rename_i hread
    exact ⟨hread.1.1, settledOn_of_working hread.2 hr.quantity rfl (.inl hid)⟩
  · rename_i hread
    exact ⟨hread.1.1, settledOn_of_fill hread.2 hr.quantity rfl (.inr (.inl hid))⟩
  · rename_i hread
    exact ⟨hread.1.1, settledOn_of_fill hread.2 hr.quantity rfl (.inr (.inl hid))⟩
  · rename_i hread
    exact ⟨hread.1.1, hread.1.2.prior, hid ▸ hread.2.dead rfl⟩
  · rename_i hboth
    exact ⟨hboth.1, hboth.2.1, stageProved_restore hboth.2.1 hboth.2.2⟩
  · rename_i hread
    exact ⟨hread.1.1, trivial⟩

theorem resumeRestoreSubmission_spec (hr : ResumeOf ctx resume ids) (stage : String) :
    ⦃fun w => ⌜HandoffInv ids w ∧ PriorGone ids stage w⌝⦄ resumeRestoreSubmission ctx resume stage
    ⦃post⟨fun next w => ⌜HandoffInv ids w ∧ next.1 = ids.restore ∧ PriorGone ids next.2 w⌝,
      fun _ w => ⌜HandoffInv ids w⌝⟩⦄ := by
  have hrestoreId : resume.intent.restoreOrderId.getD (restoreKey ctx resume.key) = ids.restore := by
    cases hbound : resume.intent.restoreOrderId with
    | none => exact hr.restore
    | some o => exact hr.restoreBound o hbound
  have hdead : Permanent fun w : World RatchetStore =>
      w.ProvedDead ids.prior ∧ w.ProvedDead ids.replacement :=
    (permanent_provedDead _).and (permanent_provedDead _)
  have hplace := placeStop_spec hr.apart hdead hr.quantity fun w h => ⟨h.1, .inr ⟨hrestoreId, h.2⟩⟩
  have hsubmitted := fun id (hid : id = ids.restore) => updateActionHandoff_spec ctx
    "restore_submitted" (some id) (some (ctx.evidence "restore_submission_error")) hdead.framed
    hr.replacement (by decide) (fun w h => stageProved_restore h.1 h.2)
    (fun o ho => (Option.some.inj ho).symm.trans hid)
  mvcgen [resumeRestoreSubmission, hplace, hsubmitted]
  · rename_i hgone
    exact ⟨hgone.1, hrestoreId, hgone.2⟩
  · rename_i hstage _ hgone
    have hpending : stage = "restore_submit_pending" := not_not.mp hstage
    exact ⟨hgone.1, hgone.2.prior, hgone.2.stage.replacement (by simp [hpending])⟩
  · rename_i hplaced
    exact hplaced.2.trans hrestoreId
  · rename_i hplaced
    exact hplaced.1
  · rename_i hplaced _ _ hboth
    exact ⟨hboth.1, hplaced.2.trans hrestoreId, hboth.2.1,
      stageProved_restore hboth.2.1 hboth.2.2⟩

theorem resumeRestore_spec (hr : ResumeOf ctx resume ids) (position : TrackedPosition)
    {restoreId : String} (hid : restoreId = ids.restore) (stage : String) :
    ⦃fun w => ⌜HandoffInv ids w ∧ PriorGone ids stage w⌝⦄
    resumeRestore ctx position resume restoreId stage
    ⦃post⟨fun _ w => ⌜HandoffInv ids w⌝, fun _ w => ⌜HandoffInv ids w⌝⟩⦄ := by
  have hframed : Framed fun w : World RatchetStore => SettledOn ids w.log :=
    ⟨⟨fun _ _ _ h => h⟩, fun _ _ h => h⟩
  have hclassify := classifyStop_handoff_spec ids (permanent_priorGone ids stage).toLasting restoreId
    resume.optionSymbol resume.quantity resume.priorPrice
  have hadopt := adoptRecoveredRatchetStop_spec ids hframed position restoreId
    resume.priorPrice
  have hresolve := resolveActionIntent_spec ctx ids hr.replacement
  have hfinalize := finalizePendingExitFill_spec ids
  mvcgen [resumeRestore, hclassify, hadopt, hresolve, hfinalize]
  · rename_i hgone
    exact hgone.1
  · rename_i hread
    exact ⟨hread.1.1, settledOn_of_working hread.2 hr.quantity rfl (.inr hid)⟩
  · rename_i hread
    exact ⟨hread.1.1, settledOn_of_fill hread.2 hr.quantity rfl (.inr (.inr hid))⟩
  · rename_i hread
    exact ⟨hread.1.1, settledOn_of_fill hread.2 hr.quantity rfl (.inr (.inr hid))⟩
  · rename_i hstage _ _ _ _ _ hread
    -- a restored stop that is dead too is the third of the three
    have hsubmitted : stage = "restore_submitted" := not_not.mp hstage
    have hreplacement := hread.1.2.stage.replacement (by simp [hsubmitted])
    exact ⟨hread.1.1, settledOn_of_dead hread.1.2.prior hreplacement (hid ▸ hread.2.dead rfl)⟩
  · rename_i hread
    exact hread.1.1

theorem resumeHandoff_spec (hr : ResumeOf ctx resume ids) (position : TrackedPosition) :
    ⦃fun w => ⌜HandoffInv ids w ∧ StageProved ids (resumeStage resume.intent) w⌝⦄
    resumeHandoff ctx position resume
    ⦃post⟨fun _ w => ⌜HandoffInv ids w⌝, fun _ w => ⌜HandoffInv ids w⌝⟩⦄ := by
  have hprior := resumePriorStop_spec hr (resumeStage resume.intent)
  have hsubmission := resumeSubmission_spec hr
  have hreplacement := fun id (hid : id = ids.replacement) =>
    resumeReplacement_spec hr position hid
  have hrestoring := resumeRestoreSubmission_spec hr
  have hrestore := fun id (hid : id = ids.restore) => resumeRestore_spec hr position hid
  mvcgen [resumeHandoff, hprior, hsubmission, hreplacement, hrestoring, hrestore]
  · rename_i hstopped
    exact hstopped.1
  · rename_i hsubmitted
    exact hsubmitted.2.1
  · rename_i hsubmitted
    exact ⟨hsubmitted.1, hsubmitted.2.2⟩
  · rename_i hstopped
    exact hstopped.1
  · rename_i hsubmitted
    exact ⟨hsubmitted.1, hsubmitted.2.2⟩
  · exact fun _ _ hid _ => hid

/-- The columns of a row that fits name the three stops, and its stage is proved. -/
theorem resumeOf_rowFits {intent : ExitActionIntent} {w : World RatchetStore}
    (hfits : RowFits ids intent w) (hkey : intent.idempotencyKey = ids.replacement)
    (hrestore : restoreKey ctx ids.replacement = ids.restore) (hapart : ids.replacement ≠ ids.restore)
    {optionSymbol prior : String} {priorPrice requested : ℚ} (quantity : ℤ)
    (hprior : intent.priorStopOrderId = some prior) :
    ResumeOf ctx ⟨intent, optionSymbol, (intent.requestedQuantity.filter (· ≠ 0)).getD quantity,
      prior, priorPrice, requested⟩ ids where
  replacement := hkey
  prior := Option.some.inj (hprior.symm.trans hfits.prior)
  quantity := by
    show (intent.requestedQuantity.filter (· ≠ 0)).getD quantity = 1
    rw [hfits.quantity]
    rfl
  bound o ho := (hfits.bound o ho).1
  restoreBound := hfits.restoreBound
  restore := by rwa [RatchetResume.key, hkey]
  apart := hapart

/-- An identity that is bound while the stage is the first one counts as the submitted replacement. -/
theorem stageProved_resumeStage {intent : ExitActionIntent} {w : World RatchetStore}
    (hfits : RowFits ids intent w) : StageProved ids (resumeStage intent) w := by
  have hnamed : (if intent.handoffStage = "" then "prepared" else intent.handoffStage) =
      intent.handoffStage := if_neg hfits.named
  rw [resumeStage, hnamed]
  split
  case isTrue hbound =>
    obtain ⟨o, ho⟩ := Option.ne_none_iff_exists'.mp hbound.2
    exact stageProved_replacement (hfits.bound o ho).2 (by simp)
  case isFalse => exact hfits.stage

theorem reconcileStopRatchetIntent_spec {intent : ExitActionIntent}
    (hkey : intent.idempotencyKey = ids.replacement)
    (hrestore : restoreKey ctx ids.replacement = ids.restore) (hapart : ids.replacement ≠ ids.restore)
    (position : TrackedPosition) :
    ⦃fun w => ⌜HandoffInv ids w ∧ RowFits ids intent w⌝⦄
    reconcileStopRatchetIntent ctx position intent
    ⦃post⟨fun _ w => ⌜HandoffInv ids w⌝, fun _ w => ⌜HandoffInv ids w⌝⟩⦄ := by
  have hresume := fun resume (hr : ResumeOf ctx resume ids) => resumeHandoff_spec hr position
  mvcgen [reconcileStopRatchetIntent, hresume]
  · rename_i h
    exact ⟨h.1, stageProved_resumeStage h.2⟩
  · rename_i hprior _ _
    exact fun _ _ hfits => resumeOf_rowFits hfits hkey hrestore hapart _ hprior
  · rename_i h
    exact h.1

theorem recoverIntent_spec (hrestore : restoreKey ctx ids.replacement = ids.restore)
    (hapart : ids.replacement ≠ ids.restore) (position : TrackedPosition) :
    ⦃fun w => ⌜HandoffInv ids w⌝⦄ recoverIntent ctx position ids.replacement
    ⦃post⟨fun _ w => ⌜HandoffInv ids w⌝, fun _ w => ⌜HandoffInv ids w⌝⟩⦄ := by
  have hread := readDb_spec ids (lasting_const True).toSteady
  have hreconcile := fun (intent : ExitActionIntent) (hkey : intent.idempotencyKey = ids.replacement) =>
    reconcileStopRatchetIntent_spec hkey hrestore hapart position
  mvcgen [recoverIntent, hread, hreconcile]
  · rename_i hdb
    exact hdb.1
  · rename_i hdb
    exact hdb.1
  · rename_i hrow _ _ hdb
    exact ⟨hdb.1, hdb.1.row _ (hdb.2 ▸ hrow)⟩
  · rename_i hrow _
    exact fun _ _ _ => Table.key_of_get? hrow

end Recovery

section History

variable {V : Type} {ctx : RatchetContext V} {tick : RatchetTick} {ids : HandoffIds}

/-- What the handoff promises of its three stops, of its requests and of its intent. -/
structure HandoffSafe (ids : HandoffIds) (w : World RatchetStore) : Prop where
  /-- Two stops that work, were executed or may still arrive are one and the same. -/
  single : ∀ a ∈ [ids.prior, ids.replacement, ids.restore],
    ∀ b ∈ [ids.prior, ids.replacement, ids.restore],
      w.book.exposure a ≠ 0 → w.book.exposure b ≠ 0 → a = b
  grounds : ∀ event earlier, event :: earlier <:+ w.log → HandoffGrounds ids event earlier
  resolved : ∀ row, w.store.db.intents.get? ids.replacement = some row → row.status.IsTerminal →
    .settled ids.replacement ∈ w.log

theorem exposure_of_quiet {w : World RatchetStore} {orderId : String} (h : w.Quiet orderId) :
    w.book.exposure orderId = 0 :=
  OrderBook.exposure_of_unasked h.unasked

theorem HandoffInv.safe {w : World RatchetStore} (h : HandoffInv ids w) : HandoffSafe ids w := by
  have hreplacement : w.book.exposure ids.replacement ≠ 0 → w.book.exposure ids.prior = 0 := by
    intro hopen
    have hdead := h.replacementAsked.resolve_left fun hquiet => hopen (exposure_of_quiet hquiet)
    exact exposure_of_cutShort hdead.cutShort h.priorOne.order
  have hrestore : w.book.exposure ids.restore ≠ 0 →
      w.book.exposure ids.prior = 0 ∧ w.book.exposure ids.replacement = 0 := by
    intro hopen
    have hdead := h.restoreAsked.resolve_left fun hquiet => hopen (exposure_of_quiet hquiet)
    exact ⟨exposure_of_cutShort hdead.1.cutShort h.priorOne.order,
      exposure_of_cutShort hdead.2.cutShort h.replacementOne.order⟩
  refine ⟨?_, justified_iff.mp h.history, h.settled⟩
  intro a ha b hb hopenA hopenB
  simp only [List.mem_cons, List.not_mem_nil, or_false] at ha hb
  rcases ha with rfl | rfl | rfl <;> rcases hb with rfl | rfl | rfl
  · rfl
  · exact absurd (hreplacement hopenB) hopenA
  · exact absurd (hrestore hopenB).1 hopenA
  · exact absurd (hreplacement hopenA) hopenB
  · rfl
  · exact absurd (hrestore hopenB).2 hopenA
  · exact absurd (hrestore hopenA).1 hopenB
  · exact absurd (hrestore hopenA).2 hopenB
  · rfl

/-- The venue's answers up to a moment: there the process dies for good. -/
def World.until (w : World RatchetStore) (moment : ℕ) : World RatchetStore :=
  { w with beats := w.beats.take moment }

/-- The stop of the position is for the position, and the identities of the handoff are new. -/
structure HandoffStart (ctx : RatchetContext V) (tick : RatchetTick) (w : World RatchetStore) :
    Prop where
  priorOrder : ∀ prior o, tick.position.stopOrderId = some prior →
    w.book.orders prior = some o → (o.quantity : ℤ) = tick.position.quantity
  priorInFlight : ∀ prior q, tick.position.stopOrderId = some prior →
    w.book.inFlight prior = some q → (q : ℤ) = tick.position.quantity
  replacement : w.book.Unasked tick.intentKey
  restore : w.book.Unasked (restoreKey ctx tick.intentKey)
  apart : tick.intentKey ≠ restoreKey ctx tick.intentKey
  intent : w.store.db.intents.get? tick.intentKey = none
  log : w.log = []

/-- The three stops of the handoff that a tick may start. -/
def handoffIds (ctx : RatchetContext V) (tick : RatchetTick) (prior : String) : HandoffIds :=
  ⟨prior, tick.intentKey, restoreKey ctx tick.intentKey⟩

theorem atMostOne_of_unasked {w : World RatchetStore} {orderId : String}
    (h : w.book.Unasked orderId) : w.AtMostOne orderId :=
  ⟨fun _ ho => absurd (h.1.symm.trans ho) nofun, fun _ hq => absurd (h.2.symm.trans hq) nofun⟩

theorem handoffInv_start {w : World RatchetStore} (h : HandoffStart ctx tick w) {prior : String}
    (hprior : tick.position.stopOrderId = some prior) (hquantity : tick.position.quantity = 1) :
    HandoffInv (handoffIds ctx tick prior) w where
  priorOne := by
    refine ⟨fun o ho => ?_, fun q hq => ?_⟩
    · have hone := (h.priorOrder prior o hprior ho).trans hquantity
      omega
    · have hone := (h.priorInFlight prior q hprior hq).trans hquantity
      omega
  replacementOne := atMostOne_of_unasked h.replacement
  restoreOne := atMostOne_of_unasked h.restore
  replacementAsked := .inl ⟨h.replacement, fun quantity hmem => by simp [h.log] at hmem⟩
  restoreAsked := .inl ⟨h.restore, fun quantity hmem => by simp [h.log] at hmem⟩
  row _ hrow := absurd (h.intent.symm.trans hrow) (Option.some_ne_none _).symm
  settled _ hrow := absurd (h.intent.symm.trans hrow) (Option.some_ne_none _).symm
  history := by
    rw [h.log]
    trivial

/-- A run keeps what its tick and its recoveries keep. -/
theorem ratchetHistory_induction {P : World RatchetStore → Prop} (recoveries : List TrackedPosition)
    (htick : ⦃fun w => ⌜P w⌝⦄ applyLiveSafetyStackRatchet ctx tick
      ⦃post⟨fun _ w => ⌜P w⌝, fun _ w => ⌜P w⌝⟩⦄)
    (hrecover : ∀ position, ⦃fun w => ⌜P w⌝⦄ recoverIntent ctx position tick.intentKey
      ⦃post⟨fun _ w => ⌜P w⌝, fun _ w => ⌜P w⌝⟩⦄) {w : World RatchetStore} (hw : P w) :
    P (ratchetHistory ctx tick recoveries w) := by
  have hafter : P (finalState (applyLiveSafetyStackRatchet ctx tick) w) :=
    finalState_of_triple htick hw
  unfold ratchetHistory
  -- the induction is over the recoveries, from wherever the one before them has left the world
  show P (recoveries.foldl _ (finalState (applyLiveSafetyStackRatchet ctx tick) w))
  generalize finalState (applyLiveSafetyStackRatchet ctx tick) w = world at hafter
  induction recoveries generalizing world with
  | nil => exact hafter
  | cons position rest ih =>
    rw [List.foldl_cons]
    exact ih _ (finalState_of_triple (hrecover position) hafter)

/-- Without one contract there is no handoff, and nothing to recover. -/
structure Untouched (tick : RatchetTick) (ids : HandoffIds) (w : World RatchetStore) : Prop where
  replacement : w.book.Unasked ids.replacement
  restore : w.book.Unasked ids.restore
  intent : w.store.db.intents.get? tick.intentKey = none
  log : w.log = []

theorem steady_untouched (tick : RatchetTick) (ids : HandoffIds) : Steady (Untouched tick ids) where
  moves _ ms _ h := ⟨OrderBook.unasked_moves ms h.replacement,
    OrderBook.unasked_moves ms h.restore, h.intent, h.log⟩

theorem ratchetRequest_of_not_applies (ctx : RatchetContext V) (h : tick.applies = false) :
    ratchetRequest ctx tick = pure none := by
  unfold ratchetRequest
  split
  case isTrue =>
    dsimp only
    split <;> rfl
  case isFalse happlies => exact absurd (by simp [h]) happlies

theorem applyLiveSafetyStackRatchet_untouched_spec (h : tick.applies = false) :
    ⦃fun w => ⌜Untouched tick ids w⌝⦄ applyLiveSafetyStackRatchet ctx tick
    ⦃post⟨fun _ w => ⌜Untouched tick ids w⌝, fun _ w => ⌜Untouched tick ids w⌝⟩⦄ := by
  have hnone := ratchetRequest_of_not_applies ctx h
  unfold applyLiveSafetyStackRatchet
  rw [hnone]
  mvcgen

theorem recoverIntent_untouched_spec (ctx : RatchetContext V) (position : TrackedPosition) :
    ⦃fun w => ⌜Untouched tick ids w⌝⦄ recoverIntent ctx position tick.intentKey
    ⦃post⟨fun _ w => ⌜Untouched tick ids w⌝, fun _ w => ⌜Untouched tick ids w⌝⟩⦄ := by
  have hbeat := nextBeat_spec (steady_untouched tick ids)
  mvcgen [recoverIntent, readDb, hbeat]
  rename_i h _ hrow _
  exact absurd (h.intent.symm.trans hrow) (Option.some_ne_none _).symm

theorem Untouched.safe {w : World RatchetStore} {prior : String}
    (h : Untouched tick (handoffIds ctx tick prior) w) :
    HandoffSafe (handoffIds ctx tick prior) w where
  single a ha b hb hopenA hopenB := by
    have hreplacement := OrderBook.exposure_of_unasked h.replacement
    have hrestore := OrderBook.exposure_of_unasked h.restore
    simp only [List.mem_cons, List.not_mem_nil, or_false] at ha hb
    rcases ha with rfl | rfl | rfl
    · rcases hb with rfl | rfl | rfl
      · rfl
      · exact absurd hreplacement hopenB
      · exact absurd hrestore hopenB
    · exact absurd hreplacement hopenA
    · exact absurd hrestore hopenA
  grounds event earlier hsuffix := by simp [h.log] at hsuffix
  resolved _ hrow := absurd (h.intent.symm.trans hrow) (Option.some_ne_none _).symm

/-- At every moment of the tick and of all recoveries after it, whenever each of them dies. -/
theorem stop_ratchet_handoff_is_crash_safe (ctx : RatchetContext V) (tick : RatchetTick)
    (recoveries : List TrackedPosition) (start : World RatchetStore) (prior : String)
    (hprior : tick.position.stopOrderId = some prior) (hstart : HandoffStart ctx tick start)
    (moment : ℕ) :
    HandoffSafe (handoffIds ctx tick prior)
      (ratchetHistory ctx tick recoveries (start.until moment)) := by
  have huntil : HandoffStart ctx tick (start.until moment) :=
    ⟨hstart.priorOrder, hstart.priorInFlight, hstart.replacement, hstart.restore, hstart.apart,
      hstart.intent, hstart.log⟩
  cases happlies : tick.applies with
  | false =>
    have huntouched : Untouched tick (handoffIds ctx tick prior) (start.until moment) :=
      ⟨huntil.replacement, huntil.restore, huntil.intent, huntil.log⟩
    have hend := ratchetHistory_induction recoveries
      (applyLiveSafetyStackRatchet_untouched_spec happlies)
      (fun position => recoverIntent_untouched_spec ctx position) huntouched
    exact hend.safe
  | true =>
    have hone := quantity_of_applies happlies
    have htick : TickOf ctx tick (handoffIds ctx tick prior) := ⟨rfl, rfl, hstart.apart⟩
    have hstops : ∀ p, tick.position.stopOrderId = some p → p = prior := fun p hp =>
      Option.some.inj (hp.symm.trans hprior)
    have hend := ratchetHistory_induction recoveries
      (applyLiveSafetyStackRatchet_spec htick hstops)
      (fun position => recoverIntent_spec htick.restore htick.apart position)
      (handoffInv_start huntil hprior hone)
    exact hend.safe

end History

namespace CanaryTick

def context : RatchetContext Unit where
  codec := ⟨fun _ => .ok "", fun _ => "", id⟩
  uuid5 name := name ++ ":v5"
  power x := x
  evidence _ := []

def position : TrackedPosition where
  symbol := "SPY"
  deploymentId := "d1"
  tradeId := some "t1"
  optionSymbol := some "SPY260116C00600000"
  quantity := 1
  stopOrderId := some "stop"
  stopPrice := some (1 / 2)

def durable : ExitRuntimeState where
  tradeId := "t1"
  deploymentId := "d1"
  optionSymbol := some "SPY260116C00600000"
  policyHash := "h1"
  seedEntryPremium := 1
  seedQuantity := 1
  initialRiskPerContract := 1 / 2
  rawPeakPremium := 1
  confirmedPeakR := 0
  committedStopPrice := some (1 / 2)

/-- The bid has come to two units of the initial risk. -/
def tick : RatchetTick where
  deploymentId := "d1"
  maxQuoteAgeMs := 1000
  maxSpreadPct := 1 / 10
  position := position
  quote := ⟨"SPY260116C00600000", some 2, some 2, some 0, some 0, "10:00"⟩
  policy := some ⟨"h1", true, some 5, some 1⟩
  durable := some durable
  canonicalStop := some
  intentKey := "intent"

def canceled : OrderPayload where
  status := some .canceled

/-- The stop is cancelled, and the process dies while the venue takes the replacement. -/
def start : World RatchetStore where
  store := { db := ⟨Table.empty, ⟨[⟨durable, "09:30"⟩], by simp⟩, Table.empty⟩ }
  book := ⟨fun i => if i = "stop" then some (.opened 1 true) else none, fun _ => none⟩
  beats := [{}, {}, {}, {}, {}, { moves := [.die "stop"] }, { readback := .payload canceled }, {}, {},
    { verdict := .lost }, { dies := true }, {}, {}, { verdict := .accepted }]

theorem handoff_start : HandoffStart context tick start where
  priorOrder prior o hprior ho := by
    obtain rfl := Option.some.inj hprior
    obtain rfl := Option.some.inj ho
    rfl
  priorInFlight _ _ _ hq := absurd hq.symm (Option.some_ne_none _)
  replacement := ⟨rfl, rfl⟩
  restore := ⟨rfl, rfl⟩
  apart := by decide
  intent := rfl
  log := rfl

end CanaryTick

theorem stop_ratchet_handoff_is_crash_safe_canary :
    HandoffSafe (handoffIds CanaryTick.context CanaryTick.tick "stop")
      (ratchetHistory CanaryTick.context CanaryTick.tick [CanaryTick.position]
        (CanaryTick.start.until 13)) :=
  stop_ratchet_handoff_is_crash_safe CanaryTick.context CanaryTick.tick [CanaryTick.position]
    CanaryTick.start "stop" rfl CanaryTick.handoff_start 13

end Bhiksha.Live
