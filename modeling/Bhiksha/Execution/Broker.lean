import Mathlib
import Bhiksha.Python
import Bhiksha.Library.OrderBook

/-! The order manager over Public's order API. An order identity is the client order id, and the
venue acts on its own before every answer. -/

namespace Bhiksha.Live

open Library Std.Do

set_option mvcgen.warning false

inductive OrderSide where
  | buy
  | sell
deriving DecidableEq, Repr

inductive OrderType where
  | market
  | limit
  | stop
deriving DecidableEq, Repr

/-- The statuses of `order_status.py`, upper-cased, and whatever else a payload may carry. -/
inductive PublicStatus where
  | new
  | submitted
  | acknowledged
  | partiallyFilled
  | pendingCancel
  | pendingReplace
  | queuedCancelled
  | filled
  | canceled
  | cancelled
  | rejected
  | expired
  | other (text : String)
deriving DecidableEq, Repr

/-- `PUBLIC_DEAD_ORDER_STATUSES`. -/
def PublicStatus.isDead : PublicStatus → Bool
  | canceled | cancelled | rejected | expired => true
  | _ => false

/-- `PUBLIC_WORKING_ORDER_STATUSES`. -/
def PublicStatus.isWorking : PublicStatus → Bool
  | new | submitted | acknowledged | partiallyFilled | pendingCancel | pendingReplace
  | queuedCancelled => true
  | _ => false

/-- A field of a payload as `float` reads it. -/
inductive JsonNumber where
  | missing
  | value (x : ℚ)
  | malformed
deriving DecidableEq, Repr

namespace JsonNumber

/-- `_maybe_float`. -/
def maybeFloat : JsonNumber → Option ℚ
  | value x => some x
  | _ => none

/-- `_maybe_int`. -/
def maybeInt (n : JsonNumber) : Option ℤ := n.maybeFloat.map Python.truncate

end JsonNumber

/-- `normalize_option_symbol`. -/
def normalizeOptionSymbol (symbol : String) : String :=
  let text := (Python.strip symbol).toUpper.toList.filter (· ≠ ' ')
  let suffix := "-OPTION".toList
  String.ofList (if suffix.isSuffixOf text then text.take (text.length - 7) else text)

/-- What the readers of an order payload look at; the contract is the normalized instrument symbol,
empty where there is none. -/
structure OrderPayload where
  status : Option PublicStatus := none
  contract : String := ""
  side : Option OrderSide := none
  orderType : Option OrderType := none
  closes : Bool := false
  quantity : JsonNumber := .missing
  filledQuantity : JsonNumber := .missing
  stopPrice : JsonNumber := .missing
deriving DecidableEq, Repr

/-- The answer of `get_order_status`. -/
inductive Readback where
  | payload (p : OrderPayload)
  | notIndexed
  | failed
deriving DecidableEq, Repr

namespace OrderPayload

def isDead (p : OrderPayload) : Bool := p.status.any PublicStatus.isDead

/-- `_remaining_order_quantity`. -/
def remainingQuantity (p : OrderPayload) : Option ℤ :=
  let filled := if p.filledQuantity = .missing then some 0 else p.filledQuantity.maybeInt
  match p.quantity.maybeInt, filled with
  | some quantity, some filled =>
    if quantity < 0 ∨ filled < 0 ∨ filled > quantity then none else some (quantity - filled)
  | _, _ => none

/-- `_matches_exit_order_identity`. -/
def matchesExitOrder (p : OrderPayload) (optionSymbol : Option String) : Bool :=
  if optionSymbol.any fun symbol =>
      p.contract ≠ "" ∧ p.contract ≠ normalizeOptionSymbol symbol then false
  else p.side = some .sell ∧ p.closes

/-- `public_order_confirmed_dead_unfilled`. -/
def confirmedDeadUnfilled (p : OrderPayload) : Bool :=
  p.isDead && (p.filledQuantity = .missing || p.filledQuantity = .value 0)

/-- A payload that says the order is dead and does not say that any of it was executed. -/
def ShowsDeadUnfilled (p : OrderPayload) : Prop :=
  p.isDead = true ∧ (p.filledQuantity = .missing ∨ p.filledQuantity.maybeInt = some 0)

theorem showsDeadUnfilled_of_confirmed {p : OrderPayload} (h : p.confirmedDeadUnfilled = true) :
    p.ShowsDeadUnfilled := by
  simp only [confirmedDeadUnfilled, Bool.and_eq_true, Bool.or_eq_true, decide_eq_true_eq] at h
  refine ⟨h.1, h.2.imp id fun hzero => ?_⟩
  rw [hzero]
  simp [JsonNumber.maybeInt, JsonNumber.maybeFloat, Python.truncate]

/-- What a payload says of an order is so, and a quantity that it reports of a live order may be an
earlier one. An order that was executed in whole is not called dead without its quantity. -/
def TrueOf (p : OrderPayload) (o : VenueOrder) : Prop :=
  (p.isDead = true → o.alive = false ∧
      (o.filled < o.quantity ∨ p.filledQuantity = .value o.filled) ∧
      ∀ x ∈ p.filledQuantity.maybeFloat, x = o.filled) ∧
    (p.status = some .filled → o.filled = o.quantity) ∧
    ∀ x ∈ p.filledQuantity.maybeFloat, x ≤ o.filled

instance (p : OrderPayload) (o : VenueOrder) : Decidable (p.TrueOf o) :=
  inferInstanceAs (Decidable ((_ → _ ∧ _ ∧ _) ∧ (_ → _) ∧ _))

end OrderPayload

/-- What the venue does before an answer, and the answer that the running call gets. -/
structure Beat where
  moves : List (VenueMove String) := []
  dies : Bool := false
  verdict : Verdict := .lost
  incrementRejected : Bool := false
  readback : Readback := .failed
  now : String := ""

/-- What the process has asked and been told, and the intents that it has settled. -/
inductive DeskEvent where
  | asked (orderId : String) (quantity : ℤ)
  | read (orderId : String) (readback : Readback)
  | settled (key : String)
deriving DecidableEq, Repr

/-- The desk's own records, the venue, and the history of the calls, the latest first. -/
structure World (σ : Type) where
  store : σ
  book : OrderBook String
  /-- What the venue reports beyond the truth. -/
  reports : OrderPayload → VenueOrder → Bool := fun _ _ => true
  beats : List Beat
  log : List DeskEvent := []

inductive Interruption where
  | died
  | raised (e : PyException)
deriving DecidableEq, Repr

abbrev Desk (σ : Type) := ExceptT Interruption (StateM (World σ))

variable {σ : Type}

namespace World

def note (w : World σ) (event : DeskEvent) : World σ := { w with log := event :: w.log }

def ask (w : World σ) (orderId : String) (quantity : ℤ) (verdict : Verdict) : World σ :=
  { w with
    book := w.book.request orderId quantity.toNat verdict
    log := .asked orderId quantity :: w.log }

/-- The venue may answer a status request so. -/
def Tells (w : World σ) (orderId : String) : Readback → Prop
  | .payload p => ∃ o ∈ w.book.orders orderId, p.TrueOf o ∧ w.reports p o = true
  | _ => True

instance (w : World σ) (orderId : String) : DecidablePred (w.Tells orderId)
  | .payload p =>
    inferInstanceAs (Decidable (∃ o ∈ w.book.orders orderId, p.TrueOf o ∧ w.reports p o = true))
  | .notIndexed => isTrue trivial
  | .failed => isTrue trivial

theorem tells_answer (w : World σ) (orderId : String) (readback : Readback) :
    w.Tells orderId (if w.Tells orderId readback then readback else .failed) := by
  split
  · assumption
  · trivial

end World

/-- One await: time passes at the venue, and the process may not come back. -/
def nextBeat : Desk σ Beat := do
  let world ← get
  match world.beats with
  | [] => throw .died
  | beat :: rest =>
    set { world with beats := rest, book := world.book.moves beat.moves }
    if beat.dies then throw .died else pure beat

def getOrderStatus (orderId : String) : Desk σ Readback := do
  let beat ← nextBeat
  let world ← get
  -- an answer that the venue cannot give is a request that failed
  let readback := if world.Tells orderId beat.readback then beat.readback else .failed
  set (world.note (.read orderId readback))
  pure readback

/-- `cancel_order`: the request, whose answer does not matter, and one status read. -/
def cancelOrder (orderId : String) : Desk σ Bool := do
  let _ ← nextBeat
  match ← getOrderStatus orderId with
  | .payload p => pure p.confirmedDeadUnfilled
  | _ => pure false

structure OrderResult where
  orderId : Option String
  incrementRejected : Bool := false
  submissionUncertain : Bool := false
deriving DecidableEq, Repr

/-- `_submit`: a response without an order id counts as lost. -/
def submit (side : OrderSide) (orderId : String) (quantity : ℤ) : Desk σ OrderResult := do
  let beat ← nextBeat
  modify fun world => world.ask orderId quantity beat.verdict
  match beat.verdict with
  | .accepted => pure ⟨some orderId, false, false⟩
  | .refused => pure ⟨none, beat.incrementRejected, false⟩
  | .lost => pure ⟨if side = .buy then some orderId else none, false, side = .buy⟩

/-- `_submit_with_increment_retry` for a sale: the same order once more at a price on the grid. -/
def submitWithIncrementRetry (orderId : String) (quantity : ℤ) : Desk σ OrderResult := do
  let result ← submit .sell orderId quantity
  if result.incrementRejected then submit .sell orderId quantity else pure result

def placeStopLossOrder (orderId : String) (quantity : ℤ) : Desk σ OrderResult :=
  submitWithIncrementRetry orderId quantity

inductive StopOutcome where
  | fullFill
  | partialFill
  | working
  | deadZeroFill
  | ambiguous
deriving DecidableEq, Repr

def StopOutcome.isFill (outcome : StopOutcome) : Bool :=
  outcome = .fullFill ∨ outcome = .partialFill

/-- What `_classify_stop_readback` makes of one payload. -/
def OrderPayload.stopOutcome (p : OrderPayload) (optionSymbol : String) (quantity : ℤ)
    (stopPrice : ℚ) : StopOutcome :=
  let exactIdentity : Bool := p.matchesExitOrder (some optionSymbol) ∧
    p.contract = normalizeOptionSymbol optionSymbol ∧ p.side = some .sell ∧
    p.orderType = some .stop
  let filled := p.filledQuantity.maybeInt
  if exactIdentity ∧ (p.status = some .filled ∨ filled.any (0 < ·)) then
    if p.status = some .filled ∨ filled.any (quantity ≤ ·) then .fullFill else .partialFill
  else if exactIdentity ∧ p.status.any PublicStatus.isWorking ∧
      p.remainingQuantity = some quantity ∧
      p.stopPrice.maybeFloat.any fun x => Python.roundTo 2 x = Python.roundTo 2 stopPrice then
    .working
  else if exactIdentity ∧ p.isDead ∧ filled = some 0 then .deadZeroFill
  else .ambiguous

/-- `_classify_stop_readback`: an order that is not indexed yet is read again. -/
def classifyStop (orderId optionSymbol : String) (quantity : ℤ) (stopPrice : ℚ) :
    ℕ → Desk σ StopOutcome
  | 0 => pure .ambiguous
  | attempts + 1 => do
    match ← getOrderStatus orderId with
    | .payload p => pure (p.stopOutcome optionSymbol quantity stopPrice)
    | .notIndexed => classifyStop orderId optionSymbol quantity stopPrice attempts
    | .failed => pure .ambiguous

def classifyStopReadback (orderId optionSymbol : String) (quantity : ℤ) (stopPrice : ℚ) :
    Desk σ StopOutcome :=
  classifyStop orderId optionSymbol quantity stopPrice 3

section Proved

/-- The order is dead and was not executed in whole, unless it asked for nothing. -/
def World.CutShort (w : World σ) (orderId : String) : Prop :=
  ∃ o, w.book.orders orderId = some o ∧ o.alive = false ∧ (o.filled < o.quantity ∨ o.filled = 0)

/-- A read has shown the order dead with nothing executed. -/
structure World.ProvedDead (w : World σ) (orderId : String) : Prop where
  cutShort : w.CutShort orderId
  shown : ∃ p : OrderPayload, .read orderId (.payload p) ∈ w.log ∧ p.ShowsDeadUnfilled

/-- An assertion that the venue cannot break. -/
structure Steady (I : World σ → Prop) : Prop where
  moves : ∀ w ms beats, I w → I { w with book := w.book.moves ms, beats := beats }

/-- An assertion that the venue cannot break and that a status read leaves alone. -/
structure Lasting (I : World σ → Prop) : Prop extends Steady I where
  read : ∀ w orderId readback, w.Tells orderId readback → I w → I (w.note (.read orderId readback))

theorem Steady.and {I J : World σ → Prop} (hI : Steady I) (hJ : Steady J) :
    Steady fun w => I w ∧ J w where
  moves w ms beats h := ⟨hI.moves w ms beats h.1, hJ.moves w ms beats h.2⟩

theorem Lasting.and {I J : World σ → Prop} (hI : Lasting I) (hJ : Lasting J) :
    Lasting fun w => I w ∧ J w where
  toSteady := hI.toSteady.and hJ.toSteady
  read w orderId readback ht h :=
    ⟨hI.read w orderId readback ht h.1, hJ.read w orderId readback ht h.2⟩

theorem Lasting.or {I J : World σ → Prop} (hI : Lasting I) (hJ : Lasting J) :
    Lasting fun w => I w ∨ J w where
  moves w ms beats h := h.imp (hI.moves w ms beats) (hJ.moves w ms beats)
  read w orderId readback ht h :=
    h.imp (hI.read w orderId readback ht) (hJ.read w orderId readback ht)

theorem lasting_const (p : Prop) : Lasting fun _ : World σ => p where
  moves _ _ _ h := h
  read _ _ _ _ h := h

theorem lasting_imp {p : Prop} {I : World σ → Prop} (hI : Lasting I) :
    Lasting fun w => p → I w where
  moves w ms beats h hp := hI.moves w ms beats (h hp)
  read w orderId readback ht h hp := hI.read w orderId readback ht (h hp)

theorem lasting_cutShort (orderId : String) : Lasting fun w : World σ => w.CutShort orderId where
  moves w ms _ := by
    rintro ⟨o, ho, ha, hf⟩
    obtain ⟨o', ho', -, -, hd⟩ := OrderBook.order_moves ms ho
    obtain rfl := hd ha
    exact ⟨o', ho', ha, hf⟩
  read _ _ _ _ h := h

theorem lasting_provedDead (orderId : String) :
    Lasting fun w : World σ => w.ProvedDead orderId where
  moves w ms beats h := ⟨(lasting_cutShort orderId).moves w ms beats h.1, h.2⟩
  read w _ _ _ h := by
    obtain ⟨p, hp, hd⟩ := h.shown
    exact ⟨h.cutShort, p, List.mem_cons_of_mem _ hp, hd⟩

/-- Only a dead order can truthfully be shown dead with nothing executed. -/
theorem provedDead_of_shown {w : World σ} {orderId : String} {p : OrderPayload}
    (ht : w.Tells orderId (.payload p)) (hlog : .read orderId (.payload p) ∈ w.log)
    (hp : p.ShowsDeadUnfilled) : w.ProvedDead orderId := by
  obtain ⟨o, ho, ⟨hdead, -, -⟩, -⟩ := ht
  obtain ⟨ha, hshort, hexact⟩ := hdead hp.1
  refine ⟨⟨o, Option.mem_def.mp ho, ha, ?_⟩, p, hlog, hp⟩
  rcases hshort with hlt | hvalue
  · exact .inl hlt
  · -- a reported quantity is the executed one, and what was reported is nothing
    right
    rcases hp.2 with hmissing | hzero
    · rw [hvalue] at hmissing
      cases hmissing
    · rw [hvalue] at hzero
      simpa [JsonNumber.maybeInt, JsonNumber.maybeFloat, Python.truncate] using hzero

theorem showsDeadUnfilled_of_deadZeroFill {p : OrderPayload} {optionSymbol : String} {quantity : ℤ}
    {stopPrice : ℚ} (h : p.stopOutcome optionSymbol quantity stopPrice = .deadZeroFill) :
    p.ShowsDeadUnfilled := by
  unfold OrderPayload.stopOutcome at h
  simp only at h
  split_ifs at h with _ _ _ hdead
  exact ⟨hdead.2.1, .inr hdead.2.2⟩

end Proved

/-- The last entry of the log is a read of the order, and one that the venue can give. -/
def World.JustRead (w : World σ) (orderId : String) (readback : Readback) : Prop :=
  w.Tells orderId readback ∧ w.log.head? = some (.read orderId readback)

section Specs

variable {I : World σ → Prop}

theorem nextBeat_spec (hI : Steady I) :
    ⦃fun w => ⌜I w⌝⦄ (nextBeat : Desk σ Beat) ⦃post⟨fun _ w => ⌜I w⌝, fun _ w => ⌜I w⌝⟩⦄ := by
  mvcgen [nextBeat]
  all_goals first
    | exact ‹I _›
    | exact hI.moves _ _ _ ‹I _›

theorem getOrderStatus_spec (hI : Lasting I) (orderId : String) :
    ⦃fun w => ⌜I w⌝⦄ (getOrderStatus orderId : Desk σ Readback)
    ⦃post⟨fun readback w => ⌜I w ∧ w.JustRead orderId readback⌝, fun _ w => ⌜I w⌝⟩⦄ := by
  have hbeat := nextBeat_spec hI.toSteady
  mvcgen [getOrderStatus, hbeat]
  rename_i beat world hworld readback
  have ht : world.Tells orderId readback := World.tells_answer world orderId beat.readback
  exact ⟨hI.read _ _ _ ht hworld, ht, rfl⟩

theorem cancelOrder_spec (hI : Lasting I) (orderId : String) :
    ⦃fun w => ⌜I w⌝⦄ (cancelOrder orderId : Desk σ Bool)
    ⦃post⟨fun canceled w => ⌜I w ∧ (canceled = true → w.ProvedDead orderId)⌝,
      fun _ w => ⌜I w⌝⟩⦄ := by
  have hbeat := nextBeat_spec hI.toSteady
  have hread := getOrderStatus_spec hI orderId
  mvcgen [cancelOrder, hbeat, hread]
  · rename_i p world hread
    obtain ⟨hworld, ht, hlog⟩ := hread
    refine ⟨hworld, fun hdead => ?_⟩
    exact provedDead_of_shown ht (List.mem_of_mem_head? hlog)
      (OrderPayload.showsDeadUnfilled_of_confirmed hdead)
  · exact ⟨‹_ ∧ _›.1, nofun⟩

/-- What is known after a stop was classified. -/
structure World.Classified (w : World σ) (orderId optionSymbol : String) (quantity : ℤ)
    (stopPrice : ℚ) (outcome : StopOutcome) : Prop where
  dead : outcome = .deadZeroFill → w.ProvedDead orderId
  shown : outcome ≠ .ambiguous → ∃ p : OrderPayload,
    w.log.head? = some (.read orderId (.payload p)) ∧
      p.stopOutcome optionSymbol quantity stopPrice = outcome

theorem classified_ambiguous (w : World σ) (orderId optionSymbol : String) (quantity : ℤ)
    (stopPrice : ℚ) : w.Classified orderId optionSymbol quantity stopPrice .ambiguous :=
  ⟨nofun, fun h => absurd rfl h⟩

theorem classified_of_justRead {w : World σ} {orderId : String} {p : OrderPayload}
    (h : w.JustRead orderId (.payload p)) (optionSymbol : String) (quantity : ℤ) (stopPrice : ℚ) :
    w.Classified orderId optionSymbol quantity stopPrice
      (p.stopOutcome optionSymbol quantity stopPrice) where
  dead ho := provedDead_of_shown h.1 (List.mem_of_mem_head? h.2)
    (showsDeadUnfilled_of_deadZeroFill ho)
  shown _ := ⟨p, h.2, rfl⟩

theorem classifyStop_spec (hI : Lasting I) (orderId optionSymbol : String) (quantity : ℤ)
    (stopPrice : ℚ) (attempts : ℕ) :
    ⦃fun w => ⌜I w⌝⦄
    (classifyStop orderId optionSymbol quantity stopPrice attempts : Desk σ StopOutcome)
    ⦃post⟨fun outcome w => ⌜I w ∧ w.Classified orderId optionSymbol quantity stopPrice outcome⌝,
      fun _ w => ⌜I w⌝⟩⦄ := by
  have hread := getOrderStatus_spec hI orderId
  induction attempts with
  | zero =>
    mvcgen [classifyStop]
    exact ⟨‹I _›, classified_ambiguous _ _ _ _ _⟩
  | succ attempts ih =>
    mvcgen [classifyStop, hread, ih]
    · exact ⟨‹_ ∧ _›.1, classified_of_justRead ‹_ ∧ _›.2 _ _ _⟩
    · exact ‹_ ∧ _›.1
    · exact ⟨‹_ ∧ _›.1, classified_ambiguous _ _ _ _ _⟩

theorem classifyStopReadback_spec (hI : Lasting I) (orderId optionSymbol : String) (quantity : ℤ)
    (stopPrice : ℚ) :
    ⦃fun w => ⌜I w⌝⦄
    (classifyStopReadback orderId optionSymbol quantity stopPrice : Desk σ StopOutcome)
    ⦃post⟨fun outcome w => ⌜I w ∧ w.Classified orderId optionSymbol quantity stopPrice outcome⌝,
      fun _ w => ⌜I w⌝⟩⦄ :=
  classifyStop_spec hI orderId optionSymbol quantity stopPrice 3

/-- A submission that the assertion survives, whatever becomes of it. -/
def World.Submits (I : World σ → Prop) (orderId : String) (quantity : ℤ) : Prop :=
  ∀ w verdict, I w → I (w.ask orderId quantity verdict)

theorem submit_spec (hI : Steady I) (side : OrderSide) {orderId : String} {quantity : ℤ}
    (hask : World.Submits I orderId quantity) :
    ⦃fun w => ⌜I w⌝⦄ (submit side orderId quantity : Desk σ OrderResult)
    ⦃post⟨fun result w => ⌜I w ∧ result.orderId.getD orderId = orderId⌝, fun _ w => ⌜I w⌝⟩⦄ := by
  have hbeat := nextBeat_spec hI
  mvcgen [submit, hbeat]
  · exact ⟨hask _ _ ‹I _›, rfl⟩
  · exact ⟨hask _ _ ‹I _›, rfl⟩
  · refine ⟨hask _ _ ‹I _›, ?_⟩
    split
    · rfl
    · rfl

theorem placeStopLossOrder_spec (hI : Steady I) {orderId : String} {quantity : ℤ}
    (hask : World.Submits I orderId quantity) :
    ⦃fun w => ⌜I w⌝⦄ (placeStopLossOrder orderId quantity : Desk σ OrderResult)
    ⦃post⟨fun result w => ⌜I w ∧ result.orderId.getD orderId = orderId⌝, fun _ w => ⌜I w⌝⟩⦄ := by
  have hsubmit := submit_spec hI .sell hask
  mvcgen [placeStopLossOrder, submitWithIncrementRetry, hsubmit]
  exact ‹_ ∧ _›.1

end Specs

end Bhiksha.Live
