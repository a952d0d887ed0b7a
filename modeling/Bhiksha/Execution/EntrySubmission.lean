import Mathlib
import Bhiksha.Library.Stateful
import Bhiksha.Execution.Broker
import Bhiksha.Execution.EntryPricing

/-! A BUY on its way through the order manager: the preflight, the correction to the broker's price
increment and the one retry, with everything that is sent and answered. -/

namespace Bhiksha.Buy

open Library Python Live Std.Do

set_option mvcgen.warning false

section Increments

/-- What `_PRICE_INCREMENT_RE` reads where the word starts. -/
def incrementAt (text : List Char) : Option ℚ :=
  if "increment".toList.isPrefixOf (text.map Char.toLower) then
    match (text.drop 9).dropWhile (· ≠ '$') with
    | [] => none
    | _ :: amount =>
      let whole := amount.takeWhile Char.isDigit
      let fraction := match amount.dropWhile Char.isDigit with
        | '.' :: rest => rest.takeWhile Char.isDigit
        | _ => []
      if whole.isEmpty then none
      else do
        let units ← digits? whole
        let parts ← digits? fraction
        return units + (parts : ℚ) / 10 ^ fraction.length
  else none

def searchIncrement : List Char → Option ℚ
  | [] => none
  | c :: text => (incrementAt (c :: text)).or (searchIncrement text)

def defaultOptionTickIncrement : ℚ := 5 / 100

/-- `_extract_price_increment`: an amount that is no number or zero gives the default. -/
def extractPriceIncrement (message : String) : Option ℚ :=
  let text := message.toList
  match (searchIncrement text).filter (· ≠ 0) with
  | some increment => some increment
  | none =>
    if '$' ∈ text ∧ "increment".toList <:+: text.map Char.toLower then
      some defaultOptionTickIncrement
    else none

example : extractPriceIncrement "Increments must be of $0.05 for this option" = some (5 / 100) := by
  decide +kernel

/-- `underlying_symbol_from_option`. -/
def underlyingSymbolFromOption (optionSymbol : String) : Option String :=
  let text := (normalizeOptionSymbol optionSymbol).toList
  let underlying := text.takeWhile Char.isUpper
  match (text.dropWhile Char.isUpper).splitAt 6 with
  | (date, kind :: strike) =>
    if underlying.isEmpty ∨ date.length ≠ 6 ∨ date.any (!·.isDigit) ∨ (kind ≠ 'C' ∧ kind ≠ 'P') ∨
        strike.length ≠ 8 ∨ strike.any (!·.isDigit) then none
    else some (String.ofList underlying)
  | _ => none

example : underlyingSymbolFromOption "spy251219c00600000-OPTION" = some "SPY" := by decide +kernel

/-- A positive number of whole cents. -/
def IsTick (increment : ℚ) : Prop := 0 < increment ∧ increment ∈ decimalGrid 2

/-- On whole cents a snapped price is positive and not above the value. -/
theorem ensures_snapPrice_tick (value : ℚ) {increment : ℚ} (h : IsTick increment) :
    Ensures (snapPrice value increment) fun price =>
      0 < price ∧ price ∈ decimalGrid 2 ∧ price ≤ value := by
  refine ensures_ite (fun _ => ensures_error _ _) fun _ => ?_
  refine ensures_ite (fun _ => ensures_error _ _) fun hpos => ensures_ok ?_
  have hgrid : (⌊value / increment⌋ : ℚ) * increment ∈ decimalGrid 2 := by
    have hmul := (decimalGrid 2).zsmul_mem h.2 ⌊value / increment⌋
    rwa [zsmul_eq_mul] at hmul
  have hfloor : (⌊value / increment⌋ : ℚ) * increment ≤ value :=
    (le_div_iff₀ h.1).mp (Int.floor_le _)
  rw [roundPrice_of_mem hgrid]
  exact ⟨lt_of_not_ge hpos, hgrid, hfloor⟩

end Increments

section Wire

/-- What the order manager fills in of an entry payload. -/
structure EntryPayload where
  orderId : String
  symbol : String
  quantity : ℤ
  limitPrice : ℚ
deriving DecidableEq, Repr

/-- An exception of a broker call, with its `_exception_message`. -/
inductive CallError where
  | httpStatus (code : ℕ) (message : String)
  /-- `httpx.RequestError` and `TimeoutError`. -/
  | transport (typeName message : String)
  | other (typeName message : String)
deriving DecidableEq, Repr

namespace CallError

def message : CallError → String
  | httpStatus _ message | transport _ message | other _ message => message

/-- The broker refused the order for good. -/
def isDefinite : CallError → Bool
  | httpStatus code _ => 400 ≤ code ∧ code < 500 ∧ code ∉ [408, 409, 429]
  | _ => false

/-- The increment that a validation error names. -/
def namedIncrement : CallError → Option ℚ
  | httpStatus code message => if code ∈ [400, 422] then extractPriceIncrement message else none
  | _ => none

end CallError

structure PreflightResponse where
  currentIncrement : JsonNumber := .missing
  buyingPowerRequirement : JsonNumber := .missing
  estimatedCost : JsonNumber := .missing
deriving DecidableEq, Repr

inductive PreflightAnswer where
  | response (r : PreflightResponse)
  /-- A response whose fields cannot be looked up. -/
  | unusable
  | failed (e : CallError)
deriving DecidableEq, Repr

inductive OrderAnswer where
  | response (orderId : Option String)
  | failed (e : CallError)
deriving DecidableEq, Repr

/-- A call of the broker and what came back. -/
inductive Exchange where
  | priced (payload : EntryPayload) (answer : PreflightAnswer)
  | sent (payload : EntryPayload) (answer : OrderAnswer)
deriving DecidableEq, Repr

def Exchange.payload : Exchange → EntryPayload
  | priced payload _ | sent payload _ => payload

def Exchange.submission : Exchange → Option (EntryPayload × OrderAnswer)
  | priced _ _ => none
  | sent payload answer => some (payload, answer)

abbrev Submissions := List (EntryPayload × OrderAnswer)

/-- The answers by the number of calls made before. -/
structure BrokerAnswers where
  preflight : ℕ → PreflightAnswer
  order : ℕ → OrderAnswer
  submissionGuard : ℕ → Option String
  /-- `uuid.uuid4`. -/
  freshOrderId : ℕ → String
  /-- The increments that other orders learn during a call. -/
  meanwhile : ℕ → List (String × ℚ) := fun _ => []

structure OrderManager where
  priceIncrements : String → Option ℚ
  underlyingPriceIncrements : String → Option ℚ
  calls : ℕ := 0
  exchanges : List Exchange := []

namespace OrderManager

variable (m : OrderManager)

/-- `_lookup_price_increment`. -/
def lookupPriceIncrement (optionSymbol : String) : Option ℚ :=
  match m.priceIncrements (normalizeOptionSymbol optionSymbol) with
  | some increment => some increment
  | none =>
    (underlyingSymbolFromOption (normalizeOptionSymbol optionSymbol)).bind
      m.underlyingPriceIncrements

/-- `_cache_price_increment`. -/
def cachePriceIncrement (optionSymbol : String) (increment : ℚ) : OrderManager :=
  let symbol := normalizeOptionSymbol optionSymbol
  { m with
    priceIncrements := Function.update m.priceIncrements symbol (some increment)
    underlyingPriceIncrements :=
      match underlyingSymbolFromOption symbol with
      | some underlying =>
        Function.update m.underlyingPriceIncrements underlying (some increment)
      | none => m.underlyingPriceIncrements }

/-- The state after a call. -/
def answered (exchange : Exchange) (learned : List (String × ℚ)) : OrderManager :=
  let m := learned.foldl (fun m entry => m.cachePriceIncrement entry.1 entry.2) m
  { m with calls := m.calls + 1, exchanges := m.exchanges ++ [exchange] }

def submissions : Submissions := m.exchanges.filterMap Exchange.submission

end OrderManager

/-- How a call of the order manager fails. -/
inductive Failure where
  | broker (e : CallError)
  | python (e : PyException)
  | attributeError
deriving DecidableEq, Repr

namespace Failure

def typeName : Failure → String
  | broker (.httpStatus _ _) => "HTTPStatusError"
  | broker (.transport name _) | broker (.other name _) => name
  | python _ => "ValueError"
  | attributeError => "AttributeError"

/-- `preflight_failure_is_transient`. -/
def isTransient : Failure → Bool
  | broker (.httpStatus code _) => code = 408 ∨ code = 429 ∨ 500 ≤ code
  | broker (.transport _ _) => true
  | _ => false

end Failure

structure PreflightCheck where
  payload : EntryPayload
  currentIncrement : Option ℚ
  buyingPowerRequirement : Option ℚ
  estimatedCost : Option ℚ
deriving DecidableEq, Repr

structure OrderResult where
  orderId : Option String
  error : Option String := none
  actualLimitPrice : Option ℚ := none
  incrementRejected : Bool := false
  submissionUncertain : Bool := false
  submissionAttempted : Bool := true
  preSubmissionRetryable : Bool := false
deriving DecidableEq, Repr

abbrev BuyM := ExceptT Failure (StateM OrderManager)

def liftPy {α : Type} (x : Except PyException α) : BuyM α :=
  match x with
  | .ok a => pure a
  | .error e => throw (.python e)

variable (answers : BrokerAnswers)

def preflightSingleLeg (payload : EntryPayload) : BuyM PreflightAnswer := do
  let m ← get
  let answer := answers.preflight m.calls
  set (m.answered (.priced payload answer) (answers.meanwhile m.calls))
  return answer

def placeOrder (payload : EntryPayload) : BuyM OrderAnswer := do
  let m ← get
  let answer := answers.order m.calls
  set (m.answered (.sent payload answer) (answers.meanwhile m.calls))
  return answer

/-- `_entry_payload`. -/
def entryPayload (orderId optionSymbol : String) (limitPrice : ℚ) (quantity : ℤ) : EntryPayload :=
  ⟨orderId, normalizeOptionSymbol optionSymbol, quantity, roundPrice limitPrice⟩

/-- The payload at an increment, if one is known. -/
def snapped (payload : EntryPayload) (value : ℚ) (increment : Option ℚ) :
    Except PyException EntryPayload :=
  match increment.filter (· ≠ 0) with
  | none => .ok payload
  | some increment => do return { payload with limitPrice := ← snapPrice value increment }

/-- One round of `preflight_entry`: the check, or the payload and the increment of the next one. -/
def preflightRound (optionSymbol : String) (limitPrice : ℚ) (payload : EntryPayload)
    (increment : Option ℚ) : BuyM (PreflightCheck ⊕ EntryPayload × ℚ) := do
  let payload ← liftPy (snapped payload limitPrice increment)
  match ← preflightSingleLeg answers payload with
  | .unusable => throw .attributeError
  | .failed e =>
    match e.namedIncrement with
    | none => throw (.broker e)
    | some discovered =>
      modify fun m => m.cachePriceIncrement optionSymbol discovered
      return .inr (payload, discovered)
  | .response r =>
    match r.currentIncrement.maybeFloat.filter (· ≠ 0) with
    | none =>
      return .inl
        ⟨payload, increment, r.buyingPowerRequirement.maybeFloat, r.estimatedCost.maybeFloat⟩
    | some discovered =>
      if discovered ≤ 0 then throw (.python (.valueError "invalid_price_increment"))
      else
        modify fun m => m.cachePriceIncrement optionSymbol discovered
        let corrected ← liftPy (snapPrice limitPrice discovered)
        -- costs must belong to the exact final price and quantity
        if corrected ≠ payload.limitPrice then
          return .inr ({ payload with limitPrice := corrected }, discovered)
        else
          return .inl ⟨payload, some discovered, r.buyingPowerRequirement.maybeFloat,
            r.estimatedCost.maybeFloat⟩

def preflightRounds (optionSymbol : String) (limitPrice : ℚ) :
    ℕ → EntryPayload → Option ℚ → BuyM PreflightCheck
  | 0, _, _ => throw (.python (.valueError "entry_preflight_increment_unstable"))
  | rounds + 1, payload, increment => do
    match ← preflightRound answers optionSymbol limitPrice payload increment with
    | .inl check => return check
    | .inr (payload, discovered) =>
      preflightRounds optionSymbol limitPrice rounds payload (some discovered)

/-- `preflight_entry`. -/
def preflightEntry (optionSymbol : String) (limitPrice : ℚ) (quantity : ℤ) :
    BuyM PreflightCheck := do
  let m ← get
  preflightRounds answers optionSymbol limitPrice 3
    (entryPayload (answers.freshOrderId m.calls) optionSymbol limitPrice quantity)
    (m.lookupPriceIncrement optionSymbol)

/-- The increment for a correction; a preflight that fails gives none. -/
def correctionIncrement (payload : EntryPayload) (symbol : String) : BuyM (Option ℚ) := do
  let m ← get
  match m.lookupPriceIncrement symbol with
  | some increment => return some increment
  | none =>
    match ← preflightSingleLeg answers payload with
    | .unusable => throw .attributeError
    | .failed _ => return none
    | .response r =>
      match r.currentIncrement.maybeFloat.filter (· ≠ 0) with
      | none => return none
      | some increment =>
        modify fun m => m.cachePriceIncrement symbol increment
        return some increment

/-- `_apply_increment_correction`. -/
def applyIncrementCorrection (payload : EntryPayload) : BuyM EntryPayload := do
  let increment ← correctionIncrement answers payload (normalizeOptionSymbol payload.symbol)
  liftPy (snapped payload payload.limitPrice increment)

/-- The result of an order that was not accepted: a BUY that may be working keeps its client id. -/
def unaccepted (payload : EntryPayload) (error : String) (uncertain incrementRejected : Bool) :
    OrderResult where
  orderId := if uncertain then some payload.orderId else none
  error := some error
  actualLimitPrice := some payload.limitPrice
  incrementRejected := incrementRejected
  submissionUncertain := uncertain && payload.orderId ≠ ""

/-- `_submit` of a BUY. -/
def submit (payload : EntryPayload) : BuyM OrderResult := do
  match ← placeOrder answers payload with
  | .response orderId =>
    match orderId.filter (· ≠ "") with
    | some orderId =>
      return { orderId := some orderId, actualLimitPrice := some payload.limitPrice }
    | none => return unaccepted payload "missing_order_id" true false
  | .failed e => return unaccepted payload e.message (!e.isDefinite) e.namedIncrement.isSome

/-- The reason of the submission guard, if it has one. -/
def guardReason : BuyM (Option String) := do
  let m ← get
  return (answers.submissionGuard m.calls).filter (· ≠ "")

def notAttempted (error : String) (retryable : Bool) : OrderResult where
  orderId := none
  error := some error
  submissionAttempted := false
  preSubmissionRetryable := retryable

/-- The payload of the retry, priced by the broker before it is sent. -/
def repriced (payload : EntryPayload) (symbol : String) (corrected : ℚ) :
    BuyM (Except Failure EntryPayload) :=
  tryCatch
    (do
      let checked ← preflightEntry answers symbol corrected payload.quantity
      return .ok { payload with limitPrice := checked.payload.limitPrice })
    fun failure => return .error failure

/-- The one retry of `_submit_with_increment_retry`. -/
def retryAtIncrement (payload : EntryPayload) (symbol : String) (increment : ℚ) :
    BuyM OrderResult := do
  modify fun m => m.cachePriceIncrement symbol increment
  let corrected ← liftPy (snapPrice payload.limitPrice increment)
  match ← repriced answers payload symbol corrected with
  | .error failure =>
    return notAttempted ("public_preflight_failed:" ++ failure.typeName) failure.isTransient
  | .ok payload =>
    match ← guardReason answers with
    | some reason => return notAttempted reason false
    | none => submit answers payload

/-- `_submit_with_increment_retry` of a BUY. -/
def submitWithIncrementRetry (payload : EntryPayload) : BuyM OrderResult := do
  match ← guardReason answers with
  | some reason => return notAttempted reason false
  | none =>
    let result ← submit answers payload
    if result.orderId.any (· ≠ "") ∨ result.error.all (· = "") then return result
    else
      let increment :=
        if result.incrementRejected then result.error.bind extractPriceIncrement else none
      let symbol := normalizeOptionSymbol payload.symbol
      match increment with
      | none => return result
      | some increment =>
        if symbol = "" then return result else retryAtIncrement answers payload symbol increment

/-- `place_entry_order`. -/
def placeEntryOrder (orderId optionSymbol : String) (limitPrice : ℚ) (quantity : ℤ) :
    BuyM OrderResult := do
  let payload ←
    applyIncrementCorrection answers (entryPayload orderId optionSymbol limitPrice quantity)
  submitWithIncrementRetry answers payload

end Wire

section Ceiling

/-- Every increment that is known is whole cents. -/
structure OrderManager.OnTicks (m : OrderManager) : Prop where
  priceIncrements : ∀ symbol, ∀ x ∈ m.priceIncrements symbol, IsTick x
  underlyingPriceIncrements : ∀ symbol, ∀ x ∈ m.underlyingPriceIncrements symbol, IsTick x

def PreflightAnswer.OnTicks : PreflightAnswer → Prop
  | response r => ∀ x ∈ r.currentIncrement.maybeFloat, IsTick x
  | unusable => True
  | failed e => ∀ x ∈ e.namedIncrement, IsTick x

def OrderAnswer.OnTicks : OrderAnswer → Prop
  | response _ => True
  | failed e => ∀ x ∈ e.namedIncrement, IsTick x

/-- Every increment that an answer names is whole cents. -/
structure BrokerAnswers.OnTicks (answers : BrokerAnswers) : Prop where
  preflight : ∀ n, (answers.preflight n).OnTicks
  order : ∀ n, (answers.order n).OnTicks
  meanwhile : ∀ n, ∀ entry ∈ answers.meanwhile n, IsTick entry.2

theorem onTicks_cachePriceIncrement {m : OrderManager} (hm : m.OnTicks) (symbol : String) {x : ℚ}
    (hx : IsTick x) : (m.cachePriceIncrement symbol x).OnTicks := by
  have hupdate : ∀ (f : String → Option ℚ) (key : String), (∀ s, ∀ y ∈ f s, IsTick y) →
      ∀ s, ∀ y ∈ Function.update f key (some x) s, IsTick y := by
    intro f key hf s y hy
    by_cases hs : s = key
    · rw [hs, Function.update_self] at hy
      rwa [← Option.some.inj hy]
    · rw [Function.update_of_ne hs] at hy
      exact hf s y hy
  unfold OrderManager.cachePriceIncrement
  generalize normalizeOptionSymbol symbol = key
  refine ⟨hupdate _ key hm.priceIncrements, ?_⟩
  dsimp only
  generalize underlyingSymbolFromOption key = underlying
  cases underlying with
  | none => exact hm.underlyingPriceIncrements
  | some underlying => exact hupdate _ underlying hm.underlyingPriceIncrements

theorem isTick_lookup {m : OrderManager} (hm : m.OnTicks) (symbol : String) :
    ∀ x ∈ m.lookupPriceIncrement symbol, IsTick x := by
  intro x hx
  unfold OrderManager.lookupPriceIncrement at hx
  split at hx
  · rename_i increment hcached
    rw [← Option.some.inj hx]
    exact hm.priceIncrements _ _ hcached
  · obtain ⟨underlying, -, hcached⟩ := Option.bind_eq_some_iff.mp hx
    exact hm.underlyingPriceIncrements _ _ hcached

/-- The payload of an entry under a limit. -/
structure EntryPayload.Under (p : EntryPayload) (limit : ℚ) (quantity : ℤ) : Prop where
  pos : 0 < p.limitPrice
  mem : p.limitPrice ∈ decimalGrid 2
  le : p.limitPrice ≤ limit
  quantity_eq : p.quantity = quantity

/-- All that went to the broker is under the limit; the submissions are counted apart. -/
structure OrderManager.Under (m : OrderManager) (limit : ℚ) (quantity : ℤ)
    (submissions : Submissions) : Prop extends m.OnTicks where
  exchanges : ∀ e ∈ m.exchanges, e.payload.Under limit quantity
  submissions_eq : m.submissions = submissions

/-- The price of an order at an increment, if one is known. -/
def PricedAt (limit : ℚ) (increment : Option ℚ) (price : ℚ) : Prop :=
  match increment with
  | none => price = limit
  | some increment => snapPrice limit increment = .ok price

/-- The costs of a check are those of its payload, at the increment that it returns. -/
structure PreflightCheck.CostsBelong (check : PreflightCheck) (limit : ℚ) (m : OrderManager) :
    Prop where
  priced : ∃ r : PreflightResponse,
    m.exchanges.getLast? = some (.priced check.payload (.response r)) ∧
    check.buyingPowerRequirement = r.buyingPowerRequirement.maybeFloat ∧
    check.estimatedCost = r.estimatedCost.maybeFloat ∧
    ∀ x ∈ r.currentIncrement.maybeFloat, check.currentIncrement = some x
  snapped : PricedAt limit check.currentIncrement check.payload.limitPrice

variable {answers : BrokerAnswers} {limit : ℚ} {quantity : ℤ}
  {sends : Submissions}

theorem exchanges_cachePriceIncrement (m : OrderManager) (symbol : String) (x : ℚ) :
    (m.cachePriceIncrement symbol x).exchanges = m.exchanges := rfl

theorem under_cachePriceIncrement {m : OrderManager} (hm : m.Under limit quantity sends)
    (symbol : String) {x : ℚ} (hx : IsTick x) :
    (m.cachePriceIncrement symbol x).Under limit quantity sends where
  toOnTicks := onTicks_cachePriceIncrement hm.toOnTicks symbol hx
  exchanges := hm.exchanges
  submissions_eq := hm.submissions_eq

theorem under_answered {m : OrderManager} (hm : m.Under limit quantity sends) (exchange : Exchange)
    (hexchange : exchange.payload.Under limit quantity) {learned : List (String × ℚ)}
    (hlearned : ∀ entry ∈ learned, IsTick entry.2) :
    (m.answered exchange learned).Under limit quantity (sends ++ exchange.submission.toList) := by
  have hlearn : ∀ (learned : List (String × ℚ)) (m : OrderManager), m.Under limit quantity sends →
      (∀ entry ∈ learned, IsTick entry.2) →
      (learned.foldl (fun m entry => m.cachePriceIncrement entry.1 entry.2) m).Under
        limit quantity sends := by
    intro learned
    induction learned with
    | nil => exact fun m hm _ => hm
    | cons entry learned ih =>
      intro m hm hlearned
      refine ih _ ?_ fun e he => hlearned e (List.mem_cons_of_mem _ he)
      exact under_cachePriceIncrement hm entry.1 (hlearned entry List.mem_cons_self)
  have hlearned := hlearn learned m hm hlearned
  refine ⟨⟨hlearned.1.1, hlearned.1.2⟩, ?_, ?_⟩
  · intro e he
    rcases List.mem_append.mp he with hold | hnew
    · exact hlearned.exchanges e hold
    · rwa [List.mem_singleton.mp hnew]
  · have hold := hlearned.submissions_eq
    simp only [OrderManager.submissions, OrderManager.answered, List.filterMap_append] at hold ⊢
    rw [hold]
    cases exchange <;> rfl

attribute [local irreducible] OrderManager.cachePriceIncrement

theorem preflightSingleLeg_spec (sends : Submissions) (hanswers : answers.OnTicks)
    {payload : EntryPayload} (hpayload : payload.Under limit quantity) :
    ⦃fun m => ⌜m.Under limit quantity sends⌝⦄ preflightSingleLeg answers payload
    ⦃post⟨fun answer m => ⌜m.Under limit quantity sends ∧
        m.exchanges.getLast? = some (.priced payload answer) ∧ answer.OnTicks⌝,
      fun _ m => ⌜m.Under limit quantity sends⌝⟩⦄ := by
  mvcgen [preflightSingleLeg]
  rename_i m hm answer
  have hunder := under_answered hm (.priced payload answer) hpayload (hanswers.meanwhile m.calls)
  rw [Exchange.submission, Option.toList_none, List.append_nil] at hunder
  exact ⟨hunder, List.getLast?_concat, hanswers.preflight m.calls⟩

theorem snapped_under {payload : EntryPayload} (hpayload : payload.Under limit quantity)
    {increment : Option ℚ} (hincrement : ∀ x ∈ increment, IsTick x)
    {value : ℚ} (hvalue : value ≤ limit) (hfirst : increment = none → payload.limitPrice = value) :
    Ensures (snapped payload value increment) fun p =>
      p.Under limit quantity ∧ PricedAt value increment p.limitPrice := by
  cases increment with
  | none => exact ensures_ok ⟨hpayload, hfirst rfl⟩
  | some x =>
    have htick := hincrement x rfl
    simp only [snapped, Option.filter_some, decide_eq_true htick.1.ne']
    refine ensures_bind (ensures_snapPrice_tick value htick).and_self fun price hprice => ?_
    obtain ⟨⟨hpos, hmem, hle⟩, heq⟩ := hprice
    exact ensures_ok ⟨⟨hpos, hmem, hle.trans hvalue, hpayload.quantity_eq⟩, heq⟩

theorem EntryPayload.Under.mono {p : EntryPayload} {value : ℚ} (h : p.Under value quantity)
    (hvalue : value ≤ limit) : p.Under limit quantity :=
  ⟨h.pos, h.mem, h.le.trans hvalue, h.quantity_eq⟩

theorem mem_of_filter {x : Option ℚ} {y : ℚ} (h : x.filter (· ≠ 0) = some y) : y ∈ x :=
  (Option.filter_eq_some_iff.mp h).1

theorem eq_none_of_filter {x : Option ℚ} (h : x.filter (· ≠ 0) = none) (hx : ∀ y ∈ x, IsTick y) :
    x = none := by
  cases x with
  | none => rfl
  | some y =>
    simp only [Option.filter_eq_none_iff, Option.some.injEq, forall_eq'] at h
    exact absurd (hx y rfl).1.ne' (by simpa using h)

/-- What one round of the preflight comes to. -/
def RoundDone (value limit : ℚ) (quantity : ℤ) (sends : Submissions)
    (m : OrderManager) : PreflightCheck ⊕ EntryPayload × ℚ → Prop
  | .inl check => m.Under limit quantity sends ∧ check.payload.Under value quantity ∧
      check.CostsBelong value m
  | .inr (payload, discovered) => m.Under limit quantity sends ∧ payload.Under value quantity ∧
      IsTick discovered

theorem preflightRound_spec (sends : Submissions) (hanswers : answers.OnTicks)
    (optionSymbol : String) {value : ℚ} (hvalue : value ≤ limit) {payload : EntryPayload}
    {increment : Option ℚ}
    (hpayload : payload.Under value quantity) (hincrement : ∀ x ∈ increment, IsTick x)
    (hfirst : increment = none → payload.limitPrice = value) :
    ⦃fun m => ⌜m.Under limit quantity sends⌝⦄
    preflightRound answers optionSymbol value payload increment
    ⦃post⟨fun result m => ⌜RoundDone value limit quantity sends m result⌝,
      fun _ m => ⌜m.Under limit quantity sends⌝⟩⦄ := by
  have hsnap := snapped_under hpayload hincrement le_rfl hfirst
  have hsingle := fun (p : EntryPayload) (hp : p.Under value quantity) =>
    preflightSingleLeg_spec sends hanswers (hp.mono hvalue)
  mvcgen [preflightRound, liftPy, hsingle]
  · rename_i p hp
    exact (hsnap.of_ok p hp).1
  · exact ‹_ ∧ _›.1
  · exact ‹_ ∧ _›.1
  · -- a rejection that names an increment
    rename_i p hp _ e _ discovered hnamed m hm _
    have htick : IsTick discovered := hm.2.2 discovered hnamed
    exact ⟨under_cachePriceIncrement hm.1 optionSymbol htick, (hsnap.of_ok p hp).1, htick⟩
  · -- a response without an increment prices the payload as it is
    rename_i p hp _ r _ hfilter m hm
    obtain ⟨hp, hpriced⟩ := hsnap.of_ok p hp
    have hnone := eq_none_of_filter hfilter hm.2.2
    exact ⟨hm.1, hp, ⟨r, hm.2.1, rfl, rfl, by simp [hnone]⟩, hpriced⟩
  · exact ‹_ ∧ _›.1
  · -- a response at another price than the increment allows
    rename_i p hp _ r _ discovered hfilter _ m hm _ corrected hcorrected _
    have htick : IsTick discovered := hm.2.2 discovered (mem_of_filter hfilter)
    obtain ⟨hpos, hmem, hle⟩ := (ensures_snapPrice_tick value htick).of_ok _ hcorrected
    have hp := (hsnap.of_ok p hp).1
    exact ⟨under_cachePriceIncrement hm.1 optionSymbol htick, ⟨hpos, hmem, hle, hp.quantity_eq⟩,
      htick⟩
  · -- a response at the price that the increment allows
    rename_i p hp _ r _ discovered hfilter _ m hm _ corrected hcorrected hsame
    have hmem : discovered ∈ r.currentIncrement.maybeFloat := mem_of_filter hfilter
    have htick : IsTick discovered := hm.2.2 discovered hmem
    rw [not_not.mp hsame] at hcorrected
    refine ⟨under_cachePriceIncrement hm.1 optionSymbol htick, (hsnap.of_ok p hp).1,
      ⟨r, ?_, rfl, rfl, fun x hx => ?_⟩, hcorrected⟩
    · rw [exchanges_cachePriceIncrement]
      exact hm.2.1
    · rw [← Option.mem_unique hmem hx]
  · rename_i p hp _ r _ discovered hfilter _ m hm _ _ _
    have htick : IsTick discovered := hm.2.2 discovered (mem_of_filter hfilter)
    exact under_cachePriceIncrement hm.1 optionSymbol htick

theorem preflightRounds_spec (sends : Submissions) (hanswers : answers.OnTicks)
    (optionSymbol : String) {value : ℚ} (hvalue : value ≤ limit) (rounds : ℕ)
    (payload : EntryPayload) (increment : Option ℚ)
    (hpayload : payload.Under value quantity) (hincrement : ∀ x ∈ increment, IsTick x)
    (hfirst : increment = none → payload.limitPrice = value) :
    ⦃fun m => ⌜m.Under limit quantity sends⌝⦄
    preflightRounds answers optionSymbol value rounds payload increment
    ⦃post⟨fun check m => ⌜m.Under limit quantity sends ∧ check.payload.Under value quantity ∧
        check.CostsBelong value m⌝,
      fun _ m => ⌜m.Under limit quantity sends⌝⟩⦄ := by
  induction rounds generalizing payload increment with
  | zero => mvcgen [preflightRounds]
  | succ rounds ih =>
    have hround := preflightRound_spec sends hanswers optionSymbol hvalue hpayload
      hincrement hfirst
    mvcgen [preflightRounds, hround, ih]
    · rename_i m hm
      exact And.left hm
    · exact fun _ hm => And.left (And.right hm)
    · intro _ hm x hx
      rw [← Option.some.inj hx]
      exact And.right (And.right hm)
    · exact fun _ _ => nofun

theorem entryPayload_under (orderId optionSymbol : String) {value : ℚ} (hpos : 0 < value)
    (hmem : value ∈ decimalGrid 2) (quantity : ℤ) :
    (entryPayload orderId optionSymbol value quantity).Under value quantity where
  pos := by rwa [entryPayload, roundPrice_of_mem hmem]
  mem := roundPrice_mem value
  le := (roundPrice_of_mem hmem).le
  quantity_eq := rfl

theorem preflightEntry_spec (quantity : ℤ) (sends : Submissions) (hanswers : answers.OnTicks)
    (optionSymbol : String) {value : ℚ} (hpos : 0 < value) (hmem : value ∈ decimalGrid 2)
    (hvalue : value ≤ limit) :
    ⦃fun m => ⌜m.Under limit quantity sends⌝⦄ preflightEntry answers optionSymbol value quantity
    ⦃post⟨fun check m => ⌜m.Under limit quantity sends ∧ check.payload.Under value quantity ∧
        check.CostsBelong value m⌝,
      fun _ m => ⌜m.Under limit quantity sends⌝⟩⦄ := by
  have hrounds := fun (orderId : String) (increment : Option ℚ) (h : ∀ x ∈ increment, IsTick x) =>
    preflightRounds_spec sends hanswers optionSymbol hvalue 3 _ increment
      (entryPayload_under orderId optionSymbol hpos hmem quantity) h
      fun _ => roundPrice_of_mem hmem
  mvcgen [preflightEntry, hrounds]
  rename_i m hm
  exact isTick_lookup hm.toOnTicks optionSymbol

theorem correctionIncrement_spec (sends : Submissions) (hanswers : answers.OnTicks)
    {payload : EntryPayload} (hpayload : payload.Under limit quantity) (symbol : String) :
    ⦃fun m => ⌜m.Under limit quantity sends⌝⦄ correctionIncrement answers payload symbol
    ⦃post⟨fun increment m => ⌜m.Under limit quantity sends ∧ ∀ x ∈ increment, IsTick x⌝,
      fun _ m => ⌜m.Under limit quantity sends⌝⟩⦄ := by
  have hsingle := preflightSingleLeg_spec sends hanswers hpayload
  mvcgen [correctionIncrement, hsingle]
  · rename_i m hm increment hcached
    refine ⟨hm, fun x hx => isTick_lookup hm.toOnTicks symbol x ?_⟩
    rwa [hcached]
  · exact ‹_ ∧ _›.1
  · exact ⟨‹_ ∧ _›.1, nofun⟩
  · exact ⟨‹_ ∧ _›.1, nofun⟩
  · rename_i increment hfilter m hm _
    have htick : IsTick increment := hm.2.2 increment (mem_of_filter hfilter)
    refine ⟨under_cachePriceIncrement hm.1 symbol htick, fun x hx => ?_⟩
    rwa [← Option.some.inj hx]

theorem applyIncrementCorrection_spec (sends : Submissions) (hanswers : answers.OnTicks)
    {payload : EntryPayload} (hpayload : payload.Under limit quantity) :
    ⦃fun m => ⌜m.Under limit quantity sends⌝⦄ applyIncrementCorrection answers payload
    ⦃post⟨fun p m => ⌜m.Under limit quantity sends ∧ p.Under limit quantity⌝,
      fun _ m => ⌜m.Under limit quantity sends⌝⟩⦄ := by
  have hincrement := fun (symbol : String) =>
    correctionIncrement_spec sends hanswers hpayload symbol
  mvcgen [applyIncrementCorrection, hincrement, liftPy]
  · rename_i increment p hp m hm
    have hsnapped := snapped_under hpayload hm.2 hpayload.le fun _ => rfl
    exact ⟨hm.1, (hsnapped.of_ok p hp).1⟩
  · exact ‹_ ∧ _›.1

/-- A submission, and what its result says of the answer. -/
structure SentAs (payload : EntryPayload) (result : OrderResult) (answer : OrderAnswer) : Prop where
  rejected : result.incrementRejected = true →
    ∃ e, answer = .failed e ∧ e.isDefinite = true ∧ ∃ x, e.namedIncrement = some x ∧
      result.error.bind extractPriceIncrement = some x

/-- Only a definite answer names an increment. -/
theorem CallError.isDefinite_of_namedIncrement {e : CallError} {x : ℚ}
    (h : e.namedIncrement = some x) :
    e.isDefinite = true ∧ extractPriceIncrement e.message = some x := by
  cases e with
  | httpStatus code message =>
    simp only [CallError.namedIncrement] at h
    split at h
    · rename_i hcode
      refine ⟨?_, h⟩
      simp only [List.mem_cons, List.not_mem_nil, or_false] at hcode
      rcases hcode with rfl | rfl <;> rfl
    · cases h
  | transport typeName message => cases h
  | other typeName message => cases h

theorem rejected_unaccepted (payload : EntryPayload) (e : CallError) :
    SentAs payload (unaccepted payload e.message (!e.isDefinite) e.namedIncrement.isSome)
      (.failed e) := by
  constructor
  intro hrejected
  obtain ⟨x, hx⟩ := Option.isSome_iff_exists.mp hrejected
  obtain ⟨hdefinite, hextract⟩ := CallError.isDefinite_of_namedIncrement hx
  exact ⟨e, rfl, hdefinite, x, hx, hextract⟩

theorem submit_spec (sends : Submissions) (hanswers : answers.OnTicks)
    {payload : EntryPayload} (hpayload : payload.Under limit quantity) :
    ⦃fun m => ⌜m.Under limit quantity sends⌝⦄ submit answers payload
    ⦃post⟨fun result m => ⌜∃ answer, answer.OnTicks ∧
        m.Under limit quantity (sends ++ [(payload, answer)]) ∧ SentAs payload result answer⌝,
      fun _ _ => ⌜False⌝⟩⦄ := by
  mvcgen [submit, placeOrder]
  · rename_i m hm answer orderId hanswer _ _
    have hunder := under_answered hm (.sent payload (.response orderId)) hpayload
      (hanswers.meanwhile m.calls)
    exact ⟨.response orderId, trivial, hunder, ⟨nofun⟩⟩
  · rename_i m hm answer orderId hanswer _
    have hunder := under_answered hm (.sent payload (.response orderId)) hpayload
      (hanswers.meanwhile m.calls)
    exact ⟨.response orderId, trivial, hunder, ⟨nofun⟩⟩
  · rename_i m hm answer e hanswer
    have hunder := under_answered hm (.sent payload (.failed e)) hpayload
      (hanswers.meanwhile m.calls)
    have hticks : (OrderAnswer.failed e).OnTicks := by
      rw [← hanswer]
      exact hanswers.order m.calls
    exact ⟨.failed e, hticks, hunder, rejected_unaccepted payload e⟩

/-- At most two submissions, and the second after a definite rejection of the first for its
increment, under the same client order id and at no higher price. -/
def RetriedAtMostOnce : Submissions → Prop
  | [] | [_] => True
  | [first, second] =>
    (∃ e, first.2 = .failed e ∧ e.isDefinite = true ∧ e.namedIncrement.isSome = true) ∧
      second.1.orderId = first.1.orderId ∧ second.1.limitPrice ≤ first.1.limitPrice
  | _ => False

theorem repriced_spec (sends : Submissions) (hanswers : answers.OnTicks)
    {payload : EntryPayload} (hquantity : payload.quantity = quantity) (symbol : String)
    {corrected : ℚ}
    (hpos : 0 < corrected) (hmem : corrected ∈ decimalGrid 2) (hle : corrected ≤ limit) :
    ⦃fun m => ⌜m.Under limit quantity sends⌝⦄ repriced answers payload symbol corrected
    ⦃post⟨fun result m => ⌜m.Under limit quantity sends ∧
        ∀ p, result = .ok p → p.Under corrected quantity ∧ p.orderId = payload.orderId⌝,
      fun _ _ => ⌜False⌝⟩⦄ := by
  have hpreflight := preflightEntry_spec quantity sends hanswers symbol
    hpos hmem hle
  subst hquantity
  mvcgen [repriced, hpreflight]
  · rename_i check m hm
    refine ⟨hm.1, fun p hp => ?_⟩
    rw [← Except.ok.inj hp]
    exact ⟨⟨hm.2.1.pos, hm.2.1.mem, hm.2.1.le, rfl⟩, rfl⟩
  · exact ⟨‹_›, nofun⟩

/-- What a retry may add to the submissions. -/
def RetriedFrom (payload : EntryPayload) (sends after : Submissions) : Prop :=
  after = sends ∨ ∃ p answer, after = sends ++ [(p, answer)] ∧ p.orderId = payload.orderId ∧
    p.limitPrice ≤ payload.limitPrice

theorem retryAtIncrement_spec (sends : Submissions) (hanswers : answers.OnTicks)
    {payload : EntryPayload} (hpayload : payload.Under limit quantity) (symbol : String)
    {increment : ℚ}
    (htick : IsTick increment) :
    ⦃fun m => ⌜m.Under limit quantity sends⌝⦄ retryAtIncrement answers payload symbol increment
    ⦃post⟨fun _ m => ⌜∃ after, m.Under limit quantity after ∧ RetriedFrom payload sends after⌝,
      fun _ m => ⌜m.Under limit quantity sends⌝⟩⦄ := by
  have hsnap := ensures_snapPrice_tick payload.limitPrice htick
  have hrepriced := fun (corrected : ℚ) (h : 0 < corrected ∧ corrected ∈ decimalGrid 2 ∧
      corrected ≤ payload.limitPrice) =>
    repriced_spec sends hanswers hpayload.quantity_eq symbol h.1 h.2.1
      (h.2.2.trans hpayload.le)
  have hsubmit := fun (p : EntryPayload) (hp : p.Under limit quantity) =>
    submit_spec sends hanswers hp
  mvcgen [retryAtIncrement, liftPy, guardReason, hrepriced, hsubmit]
  · rename_i price hprice
    exact hsnap.of_ok price hprice
  · exact under_cachePriceIncrement ‹_› symbol htick
  · exact ⟨sends, ‹_ ∧ _›.1, .inl rfl⟩
  · exact ⟨sends, ‹_ ∧ _›.1, .inl rfl⟩
  · rename_i price hprice _ p _ m hm _
    have hle := (hsnap.of_ok price hprice).2.2
    exact (hm.2 p rfl).1.mono (hle.trans hpayload.le)
  · exact ‹_ ∧ _›.1
  · rename_i price hprice _ p _ m hm _ result m'
    have hle := (hsnap.of_ok price hprice).2.2
    rintro ⟨answer, -, hunder, -⟩
    obtain ⟨hp, horder⟩ := hm.2 p rfl
    exact ⟨_, hunder, .inr ⟨p, answer, rfl, horder, hp.le.trans hle⟩⟩
  · exact under_cachePriceIncrement ‹_› symbol htick

/-- The state after a submission with its retry. -/
def OrderManager.Retried (m : OrderManager) (limit : ℚ) (quantity : ℤ) : Prop :=
  ∃ after, m.Under limit quantity after ∧ RetriedAtMostOnce after

/-- One submission, however it was answered. -/
theorem retried_of_sent {m : OrderManager} {payload : EntryPayload} {result : OrderResult}
    (h : ∃ answer : OrderAnswer, answer.OnTicks ∧
      m.Under limit quantity ([] ++ [(payload, answer)]) ∧ SentAs payload result answer) :
    m.Retried limit quantity := by
  obtain ⟨answer, -, hunder, -⟩ := h
  exact ⟨_, hunder, trivial⟩

/-- The state after a first submission that was refused for its increment. -/
structure OrderManager.RejectedAt (m : OrderManager) (limit : ℚ) (quantity : ℤ)
    (payload : EntryPayload) (increment : ℚ) (e : CallError) : Prop where
  under : m.Under limit quantity [(payload, .failed e)]
  definite : e.isDefinite = true
  named : e.namedIncrement = some increment
  tick : IsTick increment

theorem rejectedAt_of_sentAs {m : OrderManager} {payload : EntryPayload} {result : OrderResult}
    {increment : ℚ}
    (h : ∃ answer : OrderAnswer, answer.OnTicks ∧
      m.Under limit quantity ([] ++ [(payload, answer)]) ∧ SentAs payload result answer)
    (hincrement : (if result.incrementRejected = true then result.error.bind extractPriceIncrement
      else none) = some increment) :
    ∃ e, m.RejectedAt limit quantity payload increment e := by
  obtain ⟨answer, hticks, hunder, hsent⟩ := h
  split at hincrement
  · rename_i hrejected
    obtain ⟨e, rfl, hdefinite, x, hnamed, hextract⟩ := hsent.rejected hrejected
    obtain rfl : x = increment := Option.some.inj (hextract.symm.trans hincrement)
    exact ⟨e, hunder, hdefinite, hnamed, hticks x hnamed⟩
  · cases hincrement

theorem retried_of_retriedFrom {m : OrderManager} {payload : EntryPayload} {e : CallError}
    (hdefinite : e.isDefinite = true) (hnamed : e.namedIncrement.isSome = true)
    (h : ∃ after, m.Under limit quantity after ∧ RetriedFrom payload [(payload, .failed e)] after) :
    m.Retried limit quantity := by
  obtain ⟨after, hunder, rfl | ⟨p, answer, rfl, horder, hle⟩⟩ := h
  · exact ⟨_, hunder, trivial⟩
  · exact ⟨_, hunder, ⟨e, rfl, hdefinite, hnamed⟩, horder, hle⟩

/-- The retry, whatever the rejection was. -/
theorem retryAtIncrement_rejected (hanswers : answers.OnTicks) {payload : EntryPayload}
    (hpayload : payload.Under limit quantity) (symbol : String) (increment : ℚ) :
    ⦃fun m => ⌜∃ e, m.RejectedAt limit quantity payload increment e⌝⦄
    retryAtIncrement answers payload symbol increment
    ⦃post⟨fun _ m => ⌜m.Retried limit quantity⌝, fun _ m => ⌜m.Retried limit quantity⌝⟩⦄ := by
  have hfixed (e : CallError) (hdefinite : e.isDefinite = true)
      (hnamed : e.namedIncrement = some increment) (htick : IsTick increment) :
      ⦃fun m => ⌜m.Under limit quantity [(payload, .failed e)]⌝⦄
      retryAtIncrement answers payload symbol increment
      ⦃post⟨fun _ m => ⌜m.Retried limit quantity⌝, fun _ m => ⌜m.Retried limit quantity⌝⟩⦄ := by
    have hretry := retryAtIncrement_spec [(payload, .failed e)] hanswers hpayload symbol
      htick
    have hsome : e.namedIncrement.isSome = true := by rw [hnamed, Option.isSome_some]
    mvcgen [hretry]
    · exact retried_of_retriedFrom hdefinite hsome
    · exact fun hunder => ⟨_, hunder, trivial⟩
  intro m hm
  obtain ⟨e, hrejected⟩ := hm
  exact hfixed e hrejected.definite hrejected.named hrejected.tick m hrejected.under

theorem submitWithIncrementRetry_spec (hanswers : answers.OnTicks) {payload : EntryPayload}
    (hpayload : payload.Under limit quantity) :
    ⦃fun m => ⌜m.Under limit quantity []⌝⦄ submitWithIncrementRetry answers payload
    ⦃post⟨fun _ m => ⌜m.Retried limit quantity⌝, fun _ m => ⌜m.Retried limit quantity⌝⟩⦄ := by
  have hsubmit := submit_spec [] hanswers hpayload
  have hretry := retryAtIncrement_rejected hanswers hpayload
  mvcgen [submitWithIncrementRetry, guardReason, hsubmit, hretry]
  · rename_i m hm _ _
    exact ⟨[], hm, trivial⟩
  · exact retried_of_sent ‹_›
  · exact retried_of_sent ‹_›
  · exact retried_of_sent ‹_›
  · rename_i increment hincrement _ m hsent
    exact rejectedAt_of_sentAs hsent hincrement

theorem placeEntryOrder_spec (quantity : ℤ) (hanswers : answers.OnTicks)
    (orderId optionSymbol : String)
    (hpos : 0 < limit) (hmem : limit ∈ decimalGrid 2) :
    ⦃fun m => ⌜m.Under limit quantity []⌝⦄
    placeEntryOrder answers orderId optionSymbol limit quantity
    ⦃post⟨fun _ m => ⌜m.Retried limit quantity⌝, fun _ m => ⌜m.Retried limit quantity⌝⟩⦄ := by
  have hcorrect := applyIncrementCorrection_spec [] hanswers
    (entryPayload_under orderId optionSymbol hpos hmem quantity)
  have hsubmit (p : EntryPayload) :
      ⦃fun m => ⌜m.Under limit quantity [] ∧ p.Under limit quantity⌝⦄
      submitWithIncrementRetry answers p
      ⦃post⟨fun _ m => ⌜m.Retried limit quantity⌝, fun _ m => ⌜m.Retried limit quantity⌝⟩⦄ :=
    fun m hm => submitWithIncrementRetry_spec hanswers hm.2 m hm.1
  mvcgen [placeEntryOrder, hcorrect, hsubmit]
  exact fun hm => ⟨[], hm, trivial⟩

/-- An order manager that knows some increments. -/
def OrderManager.knowing (priceIncrements underlyingPriceIncrements : String → Option ℚ) :
    OrderManager where
  priceIncrements := priceIncrements
  underlyingPriceIncrements := underlyingPriceIncrements

/-- All that was priced or sent is for the quantity, at a positive price not above the limit. -/
def OrderManager.KeepsCeiling (m : OrderManager) (limit : ℚ) (quantity : ℤ) : Prop :=
  ∀ e ∈ m.exchanges,
    0 < e.payload.limitPrice ∧ e.payload.limitPrice ≤ limit ∧ e.payload.quantity = quantity

theorem OrderManager.Under.keepsCeiling {m : OrderManager} (h : m.Under limit quantity sends) :
    m.KeepsCeiling limit quantity := by
  intro e he
  have hunder := h.exchanges e he
  exact ⟨hunder.pos, hunder.le, hunder.quantity_eq⟩

/-- A BUY limit is a ceiling on everything that the order manager prices or sends for the entry; an
order is sent again only after a definite rejection for its increment, and once; and the costs of a
preflight are those of the price and the increment that it returns. -/
theorem entry_limit_is_a_ceiling {answers : BrokerAnswers} (hanswers : answers.OnTicks)
    {priceIncrements underlyingPriceIncrements : String → Option ℚ}
    (hcached : (OrderManager.knowing priceIncrements underlyingPriceIncrements).OnTicks)
    (orderId optionSymbol : String) {limit : ℚ} (hpos : 0 < limit) (hcents : limit ∈ decimalGrid 2)
    (quantity : ℤ) :
    let start := OrderManager.knowing priceIncrements underlyingPriceIncrements
    let preflight := preflightEntry answers optionSymbol limit quantity
    let placed := finalState (placeEntryOrder answers orderId optionSymbol limit quantity) start
    (finalState preflight start).KeepsCeiling limit quantity ∧
      (∀ check, finalResult preflight start = .ok check →
        check.CostsBelong limit (finalState preflight start)) ∧
      placed.KeepsCeiling limit quantity ∧ RetriedAtMostOnce placed.submissions := by
  intro start preflight placed
  have hstart : start.Under limit quantity [] := ⟨hcached, nofun, rfl⟩
  have hpreflight := preflightEntry_spec quantity [] hanswers optionSymbol
    hpos hcents le_rfl
  have hplace := placeEntryOrder_spec quantity hanswers orderId optionSymbol hpos
    hcents
  obtain ⟨after, hplaced, hretried⟩ := finalState_of_triple hplace hstart
  refine ⟨?_, fun check hcheck => ?_, hplaced.keepsCeiling, ?_⟩
  · have hkeeps : (finalState preflight start).Under limit quantity [] :=
      finalState_of_posts hpreflight (fun _ _ h => h.1) (fun _ _ h => h) hstart
    exact hkeeps.keepsCeiling
  · exact (ok_of_triple hpreflight hstart hcheck).2.2
  · rw [hplaced.submissions_eq]
    exact hretried

/-- A limit of 1.23 at a broker that refuses the first order for an increment of five cents, and takes
it again at 1.20. -/
theorem entry_limit_is_a_ceiling_refused :
    let refusal := CallError.httpStatus 400 "price increment is $0.05"
    let answers : BrokerAnswers :=
      { preflight := fun _ => .response {}
        order := fun calls => if calls = 1 then .failed refusal else .response (some "order")
        submissionGuard := fun _ => none
        freshOrderId := fun _ => "id" }
    let placed := finalState (placeEntryOrder answers "client" "SPY251219C00600000" (123 / 100) 2)
      (OrderManager.knowing (fun _ => none) fun _ => none)
    placed.submissions.map (fun sent => (sent.1.limitPrice, sent.2)) =
        [(123 / 100, .failed refusal), (120 / 100, .response (some "order"))] ∧
      placed.KeepsCeiling (123 / 100) 2 ∧ RetriedAtMostOnce placed.submissions := by
  intro refusal answers placed
  have hnamed : ∀ x ∈ refusal.namedIncrement, IsTick x := by
    have hfive : refusal.namedIncrement = some (5 / 100) := by decide +kernel
    rw [hfive]
    rintro x ⟨⟩
    exact ⟨by norm_num, mem_decimalGrid_iff.mpr ⟨5, by norm_num⟩⟩
  have horder : ∀ n, (answers.order n).OnTicks := by
    intro n
    show (if n = 1 then OrderAnswer.failed refusal else .response (some "order")).OnTicks
    split
    · exact hnamed
    · trivial
  have hanswers : answers.OnTicks :=
    ⟨fun _ x hx => absurd hx (Option.not_mem_none x), horder,
      fun _ entry hentry => absurd hentry List.not_mem_nil⟩
  have hnone : (OrderManager.knowing (fun _ => none) fun _ => none).OnTicks :=
    ⟨fun _ x h => absurd h (Option.not_mem_none x), fun _ x h => absurd h (Option.not_mem_none x)⟩
  refine ⟨by decide +kernel, ?_⟩
  exact (entry_limit_is_a_ceiling hanswers hnone "client"
    "SPY251219C00600000" (by norm_num) (mem_decimalGrid_iff.mpr ⟨123, by norm_num⟩) 2).2.2

end Ceiling

end Bhiksha.Buy
