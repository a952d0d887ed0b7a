import Mathlib.Logic.Function.Basic
import Bhiksha.Execution.EntryPricing
import Bhiksha.Risk.SizedEntry

/-! A live entry from its signal on: the planner with its candidates and its final-freshness rebuild,
the retries that reuse its pricing references, and the reprices of the working order. What the
outside answers is a parameter, by the number of requests made before. -/

namespace Bhiksha.Entry

/-- What `pricing_references` keeps of a contract. -/
structure EntryReference where
  originalMid : ℚ
  priceCeiling : ℚ
  wideMarket : Bool
deriving DecidableEq, Repr

abbrev PricingReferences := String → Option EntryReference

/-- `setdefault`. -/
def PricingReferences.setDefault (references : PricingReferences) (contract : String)
    (reference : EntryReference) : PricingReferences :=
  match references contract with
  | some _ => references
  | none => Function.update references contract (some reference)

/-- `execution_params.update(frozen)`. -/
def frozenBy (execution : ExecutionParams) (reference : EntryReference) : PricingParams :=
  { execution with
    entryOriginalMid := some reference.originalMid
    entryPriceCeiling := some reference.priceCeiling
    entryWideMarket := some reference.wideMarket }

/-- A reason not to enter; a permission is refused by the entry guard, the execution window or the
weekly chart. -/
inductive PlanReason where
  | text (reason : String)
  | permission (reason : String)
deriving DecidableEq, Repr

/-- The `entry_pricing` details of a plan. -/
structure EntryPricingEvidence where
  originalMid : Option ℚ
  maxEntryPrice : Option ℚ
  wideMarket : Bool
  finalQuoteStatus : Option QuoteTimestampStatus := none
  validatedBeforeSubmission : Bool := false
deriving DecidableEq, Repr

structure EntryPlan where
  optionSymbol : String
  quantity : ℤ
  estimatedEntryPrice : ℚ
  riskReasons : List PlanReason
  orderId : Option String := none
  entryPricing : Option EntryPricingEvidence := none
  effectiveMaxTradePremium : Option ℚ := none
  preSubmissionRetryable : Bool := false
  entryRepriceAttempt : ℕ := 0
deriving DecidableEq, Repr

/-- The deployment, as far as entries read it. -/
structure EntryLane where
  execution : ExecutionParams := {}
  maxTradePremiumUsd : Option ℚ := none
  canary : Bool := false
  maxPremiumCapFraction : Option ℚ := none
  maxContracts : Option ℤ := none
  stopLossPct : Option ℚ := none
  liquidityRetry : Bool := false
  repriceRecovery : Bool := false
deriving DecidableEq, Repr

namespace EntryLane

variable (lane : EntryLane)

def baseMaxTradePremium : ℚ := (lane.maxTradePremiumUsd.filter (· ≠ 0)).getD 300

def effectiveMaxTradePremium : Except PyException ℚ :=
  if lane.canary then
    match lane.maxPremiumCapFraction with
    | none => .error (.valueError "armed risk-envelope canary is missing its premium cap")
    | some fraction => .ok (lane.baseMaxTradePremium * fraction)
  else .ok lane.baseMaxTradePremium

end EntryLane

/-- A contract that the resolver selects. -/
structure Selection where
  optionSymbol : String
  estimatedEntryPrice : ℚ
  intrinsicValue : Option ℚ
deriving DecidableEq, Repr

/-- The cash preview; `capacity` is there when the guard enforces. -/
structure CashPreview where
  blocked : Option String
  capacity : Option (Option ℚ)
deriving DecidableEq, Repr

structure RiskPreview where
  allowed : Bool
  reason : String
  remainingLossHeadroom : Option ℚ
deriving DecidableEq, Repr

/-- The broker's answer to a preflight. -/
inductive PreflightResponse where
  | accepted (increment buyingPower estimatedCost : Option ℚ)
  | rejected (increment : Option ℚ)
  | failed (transient : Bool)
deriving DecidableEq, Repr

/-- The broker's answer to an order. -/
inductive PlaceResponse where
  | accepted (orderId : String)
  | uncertain
  | rejected (increment : Option ℚ)
deriving DecidableEq, Repr

/-- What `_cancel_entry_order_and_check_fill` finds. -/
inductive CancelOutcome where
  | filled
  | dead
  | unconfirmed
deriving DecidableEq, Repr

structure EntryAnswers where
  now : ℕ → ℚ
  windowAllows : ℕ → Bool
  selection : ℕ → ℕ → Option Selection
  ownedByOther : ℕ → String → Bool
  tracked : ℕ → String → Bool
  quote : ℕ → String → Option PublicQuote
  permission : ℕ → Option String
  governor : ℕ → ℚ → List String
  cash : ℕ → Option CashPreview
  risk : ℕ → Option (ℤ → RiskPreview)
  increment : ℕ → Option ℚ
  preflight : ℕ → PreflightResponse
  /-- A reservation or a write that the entry needs: the reason if it fails. -/
  reservation : ℕ → Option String
  place : ℕ → PlaceResponse
  retryStopped : ℕ → Bool
  selectorRetryable : ℕ → Bool
  workingGuard : ℕ → Option String
  cancel : ℕ → CancelOutcome

/-- What an entry does that the ceiling and the cap are about. -/
inductive EntryEvent where
  /-- A look at whether a market is wide. -/
  | screened (contract : String) (quote : PublicQuote) (pricing : EntryPricingResult)
  | priced (contract : String) (quote : PublicQuote) (params : PricingParams)
    (pricing : EntryPricingResult)
  | submitted (contract : String) (quantity : ℤ) (limitPrice : ℚ)
deriving DecidableEq, Repr

structure EntryWorld where
  requests : ℕ
  references : PricingReferences
  candidateRank : ℕ
  /-- The last final quote validation of the attempt. -/
  finalQuoteStatus : Option QuoteTimestampStatus
  events : List EntryEvent

def EntryWorld.start : EntryWorld := ⟨0, fun _ => none, 0, none, []⟩

/-- How a stage of the planner ends before its last line. -/
inductive PlanExit where
  | plan (plan : EntryPlan)
  | selectorEmpty
  | raised (exception : PyException)
deriving DecidableEq, Repr

abbrev EntryM := ExceptT PlanExit (StateM EntryWorld)

def ask {α : Type} (answer : ℕ → α) : EntryM α := do
  let world ← get
  set { world with requests := world.requests + 1 }
  return answer world.requests

def record (event : EntryEvent) : EntryM Unit :=
  modify fun world => { world with events := world.events ++ [event] }

def liftPy {α : Type} (x : Except PyException α) : EntryM α :=
  match x with
  | .ok a => pure a
  | .error e => throw (.raised e)

section Planner

variable (lane : EntryLane) (answers : EntryAnswers)

def price (contract : String) (quote : PublicQuote) (params : PricingParams) :
    EntryM EntryPricingResult := do
  let now ← ask answers.now
  let pricing ← liftPy (selectEntryLimit quote params now)
  record (.priced contract quote params pricing)
  return pricing

/-- A candidate whose evaluation raises is passed over. -/
def screenCandidate (contract : String) (quote : PublicQuote) : EntryM Bool := do
  let now ← ask answers.now
  match selectEntryLimit quote { lane.execution with } now with
  | .error _ => return false
  | .ok pricing =>
    record (.screened contract quote pricing)
    return pricing.approved && !pricing.wideMarket

/-- The first of the later candidates with a normal market. -/
def narrowerMarket : List ℕ → EntryM (Option (ℕ × Selection × PublicQuote))
  | [] => return none
  | rank :: ranks => do
    match ← ask fun n => answers.selection n rank with
    | none => return none
    | some candidate =>
      if ← ask fun n => answers.tracked n candidate.optionSymbol then narrowerMarket ranks
      else
        match ← ask fun n => answers.quote n candidate.optionSymbol with
        | none => narrowerMarket ranks
        | some quote =>
          if ← screenCandidate lane answers candidate.optionSymbol quote then
            return some (rank, candidate, quote)
          else narrowerMarket ranks

def chooseContract : EntryM (Selection × PublicQuote) := do
  let rank := (← get).candidateRank
  match ← ask fun n => answers.selection n rank with
  | none => throw .selectorEmpty
  | some selection =>
    if ← ask fun n => answers.ownedByOther n selection.optionSymbol then
      throw (.plan ⟨selection.optionSymbol, 0, selection.estimatedEntryPrice,
        [.text "option_contract_already_owned_by_other_deployment"], none, none, none, false, 0⟩)
    match ← ask fun n => answers.quote n selection.optionSymbol with
    | none =>
      throw (.plan ⟨selection.optionSymbol, 0, selection.estimatedEntryPrice,
        [.text "public_quote_unavailable"], none, none, none, false, 0⟩)
    | some quote =>
      let now ← ask answers.now
      let screened ← liftPy (selectEntryLimit quote { lane.execution with } now)
      record (.screened selection.optionSymbol quote screened)
      if screened.wideMarket then
        match ← narrowerMarket lane answers (List.range' (rank + 1) (4 - rank)) with
        | none => return (selection, quote)
        | some (rank', candidate, quote') =>
          modify fun world => { world with candidateRank := rank' }
          return (candidate, quote')
      else return (selection, quote)

/-- The evidence of a pricing. -/
def evidence (pricing : EntryPricingResult) (status : Option QuoteTimestampStatus)
    (beforeSubmission : Bool) : EntryPricingEvidence :=
  ⟨pricing.originalMid, pricing.maxEntryPrice, pricing.wideMarket, status, beforeSubmission⟩

/-- `guarded_plan` without the quote check. -/
def guardPermission (selection : Selection) (pricing : EntryPricingResult) : EntryM Unit := do
  match ← ask answers.permission with
  | none => return ()
  | some reason =>
    throw (.plan ⟨selection.optionSymbol, 0,
      pricing.limitPrice.getD selection.estimatedEntryPrice, [.permission reason], none,
      some (evidence pricing none false), none, false, 0⟩)

/-- The final quote check of `guarded_plan`: what it finds and the reason, if there is one. -/
def validateQuote (selection : Selection) (quote : PublicQuote) (params : PricingParams) :
    EntryM (QuoteTimestampStatus × Option PlanReason) := do
  let now ← ask answers.now
  let fresh ← liftPy (selectEntryLimit quote params now)
  record (.priced selection.optionSymbol quote params fresh)
  let status := quote.timestampStatus now
  modify fun world => { world with finalQuoteStatus := some status }
  match fresh.blockReasons, status with
  | reason :: _, _ => return (status, some (.text reason))
  | [], .current => return (status, none)
  | [], .missing => return (status, some (.text "public_quote_timestamp_missing"))
  | [], _ => return (status, some (.text "public_quote_stale_or_unproven"))

/-- `guarded_plan(check_freshness=True)`: the plan that stops the entry, or none. -/
def guardedPlan (selection : Selection) (quote : PublicQuote) (params : PricingParams)
    (pricing : EntryPricingResult) (beforeSubmission : Bool) : EntryM (Option EntryPlan) := do
  match ← ask answers.permission with
  | some reason =>
    return some ⟨selection.optionSymbol, 0,
      pricing.limitPrice.getD selection.estimatedEntryPrice, [.permission reason], none,
      some (evidence pricing none beforeSubmission), none, false, 0⟩
  | none =>
    let (status, reason) ← validateQuote answers selection quote params
    return reason.map fun reason => ⟨selection.optionSymbol, 0,
      pricing.limitPrice.getD selection.estimatedEntryPrice, [reason], none,
      some (evidence pricing (some status) beforeSubmission), none, false, 0⟩

def timestampBlocks : List String :=
  ["public_quote_stale_or_unproven", "public_quote_timestamp_missing"]

/-- One more quote; a request or a pricing that raises leaves the pricing as it was. -/
def refetchQuote (selection : Selection) (params : PricingParams) (quote : PublicQuote)
    (pricing : EntryPricingResult) : EntryM (PublicQuote × EntryPricingResult) := do
  match ← ask fun n => answers.quote n selection.optionSymbol with
  | none => return (quote, pricing)
  | some quote' =>
    let now ← ask answers.now
    match selectEntryLimit quote' params now with
    | .error _ => return (quote', pricing)
    | .ok pricing' =>
      record (.priced selection.optionSymbol quote' params pricing')
      return (quote', pricing')

/-- The pricing of a contract, with one more quote if only the timestamps block it. -/
def priceOrRefetch (selection : Selection) (params : PricingParams) (quote : PublicQuote) :
    EntryM (PublicQuote × EntryPricingResult) := do
  let pricing ← price answers selection.optionSymbol quote params
  if pricing.blockReasons ≠ [] ∧ ∀ reason ∈ pricing.blockReasons, reason ∈ timestampBlocks then
    guardPermission answers selection pricing
    let refetched ← refetchQuote answers selection params quote pricing
    guardPermission answers selection refetched.2
    return refetched
  else return (quote, pricing)

/-- Only an approved pricing seeds the references. -/
def rememberPricing (contract : String) (pricing : EntryPricingResult) : EntryM Unit :=
  match pricing.approved, pricing.originalMid, pricing.maxEntryPrice with
  | true, some originalMid, some ceiling =>
    modify fun world => { world with
      references := world.references.setDefault contract
        ⟨originalMid, ceiling, pricing.wideMarket⟩ }
  | _, _, _ => pure ()

def priceContract (selection : Selection) (quote : PublicQuote) :
    EntryM (PublicQuote × PricingParams × EntryPricingResult) := do
  let params := ((← get).references selection.optionSymbol).elim { lane.execution with }
    (frozenBy lane.execution)
  let (quote, pricing) ← priceOrRefetch answers selection params quote
  rememberPricing selection.optionSymbol pricing
  return (quote, params, pricing)

/-- The largest quantity between two bounds that a bound on the loss admits. -/
def largestWithin (within : ℤ → Bool) (low high : ℤ) : ℤ :=
  if low < high then
    let candidate := (low + high + 1) / 2
    if within candidate then largestWithin within candidate high
    else largestWithin within low (candidate - 1)
  else low
termination_by (high - low).toNat
decreasing_by all_goals omega

/-- `_fit_live_quantity`. -/
def fitLiveQuantity (price : ℚ) (upperQuantity : ℤ) (premiumCap extraCash : ℚ) :
    EntryM (ℤ × Option String) := do
  let quantity := min upperQuantity ⌊premiumCap / (price * 100)⌋
  match ← fitCash quantity price extraCash with
  | .inr reason => return (0, some reason)
  | .inl quantity =>
    match ← fitRisk quantity price with
    | .inr reason => return (0, some reason)
    | .inl quantity =>
      return (quantity,
        if 0 < quantity then none else some "insufficient_budget_for_single_contract")
where
  fitCash (quantity : ℤ) (price extraCash : ℚ) : EntryM (ℤ ⊕ String) := do
    match ← ask answers.cash with
    | none => return .inl quantity
    | some ⟨some reason, _⟩ => return .inr reason
    | some ⟨none, none⟩ => return .inl quantity
    | some ⟨none, some none⟩ => return .inr "cash_guard_cash_unavailable"
    | some ⟨none, some (some capacity)⟩ =>
      let quantity := min quantity ⌊max 0 (capacity - extraCash) / (price * 100)⌋
      if quantity < 1 then return .inr "insufficient_internal_settled_cash_budget"
      else return .inl quantity
  fitRisk (quantity : ℤ) (price : ℚ) : EntryM (ℤ ⊕ String) := do
    match ← ask answers.risk with
    | none => return .inl quantity
    | some preview =>
      let risk := preview (max 1 quantity)
      if !risk.allowed && risk.reason != "risk_prospective_loss_headroom_exceeded" then
        return .inr risk.reason
      else
        match risk.remainingLossHeadroom with
        | some headroom =>
          let within (candidate : ℤ) : Bool :=
            (plannedStopLossUsd (some price) candidate none lane.stopLossPct).any (· ≤ headroom)
          let quantity := largestWithin within 0 quantity
          if quantity < 1 then return .inr "risk_prospective_loss_headroom_exceeded"
          else return .inl quantity
        | none => if risk.allowed then return .inl quantity else return .inr risk.reason

structure PreflightCheck where
  limitPrice : ℚ
  buyingPower : Option ℚ
  estimatedCost : Option ℚ
deriving DecidableEq, Repr

/-- The attempts of `preflight_entry`; a failure says whether it may pass. -/
def preflightAttempts : ℕ → ℚ → ℚ → Option ℚ → EntryM (Except Bool PreflightCheck)
  | 0, _, _, _ => return .error false
  | attempts + 1, limitPrice, payload, increment => do
    match increment.elim (Except.ok payload) (snapPrice limitPrice) with
    | .error _ => return .error false
    | .ok payload =>
      match ← ask answers.preflight with
      | .failed transient => return .error transient
      | .rejected none => return .error false
      | .rejected (some increment) => preflightAttempts attempts limitPrice payload (some increment)
      | .accepted discovered buyingPower estimatedCost =>
        match discovered.filter (· ≠ 0) with
        | none => return .ok ⟨payload, buyingPower, estimatedCost⟩
        | some increment =>
          match snapPrice limitPrice increment with
          | .error _ => return .error false
          | .ok corrected =>
            if corrected = payload then return .ok ⟨payload, buyingPower, estimatedCost⟩
            else preflightAttempts attempts limitPrice corrected (some increment)

/-- `preflight_entry`. -/
def preflightEntry (limitPrice : ℚ) : EntryM (Except Bool PreflightCheck) := do
  let increment ← ask answers.increment
  preflightAttempts answers 3 limitPrice (roundPrice limitPrice) increment

/-- What `place_entry_order` returns: an order id, maybe of an order that is uncertain. -/
structure OrderResult where
  orderId : Option String
  actualLimitPrice : Option ℚ
  error : Option PlanReason
  preSubmissionRetryable : Bool := false
deriving DecidableEq, Repr

/-- `place_entry_order` with its correction and its one retry at a smaller increment. -/
def placeEntryOrder (contract orderId : String) (limitPrice : ℚ) (quantity : ℤ)
    (submissionGuard : EntryM (Option PlanReason)) : EntryM OrderResult := do
  let increment ← ask answers.increment
  let payload ← liftPy
    (increment.elim (Except.ok (roundPrice limitPrice)) (snapPrice (roundPrice limitPrice)))
  match ← submissionGuard with
  | some reason => return ⟨none, none, some reason, false⟩
  | none =>
    record (.submitted contract quantity payload)
    match ← ask answers.place with
    | .accepted orderId => return ⟨some orderId, some payload, none, false⟩
    | .uncertain => return ⟨some orderId, some payload, some (.text "submission_uncertain"), false⟩
    | .rejected none => return ⟨none, some payload, some (.text "order_rejected"), false⟩
    | .rejected (some increment) =>
      let corrected ← liftPy (snapPrice payload increment)
      match ← preflightEntry answers corrected with
      | .error transient =>
        return ⟨none, none, some (.text "public_preflight_failed"), transient⟩
      | .ok checked =>
        match ← submissionGuard with
        | some reason => return ⟨none, none, some reason, false⟩
        | none =>
          record (.submitted contract quantity checked.limitPrice)
          match ← ask answers.place with
          | .accepted orderId => return ⟨some orderId, some checked.limitPrice, none, false⟩
          | .uncertain =>
            return ⟨some orderId, some checked.limitPrice,
              some (.text "submission_uncertain"), false⟩
          | .rejected _ =>
            return ⟨none, some checked.limitPrice, some (.text "order_rejected"), false⟩

/-- A submission that raises leaves the order uncertain. -/
def submitEntryOrder (contract orderId : String) (limitPrice : ℚ) (quantity : ℤ)
    (submissionGuard : EntryM (Option PlanReason)) : EntryM OrderResult :=
  tryCatch (placeEntryOrder answers contract orderId limitPrice quantity submissionGuard)
    fun _ => return ⟨some orderId, some limitPrice, some (.text "entry_submission_uncertain"), false⟩

end Planner

end Bhiksha.Entry
