import Bhiksha.Execution.EntryPlanner

/-! The attempts of the planner, the retries and the reprices put together. -/

namespace Bhiksha.Entry

section Attempt

variable (lane : EntryLane) (answers : EntryAnswers)

/-- A plan that stops with the pricing known and the cap not yet. -/
def refusedPlan (selection : Selection) (quantity : ℤ) (price : ℚ) (reasons : List PlanReason)
    (entryPricing : Option EntryPricingEvidence) : EntryPlan where
  optionSymbol := selection.optionSymbol
  quantity := quantity
  estimatedEntryPrice := price
  riskReasons := reasons
  entryPricing := entryPricing

def submissionGuard (selection : Selection) (quote : PublicQuote) (params : PricingParams)
    (pricing : EntryPricingResult) : EntryM (Option PlanReason) := do
  let blocked ← guardedPlan answers selection quote params pricing true
  return blocked.bind fun plan => plan.riskReasons.head?

/-- Sizing with a preflight of the very quantity that is sent, at most three times. -/
def sizeAndPreflight (selection : Selection) (pricing : EntryPricingResult)
    (entryPrice sizingPrice cap : ℚ) : ℕ → ℤ → EntryM (ℤ × PreflightCheck)
  | 0, quantity =>
    throw (.plan (refusedPlan selection quantity entryPrice
      [.text "entry_sizing_preflight_unstable"] (some (evidence pricing none false))))
  | attempts + 1, quantity => do
    match ← preflightEntry answers entryPrice with
    | .error transient =>
      throw (.plan { refusedPlan selection quantity entryPrice [.text "public_preflight_failed"]
          (some (evidence pricing none false)) with
        effectiveMaxTradePremium := some cap
        preSubmissionRetryable := transient })
    | .ok preflight =>
      let cost := preflight.limitPrice * quantity * 100
      let required := max (max (preflight.buyingPower.getD 0) (preflight.estimatedCost.getD 0)) cost
      let (fitted, reason) ← fitLiveQuantity lane answers (max sizingPrice preflight.limitPrice)
        quantity cap (max 0 (required - cost))
      match reason with
      | some reason =>
        throw (.plan (refusedPlan selection fitted entryPrice [.text reason]
          (some (evidence pricing none false))))
      | none =>
        if fitted = quantity then return (quantity, preflight)
        else sizeAndPreflight selection pricing entryPrice sizingPrice cap attempts fitted

/-- The cash reservation, the entry intent and the sized-risk reservation. -/
def reserveEntry (refuse : String → EntryPlan) : EntryM Unit := do
  for _ in [0, 1, 2] do
    match ← ask answers.reservation with
    | none => pure ()
    | some reason => throw (.plan (refuse reason))

/-- The cap, the price that sizes the order and the quantity that they allow. -/
def affordableQuantity (selection : Selection) (pricing : EntryPricingResult) (entryPrice : ℚ) :
    EntryM (ℚ × ℚ × ℤ) := do
  let priced := some (evidence pricing none false)
  if selection.intrinsicValue.any (entryPrice + 5 / 100 < ·) then
    throw (.plan (refusedPlan selection 0 entryPrice
      [.text "underlying_option_price_inconsistent"] priced))
  let cap ← liftPy lane.effectiveMaxTradePremium
  let sizingPrice := (pricing.maxEntryPrice.filter (· ≠ 0)).getD entryPrice
  let quantity := lane.maxContracts.elim ⌊cap / (sizingPrice * 100)⌋
    (min ⌊cap / (sizingPrice * 100)⌋)
  if quantity ≤ 0 then
    throw (.plan (refusedPlan selection 0 entryPrice
      [.text "insufficient_budget_for_single_contract"] priced))
  let reasons ← ask fun n => answers.governor n (sizingPrice * quantity * 100)
  if reasons ≠ [] then
    throw (.plan (refusedPlan selection quantity entryPrice (reasons.map .text) priced))
  return (cap, sizingPrice, quantity)

/-- The quantity and the price that a preflight has accepted. -/
def fittedEntry (selection : Selection) (quote : PublicQuote) (params : PricingParams)
    (pricing : EntryPricingResult) (entryPrice sizingPrice cap : ℚ) (quantity : ℤ) :
    EntryM (ℤ × ℚ) := do
  let priced := some (evidence pricing none false)
  if let some plan ← guardedPlan answers selection quote params pricing false then
    throw (.plan plan)
  let (fitted, reason) ← fitLiveQuantity lane answers sizingPrice quantity cap 0
  match reason with
  | some reason => throw (.plan (refusedPlan selection fitted entryPrice [.text reason] priced))
  | none =>
    let (quantity, preflight) ←
      sizeAndPreflight lane answers selection pricing entryPrice sizingPrice cap 3 fitted
    if entryPrice + 1 / 10 ^ 9 < preflight.limitPrice then
      throw (.plan (refusedPlan selection quantity entryPrice
        [.text "broker_entry_price_exceeds_limit"] priced))
    else return (quantity, preflight.limitPrice)

/-- The reservations and the submission. -/
def sendEntry (selection : Selection) (quote : PublicQuote) (params : PricingParams)
    (pricing : EntryPricingResult) (cap finalLimitPrice : ℚ) (quantity : ℤ) : EntryM EntryPlan := do
  reserveEntry answers fun reason =>
    refusedPlan selection quantity finalLimitPrice [.text reason]
      (some (evidence pricing none false))
  if let some plan ← guardedPlan answers selection quote params pricing true then
    throw (.plan plan)
  let result ← submitEntryOrder answers selection.optionSymbol "entry" finalLimitPrice quantity
    (submissionGuard answers selection quote params pricing)
  let status := (← get).finalQuoteStatus
  return {
    optionSymbol := selection.optionSymbol
    quantity := quantity
    estimatedEntryPrice := result.actualLimitPrice.getD finalLimitPrice
    riskReasons := .text "approved" ::
      (if result.orderId.isSome then [] else [result.error.getD (.text "order_submit_failed")])
    orderId := result.orderId
    entryPricing := some (evidence pricing status true)
    effectiveMaxTradePremium := some cap
    preSubmissionRetryable := result.preSubmissionRetryable }

/-- `_plan_entry_once` from an approved pricing on. -/
def planAtLimit (selection : Selection) (quote : PublicQuote) (params : PricingParams)
    (pricing : EntryPricingResult) (entryPrice : ℚ) : EntryM EntryPlan := do
  let (cap, sizingPrice, quantity) ← affordableQuantity lane answers selection pricing entryPrice
  let (quantity, finalLimitPrice) ←
    fittedEntry lane answers selection quote params pricing entryPrice sizingPrice cap quantity
  sendEntry answers selection quote params pricing cap finalLimitPrice quantity

/-- `_plan_entry_once`. -/
def planEntryOnce : EntryM EntryPlan := do
  modify fun world => { world with finalQuoteStatus := none }
  if !(← ask answers.windowAllows) then
    throw (.plan ⟨"", 0, 0, [.permission "execution_window_blocked"], none, none, none, false, 0⟩)
  let (selection, quote) ← chooseContract lane answers
  let (quote, params, pricing) ← priceContract lane answers selection quote
  match pricing.limitPrice, pricing.blockReasons with
  | some entryPrice, [] => planAtLimit lane answers selection quote params pricing entryPrice
  | none, [] =>
    throw (.plan (refusedPlan selection 0 selection.estimatedEntryPrice
      [.text "public_quote_missing_price"] (some (evidence pricing none false))))
  | _, blocks =>
    throw (.plan (refusedPlan selection 0 selection.estimatedEntryPrice
      (blocks.map .text) (some (evidence pricing none false))))

/-- An attempt whose plan may have stopped early; none if no contract is left. -/
def attemptPlan : EntryM (Option EntryPlan) :=
  tryCatch (do return some (← planEntryOnce lane answers)) fun exit =>
    match exit with
    | .plan plan => return some plan
    | .selectorEmpty => return none
    | .raised e => throw (.raised e)

/-- The reasons for which the next candidate is tried. -/
def contractBlocks : List String :=
  ["insufficient_budget_for_single_contract",
    "option_contract_already_owned_by_other_deployment", "public_quote_stale_or_unproven",
    "public_quote_timestamp_missing", "public_quote_unavailable", "public_quote_crossed_bid_ask",
    "public_quote_nonfinite", "public_open_interest_missing", "public_quote_missing_bid_ask",
    "public_spread_absurd", "public_spread_unavailable",
    "risk_prospective_loss_headroom_exceeded", "insufficient_internal_settled_cash_budget"]

def reasonIn (texts : List String) : PlanReason → Bool
  | .text reason => texts.contains reason
  | .permission _ => false

/-- Only the final quote check stopped the plan, right before the submission. -/
def needsFreshQuote (plan : EntryPlan) (reasons : List PlanReason) : Bool :=
  reasons.all (reasonIn timestampBlocks) &&
    plan.entryPricing.any fun pricing =>
      pricing.validatedBeforeSubmission &&
        pricing.finalQuoteStatus.any fun status => status != .current

/-- The attempts of `plan_entry`. -/
def planAttempts : ℕ → Bool → Option EntryPlan → EntryM (Option EntryPlan)
  | 0, _, previous => return previous
  | attempts + 1, freshRebuildUsed, previous => do
    match ← attemptPlan lane answers with
    | none => return previous
    | some plan =>
      let reasons := plan.riskReasons.filter (· ≠ .text "approved")
      if plan.orderId.isSome || reasons.isEmpty then return some plan
      else if !freshRebuildUsed && needsFreshQuote plan reasons then
        planAttempts attempts true (some plan)
      else if !reasons.all (reasonIn contractBlocks) || decide (4 ≤ (← get).candidateRank) then
        return some plan
      else
        modify fun world => { world with candidateRank := world.candidateRank + 1 }
        planAttempts attempts freshRebuildUsed (some plan)

/-- `plan_entry`: five candidates and one rebuild at most; none if the selector is empty. -/
def planEntry : EntryM (Option EntryPlan) := do
  modify fun world => { world with candidateRank := 0 }
  planAttempts lane answers 6 false none

end Attempt

section Working

variable (lane : EntryLane) (answers : EntryAnswers)

/-- `_entry_reprice_pricing_params`. -/
def repricePricingParams (plan : EntryPlan) : PricingParams :=
  { lane.execution with
    entryRepriceStep := true
    entryOriginalMid := plan.entryPricing.bind EntryPricingEvidence.originalMid
    entryPriceCeiling := plan.entryPricing.bind EntryPricingEvidence.maxEntryPrice
    entryWideMarket := some (plan.entryPricing.any EntryPricingEvidence.wideMarket) }

/-- What a reprice comes to for the wait loop. -/
inductive RepriceOutcome where
  /-- The order keeps working. -/
  | resting (retryable : Bool)
  /-- The wait is over, by a fill, a cancel or an error. -/
  | over
deriving DecidableEq, Repr

/-- `_entry_working_guard` and the freshness of the quote. -/
def repriceGuard (quote : PublicQuote) : EntryM (Option PlanReason) := do
  match ← ask answers.workingGuard with
  | some reason => return some (.permission reason)
  | none =>
    let now ← ask answers.now
    return if quote.timestampStatus now = .current then none
      else some (.text "public_quote_stale_or_unproven")

/-- The replacement from the confirmed cancel on. -/
def replaceEntry (plan : EntryPlan) (attempt : ℕ) (quote : PublicQuote) (quantity : ℤ)
    (limitPrice : ℚ) : EntryM (EntryPlan × RepriceOutcome) := do
  match ← ask answers.cancel with
  | .filled => return (plan, .over)
  | .unconfirmed => return (plan, .over)
  | .dead =>
    let plan := { plan with quantity := quantity }
    let reserved ← reserve 3
    if !reserved then return (plan, .over)
    if (← repriceGuard answers quote).isSome then return (plan, .over)
    let result ← submitEntryOrder answers plan.optionSymbol "replacement" limitPrice quantity
      (repriceGuard answers quote)
    let intended := { plan with
      orderId := result.orderId
      estimatedEntryPrice := result.actualLimitPrice.getD limitPrice
      entryRepriceAttempt := attempt }
    match result.orderId, result.error with
    | some _, none => return (intended, .resting false)
    | some _, some _ => return (intended, .over)
    | none, _ => return (plan, .over)
where
  reserve : ℕ → EntryM Bool
    | 0 => return true
    | n + 1 => do
      match ← ask answers.reservation with
      | some _ => return false
      | none => reserve n

/-- The premium cap of a reprice. -/
def repriceCap (plan : EntryPlan) : ℚ :=
  (plan.effectiveMaxTradePremium.filter (· ≠ 0)).elim lane.baseMaxTradePremium
    (min lane.baseMaxTradePremium)

/-- The replacement's quantity and limit price, or how the reprice ends. -/
def sizeReplacement (plan : EntryPlan) (preflight : PreflightCheck) :
    EntryM (RepriceOutcome ⊕ (ℤ × ℚ)) := do
  let limitPrice := preflight.limitPrice
  let premium := limitPrice * plan.quantity * 100
  if repriceCap lane plan < premium then return .inl .over
  let required :=
    max (max (preflight.buyingPower.getD 0) (preflight.estimatedCost.getD 0)) premium
  let (quantity, reason) ← fitLiveQuantity lane answers limitPrice plan.quantity
    (repriceCap lane plan) (max 0 (required - premium))
  if reason.isSome then return .inl .over
  if quantity < plan.quantity then
    match ← preflightEntry answers limitPrice with
    | .error transient => return .inl (if transient then .resting true else .over)
    | .ok again =>
      if limitPrice + 1 / 10 ^ 9 < again.limitPrice then return .inl .over
      else return .inr (quantity, again.limitPrice)
  else return .inr (plan.quantity, limitPrice)

/-- `_reprice_live_entry` from a chosen limit on. -/
def repriceAtLimit (plan : EntryPlan) (attempt : ℕ) (quote : PublicQuote) (limit : ℚ) :
    EntryM (EntryPlan × RepriceOutcome) := do
  match ← preflightEntry answers limit with
  | .error transient => return (plan, if transient then .resting true else .over)
  | .ok preflight =>
    if limit + 1 / 10 ^ 9 < preflight.limitPrice then return (plan, .over)
    else if preflight.limitPrice ≤ plan.estimatedEntryPrice then return (plan, .resting true)
    else
      let now ← ask answers.now
      if quote.timestampStatus now ≠ .current then return (plan, .resting true)
      else if (← ask answers.workingGuard).isSome then return (plan, .over)
      else
        match ← sizeReplacement lane answers plan preflight with
        | .inl outcome => return (plan, outcome)
        | .inr (quantity, limitPrice) => replaceEntry answers plan attempt quote quantity limitPrice

/-- `_reprice_live_entry`. -/
def repriceLiveEntry (plan : EntryPlan) (attempt : ℕ) : EntryM (EntryPlan × RepriceOutcome) := do
  if 1 ≤ plan.entryRepriceAttempt then return (plan, .resting false)
  else if (← ask answers.workingGuard).isSome then return (plan, .over)
  else
    match ← ask fun n => answers.quote n plan.optionSymbol with
    | none => return (plan, .resting true)
    | some quote =>
      let now ← ask answers.now
      match selectEntryLimit quote (repricePricingParams lane plan) now with
      | .error _ => return (plan, .resting true)
      | .ok pricing =>
        record (.priced plan.optionSymbol quote (repricePricingParams lane plan) pricing)
        match pricing.limitPrice, pricing.blockReasons with
        | some limit, [] => repriceAtLimit lane answers plan attempt quote limit
        | _, _ => return (plan, .resting true)

/-- The wait for the fill, with the one reprice checkpoint that a deployment has. -/
def waitForEntryFillOrCancel (polled : ℕ → Bool) : ℕ → EntryPlan → EntryM EntryPlan
  | 0, plan => return plan
  | rounds + 1, plan => do
    if ← ask polled then return plan
    match ← repriceLiveEntry lane answers plan 1 with
    | (plan, .over) => return plan
    | (plan, .resting retryable) =>
      if retryable && lane.repriceRecovery then waitForEntryFillOrCancel polled rounds plan
      else return plan

/-- The reasons for which a plan is tried again later. -/
def transientReason (plan : EntryPlan) : PlanReason → Bool
  | .text reason =>
    ["public_quote_stale_or_unproven", "public_quote_timestamp_missing",
      "public_quote_unavailable"].contains reason ||
      reason == "public_preflight_failed" && plan.preSubmissionRetryable
  | .permission _ => false

/-- `_schedule_entry_retry` for a plan. -/
def scheduleEntryRetry (plan : EntryPlan) : EntryM Bool := do
  let reasons := plan.riskReasons.filter (· ≠ .text "approved")
  if !lane.liquidityRetry || plan.orderId.isSome || reasons.isEmpty ||
      !reasons.all (transientReason plan) then return false
  return !(← ask answers.retryStopped)

/-- A live entry, over so many planned attempts and waits of so many rounds. -/
def entryLife (polled : ℕ → Bool) (rounds : ℕ) : ℕ → EntryM (Option EntryPlan)
  | 0 => return none
  | retries + 1 => do
    match ← planEntry lane answers with
    | none =>
      if lane.liquidityRetry && (← ask answers.selectorRetryable) then
        if ← ask answers.retryStopped then return none
        else entryLife polled rounds retries
      else return none
    | some plan =>
      if plan.orderId.isSome then
        return some (← waitForEntryFillOrCancel lane answers polled rounds plan)
      else if ← scheduleEntryRetry lane answers plan then entryLife polled rounds retries
      else return none

end Working

end Bhiksha.Entry
