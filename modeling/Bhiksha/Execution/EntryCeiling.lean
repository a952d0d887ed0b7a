import Mathlib
import Bhiksha.Execution.EntryLife

/-! The ceiling of a contract and its first midpoint are frozen for the life of an entry, and no order
costs more than the premium cap that it was sized for. -/

namespace Bhiksha.Entry

open Std.Do

set_option mvcgen.warning false

section Invariant

variable (lane : EntryLane)

/-- A pricing is the one that the references keep of its contract. -/
def Referenced (references : PricingReferences) (contract : String) (pricing : EntryPricingResult) :
    Prop :=
  ∃ reference, references contract = some reference ∧
    pricing.originalMid = some reference.originalMid ∧
    pricing.maxEntryPrice = some reference.priceCeiling

/-- Every limit is within its bounds and every order within the cap. -/
structure Lawful (events : List EntryEvent) : Prop where
  limits : ∀ contract quote params pricing limit,
    .priced contract quote params pricing ∈ events → pricing.limitPrice = some limit →
      params.toExecutionParams = lane.execution ∧
        ∃ bid ask, LimitChosen quote params pricing limit bid ask
  looks : ∀ contract quote pricing limit, .screened contract quote pricing ∈ events →
    pricing.limitPrice = some limit →
      ∃ bid ask, LimitChosen quote { lane.execution with } pricing limit bid ask
  caps : ∀ (contract : String) (quantity : ℤ) (limit : ℚ),
    .submitted contract quantity limit ∈ events →
      ∃ cap, lane.effectiveMaxTradePremium = .ok cap ∧ quantity * limit * 100 ≤ cap

/-- What the events of an entry are to satisfy. -/
structure EventsFine (events : List EntryEvent) : Prop extends Lawful lane events where
  frozen : ∀ contract quote quote' params params' pricing pricing',
    .priced contract quote params pricing ∈ events → pricing.approved = true →
    .priced contract quote' params' pricing' ∈ events → pricing'.approved = true →
      pricing.originalMid = pricing'.originalMid ∧ pricing.maxEntryPrice = pricing'.maxEntryPrice

def Usable (references : PricingReferences) : Prop :=
  ∀ contract reference, references contract = some reference →
    reference.originalMid ≠ 0 ∧
      ∀ target, lane.execution.entryPriceThroughTarget = some target →
        reference.priceCeiling ≤ target

/-- Every approved pricing is referenced, but for the latest one of a contract without reference. -/
structure Pending (contract : String) (latest : EntryPricingResult) (events : List EntryEvent)
    (references : PricingReferences) : Prop extends Lawful lane events where
  usable : Usable lane references
  recorded : ∀ other quote params pricing, .priced other quote params pricing ∈ events →
    pricing.approved = true →
      Referenced references other pricing ∨
        other = contract ∧ references contract = none ∧ latest.approved = true ∧
          pricing.originalMid = latest.originalMid ∧ pricing.maxEntryPrice = latest.maxEntryPrice

/-- Every approved pricing is referenced. -/
structure Settled (events : List EntryEvent) (references : PricingReferences) : Prop
    extends Lawful lane events where
  usable : Usable lane references
  recorded : ∀ contract quote params pricing, .priced contract quote params pricing ∈ events →
    pricing.approved = true → Referenced references contract pricing

variable {lane} {events : List EntryEvent} {references : PricingReferences} {contract : String}
  {latest : EntryPricingResult} {quote : PublicQuote} {params : PricingParams}

theorem Pending.eventsFine (h : Pending lane contract latest events references) :
    EventsFine lane events where
  toLawful := h.toLawful
  frozen := by
    intro other quote quote' params params' pricing pricing' hmem happroved hmem' happroved'
    have hfirst := h.recorded other quote params pricing hmem happroved
    have hsecond := h.recorded other quote' params' pricing' hmem' happroved'
    rcases hfirst with ⟨reference, href, hmid, hmax⟩ | ⟨rfl, hnone, -, hmid, hmax⟩
    · rcases hsecond with ⟨reference', href', hmid', hmax'⟩ | ⟨rfl, hnone, -⟩
      · rw [href] at href'
        cases href'
        exact ⟨hmid.trans hmid'.symm, hmax.trans hmax'.symm⟩
      · rw [hnone] at href
        cases href
    · rcases hsecond with ⟨reference', href', -⟩ | ⟨-, -, -, hmid', hmax'⟩
      · rw [hnone] at href'
        cases href'
      · exact ⟨hmid.trans hmid'.symm, hmax.trans hmax'.symm⟩

theorem Settled.pending (h : Settled lane events references) :
    Pending lane contract latest events references where
  toLawful := h.toLawful
  usable := h.usable
  recorded other quote params pricing hmem happroved :=
    Or.inl (h.recorded other quote params pricing hmem happroved)

theorem Settled.eventsFine (h : Settled lane events references) : EventsFine lane events := by
  have hpending : Pending lane "" (.blocked []) events references := h.pending
  exact hpending.eventsFine

/-- With nothing awaited, every pricing is referenced. -/
theorem Pending.settled (h : Pending lane contract latest events references)
    (hnothing : latest.approved = true → references contract ≠ none) :
    Settled lane events references where
  toLawful := h.toLawful
  usable := h.usable
  recorded other quote params pricing hmem happroved := by
    rcases h.recorded other quote params pricing hmem happroved with href | ⟨-, hnone, hlatest, -⟩
    · exact href
    · exact absurd hnone (hnothing hlatest)

theorem Lawful.screened (h : Lawful lane events) {now : ℚ} {pricing : EntryPricingResult}
    (hselect : selectEntryLimit quote { lane.execution with } now = .ok pricing) :
    Lawful lane (events ++ [.screened contract quote pricing]) where
  limits := by
    intro other quote params pricing limit hmem
    apply h.limits other quote params pricing limit
    simpa using hmem
  looks := by
    intro other quote' pricing' limit hmem hlimit
    rcases List.mem_append.mp hmem with hmem | hmem
    · exact h.looks other quote' pricing' limit hmem hlimit
    · cases List.mem_singleton.mp hmem
      exact limitChosen_of_selectEntryLimit hselect hlimit
  caps := by
    intro other quantity limit hmem
    apply h.caps other quantity limit
    simpa using hmem

theorem Settled.screened (h : Settled lane events references) {now : ℚ}
    {pricing : EntryPricingResult}
    (hselect : selectEntryLimit quote { lane.execution with } now = .ok pricing) :
    Settled lane (events ++ [.screened contract quote pricing]) references where
  toLawful := h.toLawful.screened hselect
  usable := h.usable
  recorded := by
    intro other quote params pricing hmem
    apply h.recorded other quote params pricing
    simpa using hmem

theorem Lawful.priced (h : Lawful lane events) (hparams : params.toExecutionParams = lane.execution)
    {now : ℚ} {pricing : EntryPricingResult}
    (hselect : selectEntryLimit quote params now = .ok pricing) :
    Lawful lane (events ++ [.priced contract quote params pricing]) where
  limits := by
    intro other quote' params' pricing' limit hmem hlimit
    rcases List.mem_append.mp hmem with hmem | hmem
    · exact h.limits other quote' params' pricing' limit hmem hlimit
    · cases List.mem_singleton.mp hmem
      exact ⟨hparams, limitChosen_of_selectEntryLimit hselect hlimit⟩
  looks := by
    intro other quote pricing limit hmem
    apply h.looks other quote pricing limit
    simpa using hmem
  caps := by
    intro other quantity limit hmem
    apply h.caps other quantity limit
    simpa using hmem

theorem Settled.priced (h : Settled lane events references)
    (hparams : params.toExecutionParams = lane.execution) {now : ℚ} {pricing : EntryPricingResult}
    (hselect : selectEntryLimit quote params now = .ok pricing)
    (hreferenced : pricing.approved = true → Referenced references contract pricing) :
    Settled lane (events ++ [.priced contract quote params pricing]) references where
  toLawful := h.toLawful.priced hparams hselect
  usable := h.usable
  recorded := by
    intro other quote' params' pricing' hmem happroved
    rcases List.mem_append.mp hmem with hmem | hmem
    · exact h.recorded other quote' params' pricing' hmem happroved
    · cases List.mem_singleton.mp hmem
      exact hreferenced happroved

theorem Settled.submitted (h : Settled lane events references) {quantity : ℤ} {limit cap : ℚ}
    (hcap : lane.effectiveMaxTradePremium = .ok cap) (hle : quantity * limit * 100 ≤ cap) :
    Settled lane (events ++ [.submitted contract quantity limit]) references where
  limits := by
    intro other quote params pricing limit hmem
    apply h.limits other quote params pricing limit
    simpa using hmem
  looks := by
    intro other quote pricing limit hmem
    apply h.looks other quote pricing limit
    simpa using hmem
  caps := by
    intro other quantity' limit' hmem
    rcases List.mem_append.mp hmem with hmem | hmem
    · exact h.caps other quantity' limit' hmem
    · cases List.mem_singleton.mp hmem
      exact ⟨cap, hcap, hle⟩
  usable := h.usable
  recorded := by
    intro other quote params pricing hmem
    apply h.recorded other quote params pricing
    simpa using hmem

end Invariant

section Pricings

variable {lane : EntryLane} {references : PricingReferences} {contract : String}
  {quote : PublicQuote} {params : PricingParams}

/-- The parameters of a contract: its reference decides the midpoint and the ceiling. -/
structure ParamsFor (lane : EntryLane) (references : PricingReferences) (contract : String)
    (params : PricingParams) : Prop where
  execution : params.toExecutionParams = lane.execution
  reference : ∀ reference, references contract = some reference →
    params.entryOriginalMid = some reference.originalMid ∧
      params.entryPriceCeiling = some reference.priceCeiling

theorem originalMidOf_ne_zero {bid ask : ℚ} (hbid : 0 < bid) (hask : bid ≤ ask) :
    originalMidOf params bid ask ≠ 0 := by
  unfold originalMidOf
  cases hmid : params.entryOriginalMid.filter (· ≠ 0) with
  | none =>
    have hpos : 0 < (bid + ask) / 2 := by linarith
    exact hpos.ne'
  | some mid =>
    have hfilter := Option.eq_some_of_filter_eq_some hmid
    rw [Option.filter_eq_some_iff] at hmid
    simpa using hmid.2

theorem ceilingOf_le_target {bid ask target : ℚ} (h : params.entryPriceThroughTarget = some target) :
    ceilingOf params quote bid ask ≤ target := by
  simp [ceilingOf, h]

/-- A frozen reference gives its own midpoint and ceiling back. -/
theorem ParamsFor.referenced (hparams : ParamsFor lane references contract params)
    (husable : Usable lane references) {reference : EntryReference}
    (href : references contract = some reference) {pricing : EntryPricingResult}
    {limit bid ask : ℚ} (hchosen : LimitChosen quote params pricing limit bid ask) :
    Referenced references contract pricing := by
  obtain ⟨hmid, hceiling⟩ := hparams.reference reference href
  obtain ⟨hne, htarget⟩ := husable contract reference href
  refine ⟨reference, href, ?_, ?_⟩
  · have hkept : (some reference.originalMid).filter (· ≠ 0) = some reference.originalMid := by
      rw [Option.filter_some]
      simp [hne]
    rw [hchosen.originalMid, originalMidOf, hmid, hkept, Option.getD_some]
  · rw [hchosen.maxEntryPrice, ceilingOf, hceiling]
    have hthrough : params.entryPriceThroughTarget = lane.execution.entryPriceThroughTarget := by
      rw [← hparams.execution]
    cases htargets : params.entryPriceThroughTarget with
    | none => rfl
    | some target =>
      rw [hthrough] at htargets
      simp [htarget target htargets]

/-- A pricing of a contract is referenced, or it is the first approved one. -/
theorem Settled.price {events : List EntryEvent} (h : Settled lane events references)
    (hparams : ParamsFor lane references contract params) {now : ℚ} {pricing : EntryPricingResult}
    (hselect : selectEntryLimit quote params now = .ok pricing) :
    Pending lane contract pricing (events ++ [.priced contract quote params pricing]) references where
  toLawful := h.toLawful.priced hparams.execution hselect
  usable := h.usable
  recorded := by
    intro other quote' params' pricing' hmem happroved
    rcases List.mem_append.mp hmem with hmem | hmem
    · exact Or.inl (h.recorded other quote' params' pricing' hmem happroved)
    · cases List.mem_singleton.mp hmem
      cases href : references contract with
      | none => exact Or.inr ⟨rfl, rfl, happroved, rfl, rfl⟩
      | some reference =>
        obtain ⟨limit, hlimit⟩ := limitPrice_of_approved happroved
        obtain ⟨bid, ask, hchosen⟩ := limitChosen_of_selectEntryLimit hselect hlimit
        exact Or.inl (hparams.referenced h.usable href hchosen)

/-- `setdefault` of a chosen pricing settles it. -/
theorem Pending.setDefault {events : List EntryEvent} {pricing : EntryPricingResult}
    (h : Pending lane contract pricing events references)
    (hexecution : params.toExecutionParams = lane.execution) {limit bid ask originalMid ceiling : ℚ}
    (hchosen : LimitChosen quote params pricing limit bid ask)
    (hmid : pricing.originalMid = some originalMid) (hmax : pricing.maxEntryPrice = some ceiling)
    (hfirst : ∀ reference, references contract = some reference →
      Referenced references contract pricing) :
    Settled lane events
        (references.setDefault contract ⟨originalMid, ceiling, pricing.wideMarket⟩) ∧
      Referenced (references.setDefault contract ⟨originalMid, ceiling, pricing.wideMarket⟩)
        contract pricing := by
  cases href : references contract with
  | some reference =>
    have hsame : references.setDefault contract ⟨originalMid, ceiling, pricing.wideMarket⟩ =
        references := by
      simp [PricingReferences.setDefault, href]
    rw [hsame]
    exact ⟨h.settled (fun _ hnone => by rw [href] at hnone; cases hnone), hfirst reference href⟩
  | none =>
    have hset : references.setDefault contract ⟨originalMid, ceiling, pricing.wideMarket⟩ =
        Function.update references contract
          (some ⟨originalMid, ceiling, pricing.wideMarket⟩) := by
      simp [PricingReferences.setDefault, href]
    rw [hset]
    have hself : Referenced (Function.update references contract
        (some ⟨originalMid, ceiling, pricing.wideMarket⟩)) contract pricing :=
      ⟨_, Function.update_self _ _ _, hmid, hmax⟩
    refine ⟨⟨h.toLawful, ?_, ?_⟩, hself⟩
    · intro other reference hother
      by_cases heq : other = contract
      · subst heq
        rw [Function.update_self] at hother
        cases hother
        rw [hchosen.originalMid] at hmid
        rw [hchosen.maxEntryPrice] at hmax
        cases hmid
        cases hmax
        refine ⟨originalMidOf_ne_zero hchosen.bid_pos hchosen.bid_le_ask, ?_⟩
        intro target htarget
        apply ceilingOf_le_target
        rw [← htarget, ← hexecution]
      · rw [Function.update_of_ne heq] at hother
        exact h.usable other reference hother
    · intro other quote' params' pricing' hmem happroved
      by_cases heq : other = contract
      · subst heq
        rcases h.recorded other quote' params' pricing' hmem happroved with
          ⟨reference, hother, -⟩ | ⟨-, -, -, hmid', hmax'⟩
        · rw [href] at hother
          cases hother
        · obtain ⟨reference, hkept, hkeptMid, hkeptMax⟩ := hself
          exact ⟨reference, hkept, hmid'.trans hkeptMid, hmax'.trans hkeptMax⟩
      · rcases h.recorded other quote' params' pricing' hmem happroved with
          ⟨reference, hother, hrest⟩ | ⟨hcontract, -⟩
        · exact ⟨reference, by rwa [Function.update_of_ne heq], hrest⟩
        · exact absurd hcontract heq

end Pricings

section Exits

variable (lane : EntryLane)

/-- How a stage may end early: with everything settled, or with a plan that no permission lets try
again. -/
def ExitFine (exit : PlanExit) (world : EntryWorld) : Prop :=
  EventsFine lane world.events ∧
    match exit with
    | .plan plan =>
      plan.orderId = none ∧
        (Settled lane world.events world.references ∨
          ∃ reason, plan.riskReasons = [.permission reason])
    | .selectorEmpty => Settled lane world.events world.references
    | .raised _ => True

variable {lane} {world : EntryWorld}

theorem exitFine_plan (h : Settled lane world.events world.references) {plan : EntryPlan}
    (hplan : plan.orderId = none) : ExitFine lane (.plan plan) world :=
  ⟨h.eventsFine, hplan, Or.inl h⟩

theorem exitFine_permission (h : EventsFine lane world.events) {plan : EntryPlan} {reason : String}
    (hplan : plan.orderId = none) (hreasons : plan.riskReasons = [.permission reason]) :
    ExitFine lane (.plan plan) world :=
  ⟨h, hplan, Or.inr ⟨reason, hreasons⟩⟩

theorem exitFine_selectorEmpty (h : Settled lane world.events world.references) :
    ExitFine lane .selectorEmpty world := ⟨h.eventsFine, h⟩

theorem exitFine_raised (h : EventsFine lane world.events) (e : PyException) :
    ExitFine lane (.raised e) world := ⟨h, trivial⟩

end Exits

section Stages

variable (lane : EntryLane) (answers : EntryAnswers)

@[spec] theorem screenCandidate_spec (contract : String) (quote : PublicQuote) :
    ⦃fun world => ⌜Settled lane world.events world.references⌝⦄
    screenCandidate lane answers contract quote
    ⦃post⟨fun _ world => ⌜Settled lane world.events world.references⌝,
      fun exit world => ⌜ExitFine lane exit world⌝⟩⦄ := by
  mvcgen [screenCandidate, ask, record]
  exact Settled.screened ‹_› ‹_›

@[spec] theorem narrowerMarket_spec (ranks : List ℕ) :
    ⦃fun world => ⌜Settled lane world.events world.references⌝⦄
    narrowerMarket lane answers ranks
    ⦃post⟨fun _ world => ⌜Settled lane world.events world.references⌝,
      fun exit world => ⌜ExitFine lane exit world⌝⟩⦄ := by
  induction ranks with
  | nil => mvcgen [narrowerMarket]
  | cons rank ranks ih =>
    mvcgen [narrowerMarket, ask, ih]

@[spec] theorem chooseContract_spec :
    ⦃fun world => ⌜Settled lane world.events world.references⌝⦄
    chooseContract lane answers
    ⦃post⟨fun _ world => ⌜Settled lane world.events world.references⌝,
      fun exit world => ⌜ExitFine lane exit world⌝⟩⦄ := by
  mvcgen [chooseContract, ask, record, liftPy]
  all_goals first
    | exact Settled.screened ‹_› ‹_›
    | exact exitFine_plan ‹_› rfl
    | exact exitFine_raised (Settled.eventsFine ‹_›) _
    | exact exitFine_selectorEmpty ‹_›

/-- A contract's pricing before it is remembered. -/
structure PricedFor (contract : String) (params : PricingParams) (quote : PublicQuote)
    (pricing : EntryPricingResult) (events : List EntryEvent) (references : PricingReferences) :
    Prop where
  pending : Pending lane contract pricing events references
  paramsFor : ParamsFor lane references contract params
  selected : pricing.approved = true → ∃ now, selectEntryLimit quote params now = .ok pricing

/-- A contract's pricing when it is remembered. -/
structure ChosenFor (contract : String) (params : PricingParams) (quote : PublicQuote)
    (pricing : EntryPricingResult) (events : List EntryEvent) (references : PricingReferences) :
    Prop where
  settled : Settled lane events references
  execution : params.toExecutionParams = lane.execution
  referenced : pricing.approved = true → Referenced references contract pricing
  selected : pricing.approved = true → ∃ now, selectEntryLimit quote params now = .ok pricing

@[spec] theorem price_spec (contract : String) (quote : PublicQuote) (params : PricingParams) :
    ⦃fun world => ⌜Settled lane world.events world.references ∧
      ParamsFor lane world.references contract params⌝⦄
    price answers contract quote params
    ⦃post⟨fun pricing world =>
        ⌜PricedFor lane contract params quote pricing world.events world.references⌝,
      fun exit world => ⌜ExitFine lane exit world⌝⟩⦄ := by
  mvcgen [price, ask, record, liftPy]
  · rename_i world hpre _ hselect _
    exact ⟨hpre.1.price hpre.2 hselect, hpre.2, fun _ => ⟨answers.now world.requests, hselect⟩⟩
  · rename_i hpre e _
    exact exitFine_raised hpre.1.eventsFine e

@[spec] theorem refetchQuote_spec (selection : Selection) (params : PricingParams)
    (quote : PublicQuote) (pricing : EntryPricingResult) (hblocked : pricing.approved = false) :
    ⦃fun world =>
      ⌜PricedFor lane selection.optionSymbol params quote pricing world.events world.references⌝⦄
    refetchQuote answers selection params quote pricing
    ⦃post⟨fun result world => ⌜PricedFor lane selection.optionSymbol params result.1 result.2
        world.events world.references⌝,
      fun exit world => ⌜ExitFine lane exit world⌝⟩⦄ := by
  have hnever : ∀ {P : Prop}, pricing.approved = true → P := fun h => by
    rw [hblocked] at h
    cases h
  mvcgen [refetchQuote, ask, record]
  · rename_i hpre _ _ _ _
    exact ⟨hpre.pending, hpre.paramsFor, hnever⟩
  · rename_i world hpre _ _ _ hselect _
    have hsettled := hpre.pending.settled hnever
    exact ⟨hsettled.price hpre.paramsFor hselect, hpre.paramsFor,
      fun _ => ⟨answers.now (world.requests + 1), hselect⟩⟩

theorem not_approved_of_blocked {pricing : EntryPricingResult} (h : pricing.blockReasons ≠ []) :
    pricing.approved = false := by
  simp [EntryPricingResult.approved, h]

@[spec] theorem priceOrRefetch_spec (selection : Selection) (params : PricingParams)
    (quote : PublicQuote) :
    ⦃fun world => ⌜Settled lane world.events world.references ∧
      ParamsFor lane world.references selection.optionSymbol params⌝⦄
    priceOrRefetch answers selection params quote
    ⦃post⟨fun result world => ⌜PricedFor lane selection.optionSymbol params result.1 result.2
        world.events world.references⌝,
      fun exit world => ⌜ExitFine lane exit world⌝⟩⦄ := by
  mvcgen [priceOrRefetch, ask, guardPermission]
  case hblocked => exact not_approved_of_blocked ‹_ ∧ _›.1
  all_goals exact exitFine_permission (PricedFor.pending ‹_›).eventsFine rfl rfl

@[spec] theorem rememberPricing_spec (contract : String) (params : PricingParams)
    (quote : PublicQuote) (pricing : EntryPricingResult) :
    ⦃fun world => ⌜PricedFor lane contract params quote pricing world.events world.references⌝⦄
    rememberPricing contract pricing
    ⦃post⟨fun _ world =>
        ⌜ChosenFor lane contract params quote pricing world.events world.references⌝,
      fun exit world => ⌜ExitFine lane exit world⌝⟩⦄ := by
  mvcgen [rememberPricing]
  · rename_i originalMid ceiling hmax hmid happroved world hpre _
    obtain ⟨limit, hlimit⟩ := limitPrice_of_approved happroved
    obtain ⟨now, hselect⟩ := hpre.selected happroved
    obtain ⟨bid, ask, hchosen⟩ := limitChosen_of_selectEntryLimit hselect hlimit
    obtain ⟨hsettled, hreferenced⟩ := hpre.pending.setDefault hpre.paramsFor.execution hchosen hmid
      hmax fun reference href => hpre.paramsFor.referenced hpre.pending.usable href hchosen
    exact ⟨hsettled, hpre.paramsFor.execution, fun _ => hreferenced, hpre.selected⟩
  · rename_i hneither hmax hmid happroved world hpre
    -- an approved pricing has a midpoint and a ceiling, so this one is not approved
    have hblocked : pricing.approved = false := by
      by_contra hne
      have htrue : pricing.approved = true := by simpa using hne
      obtain ⟨limit, hlimit⟩ := limitPrice_of_approved htrue
      obtain ⟨now, hselect⟩ := hpre.selected htrue
      obtain ⟨bid, ask, hchosen⟩ := limitChosen_of_selectEntryLimit hselect hlimit
      exact hneither _ _ (happroved.symm.trans htrue) (hmid.symm.trans hchosen.originalMid)
        (hmax.symm.trans hchosen.maxEntryPrice)
    have hnever : ∀ {P : Prop}, pricing.approved = true → P := fun h => by
      rw [hblocked] at h
      cases h
    exact ⟨hpre.pending.settled hnever, hpre.paramsFor.execution, hnever, hnever⟩

/-- The parameters that an attempt prices a contract with. -/
theorem paramsFor_elim (references : PricingReferences) (contract : String) :
    ParamsFor lane references contract
      ((references contract).elim { lane.execution with } (frozenBy lane.execution)) := by
  cases href : references contract with
  | none => exact ⟨rfl, fun reference hsome => by rw [href] at hsome; cases hsome⟩
  | some reference =>
    refine ⟨rfl, fun other hsome => ?_⟩
    rw [href] at hsome
    cases hsome
    exact ⟨rfl, rfl⟩

@[spec] theorem priceContract_spec (selection : Selection) (quote : PublicQuote) :
    ⦃fun world => ⌜Settled lane world.events world.references⌝⦄
    priceContract lane answers selection quote
    ⦃post⟨fun result world => ⌜ChosenFor lane selection.optionSymbol result.2.1 result.1 result.2.2
        world.events world.references⌝,
      fun exit world => ⌜ExitFine lane exit world⌝⟩⦄ := by
  mvcgen [priceContract]
  exact ⟨‹_›, paramsFor_elim lane _ _⟩

end Stages

end Bhiksha.Entry
