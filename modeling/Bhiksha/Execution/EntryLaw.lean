import Bhiksha.Execution.EntryCeiling
import Bhiksha.Library.Stateful

/-! No order of an entry costs more than the cap that it was sized for: the sizing, the submissions
and the reprices, and with them the whole life of an entry. -/

namespace Bhiksha.Entry

open Std.Do

set_option mvcgen.warning false

section Sizing

variable (lane : EntryLane) (answers : EntryAnswers)
  (I : List EntryEvent → PricingReferences → Prop)

theorem largestWithin_le (within : ℤ → Bool) (low high : ℤ) (h : low ≤ high) :
    largestWithin within low high ≤ high := by
  induction low, high using largestWithin.induct within with
  | case1 low high hlt candidate hwithin ih =>
    rw [largestWithin, if_pos hlt]
    simp only [candidate] at hwithin ih
    rw [if_pos hwithin]
    exact ih (by omega)
  | case2 low high hlt candidate hwithin ih =>
    rw [largestWithin, if_pos hlt]
    simp only [candidate] at hwithin ih
    rw [if_neg hwithin]
    have hle := ih (by omega)
    omega
  | case3 low high hge =>
    rw [largestWithin, if_neg hge]
    exact h

/-- An admitted quantity that is at least one is within the bound searched. -/
theorem largestWithin_le_of_pos {within : ℤ → Bool} {high : ℤ}
    (hpos : ¬largestWithin within 0 high < 1) : largestWithin within 0 high ≤ high := by
  by_cases h : 0 ≤ high
  · exact largestWithin_le within 0 high h
  · rw [largestWithin, if_neg (by omega)] at hpos
    omega

theorem fitCash_spec (quantity : ℤ) (price extraCash : ℚ) :
    ⦃fun world => ⌜I world.events world.references⌝⦄
    fitLiveQuantity.fitCash answers quantity price extraCash
    ⦃post⟨fun result world => ⌜I world.events world.references ∧
        result.elim (· ≤ quantity) fun _ => True⌝, fun _ _ => ⌜False⌝⟩⦄ := by
  mvcgen [fitLiveQuantity.fitCash, ask]
  all_goals first
    | exact ⟨‹_›, le_refl quantity⟩
    | exact ⟨‹_›, trivial⟩
    | exact ⟨‹_›, min_le_left _ _⟩

theorem fitRisk_spec (quantity : ℤ) (price : ℚ) :
    ⦃fun world => ⌜I world.events world.references⌝⦄
    fitLiveQuantity.fitRisk lane answers quantity price
    ⦃post⟨fun result world => ⌜I world.events world.references ∧
        result.elim (· ≤ quantity) fun _ => True⌝, fun _ _ => ⌜False⌝⟩⦄ := by
  mvcgen [fitLiveQuantity.fitRisk, ask]
  all_goals first
    | exact ⟨‹_›, le_refl quantity⟩
    | exact ⟨‹_›, trivial⟩
    | exact ⟨‹_›, largestWithin_le_of_pos ‹_›⟩

/-- A fitted quantity is at most the one asked for and at most the cap's. -/
theorem fitLiveQuantity_spec (price : ℚ) (upperQuantity : ℤ) (premiumCap extraCash : ℚ) :
    ⦃fun world => ⌜I world.events world.references⌝⦄
    fitLiveQuantity lane answers price upperQuantity premiumCap extraCash
    ⦃post⟨fun result world => ⌜I world.events world.references ∧
        (result.2 = none → 0 < result.1 ∧ result.1 ≤ upperQuantity)⌝, fun _ _ => ⌜False⌝⟩⦄ := by
  have hcash := fitCash_spec answers I
  have hrisk := fitRisk_spec lane answers I
  mvcgen [fitLiveQuantity, hcash, hrisk]
  · exact ⟨‹_ ∧ _›.1, nofun⟩
  · exact ‹_ ∧ _›.1
  · exact ⟨‹_ ∧ _›.1, nofun⟩
  · rename_i hcashed _ fitted _ world hrisked
    refine ⟨hrisked.1, fun hfits => ?_⟩
    have hpos : 0 < fitted := by
      by_contra hneg
      rw [if_neg hneg] at hfits
      cases hfits
    have hle : fitted ≤ min upperQuantity ⌊premiumCap / (price * 100)⌋ := hrisked.2.trans hcashed.2
    exact ⟨hpos, hle.trans (min_le_left _ _)⟩

/-- A price of whole cents within a limit. -/
structure PriceWithin (limitPrice price : ℚ) : Prop where
  nonneg : 0 ≤ price
  mem : price ∈ Python.decimalGrid 2
  le : price ≤ limitPrice

theorem PriceWithin.self {limitPrice price : ℚ} (h : PriceWithin limitPrice price) :
    PriceWithin price price := ⟨h.nonneg, h.mem, le_rfl⟩

theorem PriceWithin.trans {limitPrice middle price : ℚ} (h : PriceWithin middle price)
    (hmiddle : PriceWithin limitPrice middle) : PriceWithin limitPrice price :=
  ⟨h.nonneg, h.mem, h.le.trans hmiddle.le⟩

theorem priceWithin_snap {limitPrice value increment price : ℚ}
    (hlimit : limitPrice ∈ Python.decimalGrid 2) (hvalue : value ≤ limitPrice)
    (h : snapPrice value increment = .ok price) : PriceWithin limitPrice price := by
  obtain ⟨hnonneg, hmem, hle⟩ := (ensures_snapPrice value increment).of_ok price h
  exact ⟨hnonneg, hmem, hle limitPrice hlimit hvalue⟩

/-- A payload is corrected to the increment that is known, if one is. -/
theorem priceWithin_elim {limitPrice value payload price : ℚ} {increment : Option ℚ}
    (hlimit : limitPrice ∈ Python.decimalGrid 2) (hvalue : value ≤ limitPrice)
    (hpayload : PriceWithin limitPrice payload)
    (h : increment.elim (Except.ok payload) (snapPrice value) = .ok price) :
    PriceWithin limitPrice price := by
  cases increment with
  | none => rwa [← Except.ok.inj h]
  | some increment => exact priceWithin_snap hlimit hvalue h

/-- An accepted preflight is of a price within the limit. -/
def CheckWithin (limitPrice : ℚ) : Except Bool PreflightCheck → Prop
  | .error _ => True
  | .ok check => PriceWithin limitPrice check.limitPrice

theorem preflightAttempts_spec (limitPrice : ℚ) (hlimit : limitPrice ∈ Python.decimalGrid 2)
    (attempts : ℕ) (payload : ℚ) (increment : Option ℚ)
    (hpayload : PriceWithin limitPrice payload) :
    ⦃fun world => ⌜I world.events world.references⌝⦄
    preflightAttempts answers attempts limitPrice payload increment
    ⦃post⟨fun result world => ⌜I world.events world.references ∧ CheckWithin limitPrice result⌝,
      fun _ _ => ⌜False⌝⟩⦄ := by
  induction attempts generalizing payload increment with
  | zero =>
    mvcgen [preflightAttempts]
  | succ attempts ih =>
    mvcgen [preflightAttempts, ask, ih]
    -- a later attempt starts from a corrected payload, and a success is the payload that was sent
    all_goals first
      | exact priceWithin_elim hlimit le_rfl hpayload ‹_›
      | exact priceWithin_snap hlimit le_rfl ‹_›
      | exact ⟨‹_›, trivial⟩
      | exact ⟨‹_›, priceWithin_elim hlimit le_rfl hpayload ‹_›⟩

theorem preflightEntry_spec (limitPrice : ℚ) (hlimit : PriceWithin limitPrice limitPrice) :
    ⦃fun world => ⌜I world.events world.references⌝⦄
    preflightEntry answers limitPrice
    ⦃post⟨fun result world => ⌜I world.events world.references ∧ CheckWithin limitPrice result⌝,
      fun _ _ => ⌜False⌝⟩⦄ := by
  have hattempts := preflightAttempts_spec answers I limitPrice hlimit.mem
  mvcgen [preflightEntry, ask, hattempts]
  rwa [roundPrice_of_mem hlimit.mem]

end Sizing

section Submission

variable (lane : EntryLane) (answers : EntryAnswers) (contract : String)
  (reference : EntryReference)

/-- Everything is settled, and the contract has its reference. -/
structure Anchored (events : List EntryEvent) (references : PricingReferences) : Prop where
  settled : Settled lane events references
  reference : references contract = some reference

variable {lane contract reference} in
theorem Anchored.submitted {events : List EntryEvent} {references : PricingReferences}
    (h : Anchored lane contract reference events references) {quantity : ℤ} {limit cap : ℚ}
    (hcap : lane.effectiveMaxTradePremium = .ok cap) (hle : quantity * limit * 100 ≤ cap) :
    Anchored lane contract reference (events ++ [.submitted contract quantity limit]) references :=
  ⟨h.settled.submitted hcap hle, h.reference⟩

/-- An order at a price within the limit costs no more than one at the limit. -/
theorem premium_le {quantity : ℤ} {limitPrice price cap : ℚ} (hquantity : 0 ≤ quantity)
    (hprice : price ≤ limitPrice) (hcap : quantity * limitPrice * 100 ≤ cap) :
    quantity * price * 100 ≤ cap := by
  have hcast : (0 : ℚ) ≤ quantity := by exact_mod_cast hquantity
  have hmono : (quantity : ℚ) * price ≤ quantity * limitPrice := mul_le_mul_of_nonneg_left hprice hcast
  linarith

/-- A guard that looks at quotes and permissions only. -/
def KeepsAnchored (guard : EntryM (Option PlanReason)) : Prop :=
  ⦃fun world => ⌜Anchored lane contract reference world.events world.references⌝⦄ guard
  ⦃post⟨fun _ world => ⌜Anchored lane contract reference world.events world.references⌝,
    fun _ world => ⌜Anchored lane contract reference world.events world.references⌝⟩⦄

theorem placeEntryOrder_spec (orderId : String) (limitPrice : ℚ) (quantity : ℤ)
    (guard : EntryM (Option PlanReason)) (hguard : KeepsAnchored lane contract reference guard)
    (hlimit : PriceWithin limitPrice limitPrice) (hquantity : 0 ≤ quantity) {cap : ℚ}
    (hcap : lane.effectiveMaxTradePremium = .ok cap) (hle : quantity * limitPrice * 100 ≤ cap) :
    ⦃fun world => ⌜Anchored lane contract reference world.events world.references⌝⦄
    placeEntryOrder answers contract orderId limitPrice quantity guard
    ⦃post⟨fun _ world => ⌜Anchored lane contract reference world.events world.references⌝,
      fun _ world => ⌜Anchored lane contract reference world.events world.references⌝⟩⦄ := by
  have hpreflight := fun price => preflightEntry_spec answers
    (Anchored lane contract reference) price
  have hround : PriceWithin limitPrice (roundPrice limitPrice) := by
    rwa [roundPrice_of_mem hlimit.mem]
  have hsubmit : ∀ {events references price}, Anchored lane contract reference events references →
      PriceWithin limitPrice price →
      Anchored lane contract reference (events ++ [.submitted contract quantity price]) references :=
    fun h hprice => h.submitted hcap (premium_le hquantity hprice.le hle)
  have hfirst : ∀ {increment : Option ℚ} {price : ℚ},
      increment.elim (Except.ok (roundPrice limitPrice)) (snapPrice (roundPrice limitPrice)) =
        .ok price → PriceWithin limitPrice price :=
    fun h => priceWithin_elim hlimit.mem hround.le hround h
  unfold KeepsAnchored at hguard
  mvcgen [placeEntryOrder, ask, record, liftPy, hguard, hpreflight]
  case vc6.hlimit => exact (priceWithin_snap (hfirst ‹_›).mem le_rfl ‹_›).self
  all_goals first
    | exact hsubmit ‹_› (hfirst ‹_›)
    | exact And.left ‹_ ∧ _›
    | have hcorrected := (priceWithin_snap (hfirst ‹_›).mem le_rfl ‹_›).trans (hfirst ‹_›)
      exact hsubmit ‹_› (PriceWithin.trans (And.right ‹_ ∧ CheckWithin _ (Except.ok _)›) hcorrected)

theorem submitEntryOrder_spec (orderId : String) (limitPrice : ℚ) (quantity : ℤ)
    (guard : EntryM (Option PlanReason)) (hguard : KeepsAnchored lane contract reference guard)
    (hlimit : PriceWithin limitPrice limitPrice) (hquantity : 0 ≤ quantity) {cap : ℚ}
    (hcap : lane.effectiveMaxTradePremium = .ok cap) (hle : quantity * limitPrice * 100 ≤ cap) :
    ⦃fun world => ⌜Anchored lane contract reference world.events world.references⌝⦄
    submitEntryOrder answers contract orderId limitPrice quantity guard
    ⦃post⟨fun _ world => ⌜Anchored lane contract reference world.events world.references⌝,
      fun _ _ => ⌜False⌝⟩⦄ := by
  have hplace := placeEntryOrder_spec lane answers contract reference orderId limitPrice quantity
    guard hguard hlimit hquantity hcap hle
  mvcgen [submitEntryOrder, hplace]

end Submission

section Planning

variable (lane : EntryLane) (answers : EntryAnswers)

/-- A chosen limit and the reference of its contract. -/
structure Chosen (quote : PublicQuote) (params : PricingParams) (pricing : EntryPricingResult)
    (entryPrice : ℚ) (reference : EntryReference) : Prop where
  execution : params.toExecutionParams = lane.execution
  chosen : ∃ bid ask, LimitChosen quote params pricing entryPrice bid ask
  originalMid : pricing.originalMid = some reference.originalMid
  maxEntryPrice : pricing.maxEntryPrice = some reference.priceCeiling

variable {lane} {quote : PublicQuote} {params : PricingParams} {pricing : EntryPricingResult}
  {entryPrice : ℚ} {reference : EntryReference} {contract : String}

theorem Chosen.priceWithin (h : Chosen lane quote params pricing entryPrice reference) :
    PriceWithin entryPrice entryPrice := by
  obtain ⟨bid, ask, hchosen⟩ := h.chosen
  exact ⟨hchosen.limit_pos.le, hchosen.limit_mem, le_rfl⟩

theorem Chosen.limit_pos (h : Chosen lane quote params pricing entryPrice reference) :
    0 < entryPrice := by
  obtain ⟨bid, ask, hchosen⟩ := h.chosen
  exact hchosen.limit_pos

theorem Chosen.le_ceiling (h : Chosen lane quote params pricing entryPrice reference) :
    entryPrice ≤ reference.priceCeiling := by
  obtain ⟨bid, ask, hchosen⟩ := h.chosen
  have hceiling := hchosen.maxEntryPrice.symm.trans h.maxEntryPrice
  exact hchosen.limit_le_ceiling.trans_eq (Option.some.inj hceiling)

/-- Another pricing of the same quote has the same midpoint and ceiling, at whatever time. -/
theorem Chosen.referenced_again (h : Chosen lane quote params pricing entryPrice reference)
    {references : PricingReferences} (href : references contract = some reference) {now : ℚ}
    {fresh : EntryPricingResult} (hselect : selectEntryLimit quote params now = .ok fresh)
    (happroved : fresh.approved = true) : Referenced references contract fresh := by
  obtain ⟨bid, ask, hchosen⟩ := h.chosen
  obtain ⟨limit, hlimit⟩ := limitPrice_of_approved happroved
  obtain ⟨bid', ask', hfresh⟩ := limitChosen_of_selectEntryLimit hselect hlimit
  have hsides := hchosen.sides.symm.trans hfresh.sides
  cases hsides
  refine ⟨reference, href, ?_, ?_⟩
  · rw [hfresh.originalMid, ← hchosen.originalMid, h.originalMid]
  · rw [hfresh.maxEntryPrice, ← hchosen.maxEntryPrice, h.maxEntryPrice]

variable (lane) in
/-- The final quote check prices again, but nothing new. -/
theorem guardedPlan_spec (selection : Selection) (beforeSubmission : Bool)
    (h : Chosen lane quote params pricing entryPrice reference) :
    ⦃fun world =>
      ⌜Anchored lane selection.optionSymbol reference world.events world.references⌝⦄
    guardedPlan answers selection quote params pricing beforeSubmission
    ⦃post⟨fun blocked world =>
        ⌜Anchored lane selection.optionSymbol reference world.events world.references ∧
          blocked.elim True fun plan => plan.orderId = none⌝,
      fun exit world =>
        ⌜Anchored lane selection.optionSymbol reference world.events world.references ∧
          ∃ e, exit = .raised e⌝⟩⦄ := by
  have hpriced : ∀ {events references now fresh},
      Anchored lane selection.optionSymbol reference events references →
      selectEntryLimit quote params now = .ok fresh →
      Anchored lane selection.optionSymbol reference
        (events ++ [.priced selection.optionSymbol quote params fresh]) references :=
    fun hanchored hselect =>
      ⟨hanchored.settled.priced h.execution hselect (h.referenced_again hanchored.reference hselect),
        hanchored.reference⟩
  mvcgen [guardedPlan, validateQuote, ask, record, liftPy]
  all_goals first
    | exact ⟨‹_›, rfl⟩
    | exact ⟨hpriced ‹_› ‹_›, rfl⟩
    | exact ⟨hpriced ‹_› ‹_›, trivial⟩
    | exact ⟨‹_›, _, rfl⟩

theorem submissionGuard_keepsAnchored (selection : Selection)
    (h : Chosen lane quote params pricing entryPrice reference) :
    KeepsAnchored lane selection.optionSymbol reference
      (submissionGuard answers selection quote params pricing) := by
  have hguarded := guardedPlan_spec lane answers selection true h
  unfold KeepsAnchored
  mvcgen [submissionGuard, hguarded]
  · exact And.left ‹_ ∧ _›
  · intro hanchored _
    exact hanchored

/-- Sizing ends with a quantity that is at most the one it began with. -/
theorem sizeAndPreflight_spec (selection : Selection) (sizingPrice cap : ℚ)
    (h : Chosen lane quote params pricing entryPrice reference) (attempts : ℕ) (quantity : ℤ) :
    ⦃fun world =>
      ⌜Anchored lane selection.optionSymbol reference world.events world.references⌝⦄
    sizeAndPreflight lane answers selection pricing entryPrice sizingPrice cap attempts quantity
    ⦃post⟨fun result world =>
        ⌜Anchored lane selection.optionSymbol reference world.events world.references ∧
          0 < result.1 ∧ result.1 ≤ quantity ∧ PriceWithin entryPrice result.2.limitPrice⌝,
      fun exit world => ⌜ExitFine lane exit world⌝⟩⦄ := by
  have hpreflight := preflightEntry_spec answers (Anchored lane selection.optionSymbol reference)
    entryPrice h.priceWithin
  have hfit := fitLiveQuantity_spec lane answers (Anchored lane selection.optionSymbol reference)
  induction attempts generalizing quantity with
  | zero =>
    mvcgen [sizeAndPreflight]
    exact exitFine_plan (Anchored.settled ‹_›) rfl
  | succ attempts ih =>
    mvcgen [sizeAndPreflight, hpreflight, hfit, ih]
    · exact exitFine_plan (Anchored.settled (And.left ‹_ ∧ _›)) rfl
    · exact And.left ‹_ ∧ _›
    · exact exitFine_plan (Anchored.settled (And.left ‹_ ∧ _›)) rfl
    · rename_i hchecked fitted hnone hsame world hfitted
      obtain ⟨hpos, hle⟩ := hfitted.2 hnone
      rw [hsame] at hpos
      exact ⟨hfitted.1, hpos, le_rfl, hchecked.2⟩
    · exact And.left ‹_ ∧ _›
    · rename_i fitted hnone _ _ hfitted _ _
      intro hanchored hpos hle hwithin
      exact ⟨hanchored, hpos, hle.trans (hfitted.2 hnone).2, hwithin⟩

variable (lane contract reference) in
theorem reserveEntry_spec (refuse : String → EntryPlan)
    (hrefuse : ∀ reason, (refuse reason).orderId = none) :
    ⦃fun world => ⌜Anchored lane contract reference world.events world.references⌝⦄
    reserveEntry answers refuse
    ⦃post⟨fun _ world => ⌜Anchored lane contract reference world.events world.references⌝,
      fun exit world => ⌜ExitFine lane exit world⌝⟩⦄ := by
  mvcgen [reserveEntry, ask]
  case inv1 =>
    exact post⟨fun _ world => ⌜Anchored lane contract reference world.events world.references⌝,
      fun exit world => ⌜ExitFine lane exit world⌝⟩
  · rename_i hanchored _
    exact hanchored
  · rename_i hanchored reason _
    exact exitFine_plan (Anchored.settled hanchored) (hrefuse reason)
  · assumption
  · rename_i hanchored
    exact hanchored
  · exact ExceptConds.entails.rfl

/-- A quantity that the cap affords at a sizing price of at least the limit. -/
structure Affordable (lane : EntryLane) (entryPrice cap sizingPrice : ℚ) (quantity : ℤ) : Prop where
  cap_eq : lane.effectiveMaxTradePremium = .ok cap
  quantity_pos : 0 < quantity
  entryPrice_le : entryPrice ≤ sizingPrice
  quantity_le : quantity ≤ ⌊cap / (sizingPrice * 100)⌋

theorem Affordable.mono {cap sizingPrice : ℚ} {quantity fewer : ℤ}
    (h : Affordable lane entryPrice cap sizingPrice quantity) (hpos : 0 < fewer)
    (hle : fewer ≤ quantity) : Affordable lane entryPrice cap sizingPrice fewer :=
  ⟨h.cap_eq, hpos, h.entryPrice_le, hle.trans h.quantity_le⟩

/-- What the sizing price affords is within the cap at any price within the limit. -/
theorem Affordable.premium_le {cap sizingPrice price : ℚ} {quantity : ℤ}
    (h : Affordable lane entryPrice cap sizingPrice quantity) (hentry : 0 < entryPrice)
    (hprice : price ≤ entryPrice) : quantity * price * 100 ≤ cap := by
  apply Entry.premium_le h.quantity_pos.le (hprice.trans h.entryPrice_le)
  have hsizing : 0 < sizingPrice := hentry.trans_le h.entryPrice_le
  have hcast : (quantity : ℚ) ≤ cap / (sizingPrice * 100) := Int.le_floor.mp h.quantity_le
  rw [le_div_iff₀ (by positivity)] at hcast
  linarith

theorem Affordable.cap_pos {cap sizingPrice : ℚ} {quantity : ℤ}
    (h : Affordable lane entryPrice cap sizingPrice quantity) (hentry : 0 < entryPrice) :
    0 < cap := by
  have hcast : (0 : ℚ) < quantity := by exact_mod_cast h.quantity_pos
  have hpremium : 0 < quantity * entryPrice * 100 := by positivity
  exact hpremium.trans_le (h.premium_le hentry le_rfl)

/-- What a plan with an order carries over to the reprices. -/
structure Carried (lane : EntryLane) (reference : EntryReference) (plan : EntryPlan) : Prop where
  originalMid :
    plan.entryPricing.bind EntryPricingEvidence.originalMid = some reference.originalMid
  priceCeiling :
    plan.entryPricing.bind EntryPricingEvidence.maxEntryPrice = some reference.priceCeiling
  cap : ∃ cap, lane.effectiveMaxTradePremium = .ok cap ∧ plan.effectiveMaxTradePremium = some cap ∧
    0 < cap

def Working (lane : EntryLane) (references : PricingReferences) (plan : EntryPlan) : Prop :=
  ∃ reference, references plan.optionSymbol = some reference ∧ Carried lane reference plan

/-- The ceiling sizes an order, for it is at least the limit and so not zero. -/
theorem Chosen.sizingPrice_eq (h : Chosen lane quote params pricing entryPrice reference) :
    (pricing.maxEntryPrice.filter (· ≠ 0)).getD entryPrice = reference.priceCeiling := by
  have hpos : 0 < reference.priceCeiling := h.limit_pos.trans_le h.le_ceiling
  rw [h.maxEntryPrice, Option.filter_some]
  simp [hpos.ne']

theorem elim_min_le (limit : Option ℤ) (quantity : ℤ) : limit.elim quantity (min quantity) ≤ quantity := by
  cases limit with
  | none => exact le_rfl
  | some limit => exact min_le_left quantity limit

theorem affordableQuantity_spec (selection : Selection)
    (h : Chosen lane quote params pricing entryPrice reference) :
    ⦃fun world =>
      ⌜Anchored lane selection.optionSymbol reference world.events world.references⌝⦄
    affordableQuantity lane answers selection pricing entryPrice
    ⦃post⟨fun result world =>
        ⌜Anchored lane selection.optionSymbol reference world.events world.references ∧
          Affordable lane entryPrice result.1 result.2.1 result.2.2⌝,
      fun exit world => ⌜ExitFine lane exit world⌝⟩⦄ := by
  mvcgen [affordableQuantity, ask, liftPy]
  case vc4 =>
    have hsizing := h.le_ceiling.trans_eq h.sizingPrice_eq.symm
    exact ⟨‹_›, ⟨‹_›, not_le.mp ‹_›, hsizing, elim_min_le _ _⟩⟩
  all_goals first
    | exact exitFine_plan (Anchored.settled ‹_›) rfl
    | exact exitFine_raised (Settled.eventsFine (Anchored.settled ‹_›)) _

theorem Anchored.exitFine_raised {world : EntryWorld} {exit : PlanExit}
    (h : Anchored lane contract reference world.events world.references)
    (hraised : ∃ e, exit = .raised e) : ExitFine lane exit world := by
  obtain ⟨e, rfl⟩ := hraised
  exact Entry.exitFine_raised h.settled.eventsFine e

theorem fittedEntry_spec (selection : Selection) (sizingPrice cap : ℚ) (quantity : ℤ)
    (h : Chosen lane quote params pricing entryPrice reference)
    (hafford : Affordable lane entryPrice cap sizingPrice quantity) :
    ⦃fun world =>
      ⌜Anchored lane selection.optionSymbol reference world.events world.references⌝⦄
    fittedEntry lane answers selection quote params pricing entryPrice sizingPrice cap quantity
    ⦃post⟨fun result world =>
        ⌜Anchored lane selection.optionSymbol reference world.events world.references ∧
          Affordable lane entryPrice cap sizingPrice result.1 ∧ PriceWithin entryPrice result.2⌝,
      fun exit world => ⌜ExitFine lane exit world⌝⟩⦄ := by
  have hguarded := guardedPlan_spec lane answers selection false h
  have hfit := fitLiveQuantity_spec lane answers (Anchored lane selection.optionSymbol reference)
  have hsize := sizeAndPreflight_spec answers selection sizingPrice cap h 3
  mvcgen [fittedEntry, hguarded, hfit, hsize]
  · exact exitFine_plan (Anchored.settled (And.left ‹_ ∧ _›)) (And.right ‹_ ∧ Option.elim _ _ _›)
  · exact And.left ‹_ ∧ _›
  · exact exitFine_plan (Anchored.settled (And.left ‹_ ∧ _›)) rfl
  · exact And.left ‹_ ∧ _›
  · exact exitFine_plan (Anchored.settled (And.left ‹_ ∧ _›)) rfl
  · rename_i hnone _ hfitted _ _ _ hsized
    obtain ⟨hpos, hle⟩ := hfitted.2 hnone
    exact ⟨hsized.1, hafford.mono hsized.2.1 (hsized.2.2.1.trans hle), hsized.2.2.2⟩
  · exact Anchored.exitFine_raised

theorem sendEntry_spec (selection : Selection) (cap finalLimitPrice : ℚ) (quantity : ℤ)
    (h : Chosen lane quote params pricing entryPrice reference)
    (haffordable : ∃ sizingPrice, Affordable lane entryPrice cap sizingPrice quantity)
    (hlimit : PriceWithin entryPrice finalLimitPrice) :
    ⦃fun world =>
      ⌜Anchored lane selection.optionSymbol reference world.events world.references⌝⦄
    sendEntry answers selection quote params pricing cap finalLimitPrice quantity
    ⦃post⟨fun plan world => ⌜Settled lane world.events world.references ∧
        Working lane world.references plan⌝,
      fun exit world => ⌜ExitFine lane exit world⌝⟩⦄ := by
  obtain ⟨sizingPrice, hafford⟩ := haffordable
  have hreserve := reserveEntry_spec lane answers reference selection.optionSymbol
  have hguarded := guardedPlan_spec lane answers selection true h
  have hsubmit := submitEntryOrder_spec lane answers selection.optionSymbol reference "entry"
    finalLimitPrice quantity _ (submissionGuard_keepsAnchored answers selection h) hlimit.self
    hafford.quantity_pos.le hafford.cap_eq (hafford.premium_le h.limit_pos hlimit.le)
  mvcgen [sendEntry, hreserve, hguarded, hsubmit]
  · exact fun _ => rfl
  · exact exitFine_plan (Anchored.settled (And.left ‹_ ∧ _›)) (And.right ‹_ ∧ Option.elim _ _ _›)
  · exact And.left ‹_ ∧ _›
  · rename_i hanchored _
    refine ⟨hanchored.settled, reference, hanchored.reference, h.originalMid, h.maxEntryPrice, ?_⟩
    exact ⟨cap, hafford.cap_eq, rfl, hafford.cap_pos h.limit_pos⟩
  · exact Anchored.exitFine_raised

theorem planAtLimit_spec (selection : Selection)
    (h : Chosen lane quote params pricing entryPrice reference) :
    ⦃fun world =>
      ⌜Anchored lane selection.optionSymbol reference world.events world.references⌝⦄
    planAtLimit lane answers selection quote params pricing entryPrice
    ⦃post⟨fun plan world => ⌜Settled lane world.events world.references ∧
        Working lane world.references plan⌝,
      fun exit world => ⌜ExitFine lane exit world⌝⟩⦄ := by
  have hafford := affordableQuantity_spec answers selection h
  have hfitted := fun sizingPrice cap quantity =>
    fittedEntry_spec answers selection sizingPrice cap quantity h
  have hsend := fun cap finalLimitPrice quantity =>
    sendEntry_spec answers selection cap finalLimitPrice quantity h
  mvcgen [planAtLimit, hafford, hfitted, hsend]
  · exact And.right ‹_ ∧ Affordable _ _ _ _ _›
  · exact And.left ‹_ ∧ Affordable _ _ _ _ _›
  · exact And.left ‹_ ∧ Affordable _ _ _ _ _ ∧ _›
  · exact fun _ _ hfits _ => ⟨_, hfits⟩
  · exact fun _ _ _ hwithin => hwithin

variable (lane) in
/-- An approved pricing that is remembered leads to a plan at its limit. -/
theorem planAtLimit_of_chosenFor (selection : Selection) (quote : PublicQuote)
    (params : PricingParams) (pricing : EntryPricingResult) (entryPrice : ℚ)
    (hlimit : pricing.limitPrice = some entryPrice) (hblocks : pricing.blockReasons = []) :
    ⦃fun world => ⌜ChosenFor lane selection.optionSymbol params quote pricing world.events
      world.references⌝⦄
    planAtLimit lane answers selection quote params pricing entryPrice
    ⦃post⟨fun plan world => ⌜Settled lane world.events world.references ∧
        Working lane world.references plan⌝,
      fun exit world => ⌜ExitFine lane exit world⌝⟩⦄ := by
  intro world hpre
  have happroved : pricing.approved = true := by
    simp [EntryPricingResult.approved, hlimit, hblocks]
  have hchosenFor : ChosenFor lane selection.optionSymbol params quote pricing world.events
      world.references := hpre
  obtain ⟨reference, href, hmid, hmax⟩ := hchosenFor.referenced happroved
  obtain ⟨now, hselect⟩ := hchosenFor.selected happroved
  have hchosen : Chosen lane quote params pricing entryPrice reference :=
    ⟨hchosenFor.execution, limitChosen_of_selectEntryLimit hselect hlimit, hmid, hmax⟩
  exact planAtLimit_spec answers selection hchosen world ⟨hchosenFor.settled, href⟩

variable (lane) in
theorem planEntryOnce_spec :
    ⦃fun world => ⌜Settled lane world.events world.references⌝⦄
    planEntryOnce lane answers
    ⦃post⟨fun plan world => ⌜Settled lane world.events world.references ∧
        Working lane world.references plan⌝,
      fun exit world => ⌜ExitFine lane exit world⌝⟩⦄ := by
  have hplan := planAtLimit_of_chosenFor lane answers
  mvcgen [planEntryOnce, ask, hplan]
  all_goals first
    | exact exitFine_plan ‹_› rfl
    | exact exitFine_plan (ChosenFor.settled ‹_›) rfl
    | exact fun _ _ => ‹_›

/-- A plan that an attempt ends with: only one that no permission allows leaves anything unsettled. -/
def PlanFine (lane : EntryLane) (plan : EntryPlan) (world : EntryWorld) : Prop :=
  EventsFine lane world.events ∧
    (Settled lane world.events world.references ∧
        (plan.orderId.isSome → Working lane world.references plan) ∨
      plan.orderId = none ∧ ∃ reason, plan.riskReasons = [.permission reason])

theorem ExitFine.planFine {plan : EntryPlan} {world : EntryWorld}
    (h : ExitFine lane (.plan plan) world) : PlanFine lane plan world := by
  obtain ⟨hevents, horder, hsettled | hpermission⟩ := h
  · refine ⟨hevents, Or.inl ⟨hsettled, fun hsome => ?_⟩⟩
    rw [horder] at hsome
    cases hsome
  · exact ⟨hevents, Or.inr ⟨horder, hpermission⟩⟩

theorem Working.planFine {plan : EntryPlan} {world : EntryWorld}
    (h : Settled lane world.events world.references) (hworking : Working lane world.references plan) :
    PlanFine lane plan world :=
  ⟨h.eventsFine, Or.inl ⟨h, fun _ => hworking⟩⟩

/-- Reasons among which no permission is are those of a settled plan. -/
theorem PlanFine.settled {plan : EntryPlan} {world : EntryWorld} (h : PlanFine lane plan world)
    {accepts : PlanReason → Bool} (hpermission : ∀ reason, accepts (.permission reason) = false)
    (hall : (plan.riskReasons.filter (· ≠ .text "approved")).all accepts = true) :
    Settled lane world.events world.references := by
  obtain ⟨-, ⟨hsettled, -⟩ | ⟨-, reason, hreasons⟩⟩ := h
  · exact hsettled
  · simp [hreasons, hpermission] at hall

/-- The plan of the attempts, or none if no contract is left. -/
def ResultFine (lane : EntryLane) : Option EntryPlan → EntryWorld → Prop
  | none, world => Settled lane world.events world.references
  | some plan, world => PlanFine lane plan world

theorem ResultFine.eventsFine {result : Option EntryPlan} {world : EntryWorld}
    (h : ResultFine lane result world) : EventsFine lane world.events := by
  cases result with
  | none => exact Settled.eventsFine h
  | some plan => exact And.left h

variable (lane) in
theorem attemptPlan_spec :
    ⦃fun world => ⌜Settled lane world.events world.references⌝⦄
    attemptPlan lane answers
    ⦃post⟨fun result world => ⌜ResultFine lane result world⌝,
      fun _ world => ⌜EventsFine lane world.events⌝⟩⦄ := by
  have honce := planEntryOnce_spec lane answers
  mvcgen [attemptPlan, honce]
  · rename_i hplan
    exact hplan.2.planFine hplan.1
  · exact ExitFine.planFine ‹_›
  · exact And.right ‹ExitFine lane .selectorEmpty _›
  · exact And.left ‹ExitFine lane _ _›

/-- A plan without an order is fine while everything is settled. -/
theorem ResultFine.of_settled {result : Option EntryPlan} {world : EntryWorld}
    (h : Settled lane world.events world.references)
    (horder : result.elim True fun plan => plan.orderId = none) : ResultFine lane result world := by
  cases result with
  | none => exact h
  | some plan => exact (exitFine_plan h horder).planFine

theorem orderId_eq_none_of_not {plan : EntryPlan} {otherwise : Bool}
    (h : ¬(plan.orderId.isSome || otherwise) = true) : plan.orderId = none := by
  cases horder : plan.orderId with
  | none => rfl
  | some orderId => simp [horder] at h

variable (lane) in
theorem planAttempts_spec (attempts : ℕ) (freshRebuildUsed : Bool) (previous : Option EntryPlan)
    (hprevious : previous.elim True fun plan => plan.orderId = none) :
    ⦃fun world => ⌜Settled lane world.events world.references⌝⦄
    planAttempts lane answers attempts freshRebuildUsed previous
    ⦃post⟨fun result world => ⌜ResultFine lane result world⌝,
      fun _ world => ⌜EventsFine lane world.events⌝⟩⦄ := by
  have hattempt := attemptPlan_spec lane answers
  induction attempts generalizing freshRebuildUsed previous with
  | zero =>
    mvcgen [planAttempts]
    exact .of_settled ‹_› hprevious
  | succ attempts ih =>
    mvcgen [planAttempts, hattempt, ih]
    · exact .of_settled ‹ResultFine lane none _› hprevious
    · rename_i hfresh _ hresult
      have hall := (Bool.and_eq_true_iff.mp (Bool.and_eq_true_iff.mp hfresh).2).1
      exact PlanFine.settled hresult (fun _ => rfl) hall
    · exact fun _ _ => orderId_eq_none_of_not ‹_›
    · exact orderId_eq_none_of_not ‹_›
    · rename_i hresult hnext _
      simp only [Bool.or_eq_true, Bool.not_eq_true', not_or, Bool.not_eq_false] at hnext
      exact PlanFine.settled hresult (fun _ => rfl) hnext.1

variable (lane) in
theorem planEntry_spec :
    ⦃fun world => ⌜Settled lane world.events world.references⌝⦄
    planEntry lane answers
    ⦃post⟨fun result world => ⌜ResultFine lane result world⌝,
      fun _ world => ⌜EventsFine lane world.events⌝⟩⦄ := by
  have hattempts := planAttempts_spec lane answers 6 false none trivial
  mvcgen [planEntry, hattempts]

end Planning

section Reprices

variable (lane : EntryLane) (answers : EntryAnswers) {reference : EntryReference} {plan : EntryPlan}

/-- A reprice's price and quantity, if it goes on. -/
def ReplacementFine : RepriceOutcome ⊕ (ℤ × ℚ) → Prop
  | .inl _ => True
  | .inr (quantity, limitPrice) =>
    0 ≤ quantity ∧ PriceWithin limitPrice limitPrice ∧
      ∃ cap, lane.effectiveMaxTradePremium = .ok cap ∧ quantity * limitPrice * 100 ≤ cap

variable {lane} in
/-- The cap of a reprice is at most the one that the entry was sized for. -/
theorem Carried.repriceCap_le (h : Carried lane reference plan) :
    ∃ cap, lane.effectiveMaxTradePremium = .ok cap ∧ repriceCap lane plan ≤ cap := by
  obtain ⟨cap, hcap, hplan, hpos⟩ := h.cap
  refine ⟨cap, hcap, ?_⟩
  have hkept : plan.effectiveMaxTradePremium.filter (· ≠ 0) = some cap := by
    rw [hplan, Option.filter_some]
    simp [hpos.ne']
  rw [repriceCap, hkept]
  exact min_le_right _ _

variable {lane} in
theorem Carried.replacementFine (h : Carried lane reference plan) {limitPrice price : ℚ}
    {quantity : ℤ} (hpremium : ¬repriceCap lane plan < limitPrice * plan.quantity * 100)
    (hprice : PriceWithin limitPrice price) (hpos : 0 < quantity) (hle : quantity ≤ plan.quantity) :
    ReplacementFine lane (.inr (quantity, price)) := by
  obtain ⟨cap, hcap, hreprice⟩ := h.repriceCap_le
  refine ⟨hpos.le, hprice.self, cap, hcap, premium_le hpos.le hprice.le ?_⟩
  have hcast : (quantity : ℚ) ≤ plan.quantity := by exact_mod_cast hle
  have hlimit : 0 ≤ limitPrice := hprice.nonneg.trans hprice.le
  calc quantity * limitPrice * 100 ≤ plan.quantity * limitPrice * 100 := by gcongr
    _ = limitPrice * plan.quantity * 100 := by ring
    _ ≤ repriceCap lane plan := not_lt.mp hpremium
    _ ≤ cap := hreprice

theorem sizeReplacement_spec (I : List EntryEvent → PricingReferences → Prop)
    (preflight : PreflightCheck) (limit : ℚ) (h : Carried lane reference plan)
    (hlimit : PriceWithin limit preflight.limitPrice) :
    ⦃fun world => ⌜I world.events world.references⌝⦄
    sizeReplacement lane answers plan preflight
    ⦃post⟨fun result world => ⌜I world.events world.references ∧ ReplacementFine lane result⌝,
      fun _ _ => ⌜False⌝⟩⦄ := by
  have hfit := fitLiveQuantity_spec lane answers I
  have hagain := preflightEntry_spec answers I preflight.limitPrice hlimit.self
  mvcgen [sizeReplacement, hfit, hagain]
  · exact ⟨And.left ‹_ ∧ _›, trivial⟩
  · exact And.left ‹_ ∧ _›
  · exact ⟨And.left ‹_ ∧ _›, trivial⟩
  · rename_i hpremium _ _ _ _ hnone _ _ hfitted _ _ _ _ _ hchecked
    obtain ⟨hpos, hle⟩ := hfitted.2 (Option.not_isSome_iff_eq_none.mp hnone)
    exact ⟨hchecked.1, h.replacementFine hpremium hchecked.2 hpos hle⟩
  · rename_i hpremium _ _ _ _ hnone _ _ hfitted
    obtain ⟨hpos, hle⟩ := hfitted.2 (Option.not_isSome_iff_eq_none.mp hnone)
    exact ⟨hfitted.1, h.replacementFine hpremium hlimit.self (hpos.trans_le hle) le_rfl⟩

theorem repriceGuard_spec (I : List EntryEvent → PricingReferences → Prop) (quote : PublicQuote) :
    ⦃fun world => ⌜I world.events world.references⌝⦄
    repriceGuard answers quote
    ⦃post⟨fun _ world => ⌜I world.events world.references⌝, fun _ _ => ⌜False⌝⟩⦄ := by
  mvcgen [repriceGuard, ask]

theorem repriceGuard_keepsAnchored (contract : String) (reference : EntryReference)
    (quote : PublicQuote) :
    KeepsAnchored lane contract reference (repriceGuard answers quote) := by
  unfold KeepsAnchored
  mvcgen [repriceGuard, ask]

theorem reserve_spec (I : List EntryEvent → PricingReferences → Prop) (count : ℕ) :
    ⦃fun world => ⌜I world.events world.references⌝⦄
    replaceEntry.reserve answers count
    ⦃post⟨fun _ world => ⌜I world.events world.references⌝, fun _ _ => ⌜False⌝⟩⦄ := by
  induction count with
  | zero => mvcgen [replaceEntry.reserve]
  | succ count ih => mvcgen [replaceEntry.reserve, ask, ih]

/-- The plan of a reprice is of the same contract and carries the same over. -/
def Repriced (reference : EntryReference) (plan after : EntryPlan) : Prop :=
  after.optionSymbol = plan.optionSymbol ∧ Carried lane reference after

theorem replaceEntry_spec (attempt : ℕ) (quote : PublicQuote) (quantity : ℤ) (limitPrice : ℚ)
    (h : Carried lane reference plan) (hfine : ReplacementFine lane (.inr (quantity, limitPrice))) :
    ⦃fun world => ⌜Anchored lane plan.optionSymbol reference world.events world.references⌝⦄
    replaceEntry answers plan attempt quote quantity limitPrice
    ⦃post⟨fun result world =>
        ⌜Anchored lane plan.optionSymbol reference world.events world.references ∧
          Repriced lane reference plan result.1⌝, fun _ _ => ⌜False⌝⟩⦄ := by
  obtain ⟨hquantity, hlimit, cap, hcap, hle⟩ := hfine
  have hreserve := reserve_spec answers (Anchored lane plan.optionSymbol reference)
  have hguard := repriceGuard_keepsAnchored lane answers plan.optionSymbol reference quote
  have hsubmit := submitEntryOrder_spec lane answers plan.optionSymbol reference "replacement"
    limitPrice quantity _ hguard hlimit hquantity hcap hle
  have hguarded := repriceGuard_spec answers (Anchored lane plan.optionSymbol reference) quote
  have hrepriced : ∀ after : EntryPlan, after.optionSymbol = plan.optionSymbol →
      after.entryPricing = plan.entryPricing →
      after.effectiveMaxTradePremium = plan.effectiveMaxTradePremium →
      Repriced lane reference plan after := by
    intro after hsymbol hpricing hpremium
    refine ⟨hsymbol, ?_, ?_, ?_⟩
    · rw [hpricing]
      exact h.originalMid
    · rw [hpricing]
      exact h.priceCeiling
    · rw [hpremium]
      exact h.cap
  mvcgen [replaceEntry, ask, hreserve, hguarded, hsubmit]
  all_goals exact ⟨‹_›, hrepriced _ rfl rfl rfl⟩

variable {lane} in
/-- A reprice prices within the reference that the plan carries. -/
theorem Anchored.repriced {events : List EntryEvent} {references : PricingReferences}
    (h : Anchored lane plan.optionSymbol reference events references)
    (hcarried : Carried lane reference plan) {quote : PublicQuote} {now : ℚ}
    {pricing : EntryPricingResult}
    (hselect : selectEntryLimit quote (repricePricingParams lane plan) now = .ok pricing) :
    Anchored lane plan.optionSymbol reference
      (events ++ [.priced plan.optionSymbol quote (repricePricingParams lane plan) pricing])
      references := by
  have hparams : ParamsFor lane references plan.optionSymbol (repricePricingParams lane plan) := by
    refine ⟨rfl, fun other hother => ?_⟩
    rw [h.reference] at hother
    cases hother
    exact ⟨hcarried.originalMid, hcarried.priceCeiling⟩
  refine ⟨(h.settled.price hparams hselect).settled fun _ => ?_, h.reference⟩
  rw [h.reference]
  exact Option.some_ne_none reference

theorem repriceAtLimit_spec (attempt : ℕ) (quote : PublicQuote) (limit : ℚ)
    (h : Carried lane reference plan) (hlimit : PriceWithin limit limit) :
    ⦃fun world => ⌜Anchored lane plan.optionSymbol reference world.events world.references⌝⦄
    repriceAtLimit lane answers plan attempt quote limit
    ⦃post⟨fun result world =>
        ⌜Anchored lane plan.optionSymbol reference world.events world.references ∧
          Repriced lane reference plan result.1⌝, fun _ _ => ⌜False⌝⟩⦄ := by
  have hself : Repriced lane reference plan plan := ⟨rfl, h⟩
  have hpreflight := preflightEntry_spec answers (Anchored lane plan.optionSymbol reference)
    limit hlimit
  have hsize := fun preflight => sizeReplacement_spec lane answers
    (Anchored lane plan.optionSymbol reference) preflight limit h
  have hreplace := fun quantity limitPrice =>
    replaceEntry_spec lane answers attempt quote quantity limitPrice h
  mvcgen [repriceAtLimit, ask, hpreflight, hsize, hreplace]
  case vc7.hlimit => exact And.right ‹_ ∧ CheckWithin limit (Except.ok _)›
  case vc11 =>
    intro _ _ hfine
    exact hfine
  all_goals first
    | exact And.left ‹_ ∧ _›
    | exact ⟨And.left ‹_ ∧ _›, hself⟩

theorem repriceLiveEntry_spec (attempt : ℕ) (h : Carried lane reference plan) :
    ⦃fun world => ⌜Anchored lane plan.optionSymbol reference world.events world.references⌝⦄
    repriceLiveEntry lane answers plan attempt
    ⦃post⟨fun result world =>
        ⌜Anchored lane plan.optionSymbol reference world.events world.references ∧
          Repriced lane reference plan result.1⌝, fun _ _ => ⌜False⌝⟩⦄ := by
  have hself : Repriced lane reference plan plan := ⟨rfl, h⟩
  have hreprice := fun quote limit => repriceAtLimit_spec lane answers attempt quote limit h
  mvcgen [repriceLiveEntry, ask, record, hreprice]
  case vc5.hlimit =>
    obtain ⟨bid, ask, hchosen⟩ := limitChosen_of_selectEntryLimit ‹_› ‹_›
    exact ⟨hchosen.limit_pos.le, hchosen.limit_mem, le_rfl⟩
  all_goals first
    | exact ⟨‹_›, hself⟩
    | exact Anchored.repriced ‹_› h ‹_›
    | exact ⟨Anchored.repriced ‹_› h ‹_›, hself⟩

theorem waitForEntryFillOrCancel_spec (polled : ℕ → Bool) (rounds : ℕ) (contract : String)
    (plan : EntryPlan) (hcontract : plan.optionSymbol = contract) (h : Carried lane reference plan) :
    ⦃fun world => ⌜Anchored lane contract reference world.events world.references⌝⦄
    waitForEntryFillOrCancel lane answers polled rounds plan
    ⦃post⟨fun _ world => ⌜Settled lane world.events world.references⌝, fun _ _ => ⌜False⌝⟩⦄ := by
  induction rounds generalizing plan with
  | zero =>
    mvcgen [waitForEntryFillOrCancel]
    exact Anchored.settled ‹_›
  | succ rounds ih =>
    subst hcontract
    have hreprice := repriceLiveEntry_spec lane answers 1 h
    mvcgen [waitForEntryFillOrCancel, ask, hreprice, ih]
    case vc5 =>
      intro _ _ hrepriced
      exact hrepriced.1
    case vc6 =>
      intro _ _ hrepriced
      exact hrepriced.2
    all_goals first
      | exact Anchored.settled ‹_›
      | exact Anchored.settled (And.left ‹_ ∧ _›)
      | exact And.left ‹_ ∧ _›

end Reprices

section Life

variable (lane : EntryLane) (answers : EntryAnswers)

/-- The wait of a plan that has an order. -/
theorem wait_of_resultFine (polled : ℕ → Bool) (rounds : ℕ) (plan : EntryPlan)
    (horder : plan.orderId.isSome = true) :
    ⦃fun world => ⌜ResultFine lane (some plan) world⌝⦄
    waitForEntryFillOrCancel lane answers polled rounds plan
    ⦃post⟨fun _ world => ⌜Settled lane world.events world.references⌝, fun _ _ => ⌜False⌝⟩⦄ := by
  intro world hpre
  have hresult : PlanFine lane plan world := hpre
  obtain ⟨-, ⟨hsettled, hworking⟩ | ⟨hnone, -⟩⟩ := hresult
  · obtain ⟨reference, href, hcarried⟩ := hworking horder
    exact waitForEntryFillOrCancel_spec lane answers polled rounds plan.optionSymbol plan rfl hcarried
      world ⟨hsettled, href⟩
  · rw [hnone] at horder
    cases horder

/-- Only a plan with everything settled is tried again. -/
theorem scheduleEntryRetry_spec (plan : EntryPlan) :
    ⦃fun world => ⌜ResultFine lane (some plan) world⌝⦄
    scheduleEntryRetry lane answers plan
    ⦃post⟨fun retried world => ⌜EventsFine lane world.events ∧
        (retried = true → Settled lane world.events world.references)⌝, fun _ _ => ⌜False⌝⟩⦄ := by
  mvcgen [scheduleEntryRetry, ask]
  · refine ⟨ResultFine.eventsFine ‹_›, fun hretried => ?_⟩
    cases hretried
  · rename_i hretryable _ hresult
    refine ⟨ResultFine.eventsFine hresult, fun _ => ?_⟩
    simp only [Bool.or_eq_true, Bool.not_eq_true', not_or, Bool.not_eq_false] at hretryable
    exact PlanFine.settled hresult (fun _ => rfl) hretryable.2

theorem entryLife_spec (polled : ℕ → Bool) (rounds retries : ℕ) :
    ⦃fun world => ⌜Settled lane world.events world.references⌝⦄
    entryLife lane answers polled rounds retries
    ⦃post⟨fun _ world => ⌜EventsFine lane world.events⌝,
      fun _ world => ⌜EventsFine lane world.events⌝⟩⦄ := by
  have hplan := planEntry_spec lane answers
  have hwait := wait_of_resultFine lane answers polled rounds
  have hschedule := scheduleEntryRetry_spec lane answers
  induction retries with
  | zero =>
    mvcgen [entryLife]
    exact Settled.eventsFine ‹_›
  | succ retries ih =>
    mvcgen [entryLife, ask, hplan, hwait, hschedule, ih]
    case vc9 =>
      rename_i hretried _ hscheduled
      exact hscheduled.2 hretried
    all_goals first
      | exact Settled.eventsFine ‹_›
      | exact ResultFine.eventsFine ‹_›
      | exact And.left ‹_ ∧ _›

theorem settled_start : Settled lane EntryWorld.start.events EntryWorld.start.references where
  limits := by simp [EntryWorld.start]
  looks := by simp [EntryWorld.start]
  caps := by simp [EntryWorld.start]
  usable := by simp [Usable, EntryWorld.start]
  recorded := by simp [EntryWorld.start]

/-- The events of an entry over so many planned attempts and waits of so many rounds. -/
def entryEvents (polled : ℕ → Bool) (rounds retries : ℕ) : List EntryEvent :=
  (Library.finalState (entryLife lane answers polled rounds retries) .start).events

theorem eventsFine_entryEvents (polled : ℕ → Bool) (rounds retries : ℕ) :
    EventsFine lane (entryEvents lane answers polled rounds retries) :=
  Library.finalState_of_triple (entryLife_spec lane answers polled rounds retries)
    (settled_start lane)

/-- A chosen limit price is positive, whole cents and at most the ask, the ceiling and the target. -/
def LimitBounded (quote : PublicQuote) (pricing : EntryPricingResult) (limit : ℚ) : Prop :=
  ∃ bid ask ceiling, quote.sides = some (bid, ask) ∧ pricing.maxEntryPrice = some ceiling ∧
    0 < limit ∧ (∃ cents : ℤ, limit = cents / 100) ∧ limit ≤ ask ∧ limit ≤ ceiling ∧
    ∀ target, lane.execution.entryPriceThroughTarget = some target → limit ≤ target

variable {lane} in
theorem limitBounded_of_limitChosen {quote : PublicQuote} {params : PricingParams}
    {pricing : EntryPricingResult} {limit bid ask : ℚ}
    (h : LimitChosen quote params pricing limit bid ask)
    (hexecution : params.toExecutionParams = lane.execution) :
    LimitBounded lane quote pricing limit := by
  obtain ⟨cents, hcents⟩ := Python.mem_decimalGrid_iff.mp h.limit_mem
  refine ⟨bid, ask, ceilingOf params quote bid ask, h.sides, h.maxEntryPrice, h.limit_pos,
    ⟨cents, ?_⟩, h.limit_le_ask, h.limit_le_ceiling, fun target htarget => ?_⟩
  · rw [← hcents]
    norm_num
  · apply h.limit_le_ceiling.trans
    apply ceilingOf_le_target
    rw [← htarget, ← hexecution]

/-- In every entry, whatever the quotes, the broker and the guards answer: every limit price is
bounded, every approved pricing of a contract has the same midpoint and ceiling, and every order is
within the effective premium cap. -/
theorem entry_within_ceiling_and_cap (polled : ℕ → Bool) (rounds retries : ℕ) :
    (∀ contract quote params pricing limit,
      .priced contract quote params pricing ∈ entryEvents lane answers polled rounds retries →
        pricing.limitPrice = some limit → LimitBounded lane quote pricing limit) ∧
    (∀ contract quote pricing limit,
      .screened contract quote pricing ∈ entryEvents lane answers polled rounds retries →
        pricing.limitPrice = some limit → LimitBounded lane quote pricing limit) ∧
    (∀ contract quote quote' params params' pricing pricing',
      .priced contract quote params pricing ∈ entryEvents lane answers polled rounds retries →
        pricing.approved = true →
      .priced contract quote' params' pricing' ∈ entryEvents lane answers polled rounds retries →
        pricing'.approved = true →
        pricing.originalMid = pricing'.originalMid ∧
          pricing.maxEntryPrice = pricing'.maxEntryPrice) ∧
    (∀ contract (quantity : ℤ) limit,
      .submitted contract quantity limit ∈ entryEvents lane answers polled rounds retries →
        ∃ cap, lane.effectiveMaxTradePremium = .ok cap ∧ quantity * limit * 100 ≤ cap) := by
  have hfine := eventsFine_entryEvents lane answers polled rounds retries
  refine ⟨?_, ?_, hfine.frozen, hfine.caps⟩
  · intro contract quote params pricing limit hmem hlimit
    obtain ⟨hexecution, bid, ask, hchosen⟩ :=
      hfine.limits contract quote params pricing limit hmem hlimit
    exact limitBounded_of_limitChosen hchosen hexecution
  · intro contract quote pricing limit hmem hlimit
    obtain ⟨bid, ask, hchosen⟩ := hfine.looks contract quote pricing limit hmem hlimit
    exact limitBounded_of_limitChosen hchosen rfl

end Life

end Bhiksha.Entry
