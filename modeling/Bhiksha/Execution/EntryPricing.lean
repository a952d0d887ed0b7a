import Bhiksha.Library.Outcome
import Bhiksha.Python

/-! The limit price of an option entry, and the prices that the order manager sends for it. -/

namespace Bhiksha

open Library Python

section Prices

/-- `round_price`. -/
def roundPrice (value : ℚ) : ℚ := roundTo 2 (value + 1 / 10 ^ 9)

/-- `snap_price`, on either side. -/
def snapPrice (value increment : ℚ) : Except PyException ℚ :=
  if increment ≤ 0 then .error (.valueError "invalid_price_increment")
  else
    let price := ⌊value / increment⌋ * increment
    if price ≤ 0 then .error (.valueError "price_below_broker_increment")
    else .ok (roundPrice price)

/-- Rounding down to whole cents. -/
def floorEntryPrice (value : ℚ) : Except PyException ℚ := snapPrice value (1 / 100)

theorem roundPrice_mem (x : ℚ) : roundPrice x ∈ decimalGrid 2 := roundTo_mem 2 _

/-- A price below a number of whole cents is not rounded above it. -/
theorem roundPrice_le {x limit : ℚ} (hlimit : limit ∈ decimalGrid 2) (h : x ≤ limit) :
    roundPrice x ≤ limit := by
  obtain ⟨n, rfl⟩ := mem_decimalGrid_iff.mp hlimit
  have hscaled : (x + 1 / 10 ^ 9) * 10 ^ 2 ≤ n + 1 / 10 ^ 7 := by
    have hx : x * 10 ^ 2 ≤ n := by
      rwa [le_div_iff₀ (by norm_num)] at h
    linarith
  have hround : roundHalfEven ((x + 1 / 10 ^ 9) * 10 ^ 2) ≤ n := by
    have hfloor : ⌊(x + 1 / 10 ^ 9) * 10 ^ 2⌋ ≤ n := by
      have hlt : (⌊(x + 1 / 10 ^ 9) * 10 ^ 2⌋ : ℚ) < (n + 1 : ℤ) := by
        have hfloor := Int.floor_le ((x + 1 / 10 ^ 9) * 10 ^ 2)
        push_cast
        linarith
      have hltInt : ⌊(x + 1 / 10 ^ 9) * 10 ^ 2⌋ < n + 1 := by exact_mod_cast hlt
      omega
    rcases hfloor.lt_or_eq with hlt | heq
    · unfold roundHalfEven
      simp only
      split_ifs <;> omega
    · have hrest : (x + 1 / 10 ^ 9) * 10 ^ 2 - ⌊(x + 1 / 10 ^ 9) * 10 ^ 2⌋ < 1 / 2 := by
        rw [heq]
        linarith
      unfold roundHalfEven
      simp only [hrest, if_true]
      exact hfloor
  rw [roundPrice, roundTo]
  gcongr

/-- A number of whole cents is left alone. -/
theorem roundPrice_of_mem {x : ℚ} (h : x ∈ decimalGrid 2) : roundPrice x = x := by
  obtain ⟨n, rfl⟩ := mem_decimalGrid_iff.mp h
  have hscaled : ((n : ℚ) / 10 ^ 2 + 1 / 10 ^ 9) * 10 ^ 2 = n + 1 / 10 ^ 7 := by ring
  have hfloor : ⌊(n : ℚ) + 1 / 10 ^ 7⌋ = n := by
    rw [Int.floor_eq_iff]
    constructor <;> norm_num
  have hround : roundHalfEven ((n : ℚ) + 1 / 10 ^ 7) = n := by
    unfold roundHalfEven
    simp only [hfloor]
    rw [if_pos (by norm_num)]
  rw [roundPrice, roundTo, hscaled, hround]

theorem roundPrice_nonneg {x : ℚ} (h : 0 ≤ x) : 0 ≤ roundPrice x :=
  roundTo_nonneg (by positivity)

/-- A snapped price is whole cents, not negative and at most any bound of whole cents on the
value. -/
theorem ensures_snapPrice (value increment : ℚ) :
    Ensures (snapPrice value increment) fun price =>
      0 ≤ price ∧ price ∈ decimalGrid 2 ∧
        ∀ limit ∈ decimalGrid 2, value ≤ limit → price ≤ limit := by
  refine ensures_ite (fun _ => ensures_error _ _) fun hpos => ?_
  have hincrement : 0 < increment := lt_of_not_ge hpos
  refine ensures_ite (fun _ => ensures_error _ _) fun hprice => ensures_ok ?_
  refine ⟨roundPrice_nonneg (lt_of_not_ge hprice).le, roundPrice_mem _, ?_⟩
  intro limit hlimit hvalue
  have hfloor : (⌊value / increment⌋ : ℚ) * increment ≤ value :=
    (le_div_iff₀ hincrement).mp (Int.floor_le _)
  exact roundPrice_le hlimit (hfloor.trans hvalue)

/-- A floored price is positive, whole cents and at most the value. -/
theorem ensures_floorEntryPrice (value : ℚ) :
    Ensures (floorEntryPrice value) fun price =>
      0 < price ∧ price ∈ decimalGrid 2 ∧ price ≤ value := by
  refine ensures_ite (fun _ => ensures_error _ _) fun _ => ?_
  refine ensures_ite (fun _ => ensures_error _ _) fun hpos => ensures_ok ?_
  have hgrid : (⌊value / (1 / 100)⌋ : ℚ) * (1 / 100) ∈ decimalGrid 2 :=
    mem_decimalGrid_iff.mpr ⟨⌊value / (1 / 100)⌋, by ring⟩
  have hfloor : (⌊value / (1 / 100)⌋ : ℚ) * (1 / 100) ≤ value :=
    (le_div_iff₀ (by norm_num)).mp (Int.floor_le _)
  rw [roundPrice_of_mem hgrid]
  exact ⟨lt_of_not_ge hpos, hgrid, hfloor⟩

end Prices

section Quotes

/-- A number that a provider sent. -/
inductive Reading where
  | finite (value : ℚ)
  | nonfinite
deriving DecidableEq, Repr

/-- A timestamp that a provider sent, as it parses. -/
inductive ProviderTimestamp where
  | absent
  | unreadable
  | at (time : ℚ)
deriving DecidableEq, Repr

def ProviderTimestamp.parse : ProviderTimestamp → Option ℚ
  | .at time => some time
  | _ => none

/-- The fields that prove both sides of a quote. -/
inductive TimestampField where
  | quoteTimestamp
  | bidAskTimestamps
deriving DecidableEq, Repr

structure PublicQuote where
  symbol : String
  bid : Option Reading
  ask : Option Reading
  openInterest : Option ℤ
  quoteTimestamp : ProviderTimestamp
  quoteTimestampField : Option TimestampField
  bidTimestamp : ProviderTimestamp
  askTimestamp : ProviderTimestamp
deriving DecidableEq, Repr

inductive QuoteTimestampStatus where
  | current
  | stale
  | missing
  | unproven
deriving DecidableEq, Repr

structure TimestampLineage where
  quoteAt : ℚ
  bidAt : ℚ
  askAt : ℚ
deriving DecidableEq, Repr

namespace PublicQuote

variable (quote : PublicQuote)

def sideAt (side : ProviderTimestamp) (quoteAt : ℚ) : Option ℚ :=
  if side = .absent then some quoteAt else side.parse

/-- `proved_quote_timestamp_lineage`. -/
def provedTimestampLineage (observed : ℚ) : Option TimestampLineage := do
  let field ← quote.quoteTimestampField
  let quoteAt ← quote.quoteTimestamp.parse
  let lineage ← match field with
    | .quoteTimestamp => do
      let bidAt ← sideAt quote.bidTimestamp quoteAt
      let askAt ← sideAt quote.askTimestamp quoteAt
      if quoteAt < bidAt ∨ quoteAt < askAt then none
      else some (TimestampLineage.mk (min quoteAt (min bidAt askAt)) bidAt askAt)
    | .bidAskTimestamps => do
      let bidAt ← quote.bidTimestamp.parse
      let askAt ← quote.askTimestamp.parse
      if quoteAt ≠ min bidAt askAt then none else some ⟨min bidAt askAt, bidAt, askAt⟩
  if observed < lineage.bidAt ∨ observed < lineage.askAt ∨ observed < quoteAt then none
  else some lineage

/-- `quote_timestamp_evidence`: a quote is current for eight seconds. -/
def timestampStatus (observed : ℚ) : QuoteTimestampStatus :=
  match quote.provedTimestampLineage observed with
  | none => if quote.quoteTimestamp = .absent then .missing else .unproven
  | some lineage =>
    if observed - lineage.quoteAt ≤ 8 ∧ observed - lineage.bidAt ≤ 8 ∧ observed - lineage.askAt ≤ 8
    then .current else .stale

/-- The bid and the ask, where both are numbers. -/
def sides : Option (ℚ × ℚ) :=
  match quote.bid, quote.ask with
  | some (.finite bid), some (.finite ask) => some (bid, ask)
  | _, _ => none

def spreadPct : Option ℚ :=
  match quote.sides with
  | none => none
  | some (bid, ask) => if (bid + ask) / 2 ≤ 0 then none else some ((ask - bid) / ((bid + ask) / 2))

end PublicQuote

end Quotes

section Pricing

inductive EntryExecutionProfile where
  | patient
  | balanced
  | urgent
deriving DecidableEq, Repr

def EntryExecutionProfile.maxChasePct : EntryExecutionProfile → ℚ
  | .patient => 10 / 100
  | .balanced => 15 / 100
  | .urgent => 25 / 100

structure EntryPricingPolicy where
  requireOpenInterest : Bool := true
  preferredMaxBidAskSpreadPct : Option ℚ := none
deriving DecidableEq, Repr

/-- The execution parameters of a deployment that the pricing reads. -/
structure ExecutionParams where
  policy : EntryPricingPolicy := {}
  entryRepriceMaxChasePct : Option ℚ := none
  entryExecutionProfile : Option EntryExecutionProfile := none
  entryPriceThroughTarget : Option ℚ := none
deriving DecidableEq, Repr

/-- The execution parameters with what a frozen reference or a replacement adds. -/
structure PricingParams extends ExecutionParams where
  entryOriginalMid : Option ℚ := none
  entryPriceCeiling : Option ℚ := none
  entryWideMarket : Option Bool := none
  entryRepriceStep : Bool := false
deriving DecidableEq, Repr

structure EntryPricingResult where
  limitPrice : Option ℚ
  blockReasons : List String
  maxEntryPrice : Option ℚ
  originalMid : Option ℚ
  wideMarket : Bool
deriving DecidableEq, Repr

def EntryPricingResult.blocked (reasons : List String) : EntryPricingResult :=
  ⟨none, reasons, none, none, false⟩

def EntryPricingResult.approved (pricing : EntryPricingResult) : Bool :=
  pricing.limitPrice.isSome && pricing.blockReasons.isEmpty

def resolveEntryRepriceMaxChasePct (params : PricingParams) : Option ℚ :=
  match params.entryRepriceMaxChasePct.filter fun chase => 0 ≤ chase ∧ chase ≤ 1 with
  | some chase => some chase
  | none => params.entryExecutionProfile.map EntryExecutionProfile.maxChasePct

def isWideMarket (quote : PublicQuote) (policy : EntryPricingPolicy) : Bool :=
  let threshold := ((policy.preferredMaxBidAskSpreadPct.filter (· ≠ 0)).getD (20 / 100))
  quote.spreadPct.any fun spread => threshold < spread

def quoteBlocks (quote : PublicQuote) (policy : EntryPricingPolicy) (observedAt : ℚ) :
    List String :=
  if quote.bid = some .nonfinite ∨ quote.ask = some .nonfinite then ["public_quote_nonfinite"]
  else
    (match quote.timestampStatus observedAt with
      | .current => []
      | .missing => ["public_quote_timestamp_missing"]
      | _ => ["public_quote_stale_or_unproven"]) ++
    (match quote.sides with
      | none => ["public_quote_missing_bid_ask"]
      | some (bid, ask) =>
        if bid ≤ 0 ∨ ask ≤ 0 then ["public_quote_missing_bid_ask"]
        else if ask < bid then ["public_quote_crossed_bid_ask"]
        else []) ++
    (match quote.openInterest with
      | none => if policy.requireOpenInterest then ["public_open_interest_missing"] else []
      | some interest => if interest ≤ 0 then ["public_open_interest_missing"] else []) ++
    (match quote.spreadPct with
      | none => if quote.sides.isSome then ["public_spread_unavailable"] else []
      | some spread => if 150 / 100 < spread then ["public_spread_absurd"] else [])

/-- The midpoint that an entry was first priced at. -/
def originalMidOf (params : PricingParams) (bid ask : ℚ) : ℚ :=
  (params.entryOriginalMid.filter (· ≠ 0)).getD ((bid + ask) / 2)

def wideMarketOf (params : PricingParams) (quote : PublicQuote) : Bool :=
  params.entryWideMarket.getD (isWideMarket quote params.policy)

/-- The ceiling of an entry that has none yet. -/
def freshCeiling (params : PricingParams) (originalMid : ℚ) (wide : Bool) : ℚ :=
  let ceiling := originalMid * (1 + (resolveEntryRepriceMaxChasePct params).getD (15 / 100))
  if wide then min ceiling (originalMid + 10 / 100) else ceiling

/-- The ceiling; an explicit limit is one more. -/
def ceilingOf (params : PricingParams) (quote : PublicQuote) (bid ask : ℚ) : ℚ :=
  let ceiling := params.entryPriceCeiling.getD
    (freshCeiling params (originalMidOf params bid ask) (wideMarketOf params quote))
  params.entryPriceThroughTarget.elim ceiling (min ceiling)

/-- The price that a ceiling is then applied to. -/
def proposedPrice (params : PricingParams) (wide : Bool) (bid ask : ℚ) : ℚ :=
  if params.entryRepriceStep then (if wide then (bid + ask) / 2 else ask)
  else if wide then bid + 1 / 4 * (ask - bid) else (bid + ask) / 2

def selectEntryLimit (quote : PublicQuote) (params : PricingParams) (observedAt : ℚ) :
    Except PyException EntryPricingResult :=
  match quoteBlocks quote params.policy observedAt, quote.sides with
  | [], some (bid, ask) => do
    let wide := wideMarketOf params quote
    let ceiling := ceilingOf params quote bid ask
    if ceiling ≤ 0 then return .blocked ["entry_price_ceiling_unusable"]
    let limit ← floorEntryPrice (min (min (proposedPrice params wide bid ask) ask) ceiling)
    return ⟨some limit, [], some ceiling, some (originalMidOf params bid ask), wide⟩
  | blocks, _ => .ok (.blocked blocks)

/-- A pricing that chose a limit price. -/
structure LimitChosen (quote : PublicQuote) (params : PricingParams) (pricing : EntryPricingResult)
    (limit bid ask : ℚ) : Prop where
  sides : quote.sides = some (bid, ask)
  bid_pos : 0 < bid
  bid_le_ask : bid ≤ ask
  limit_pos : 0 < limit
  limit_mem : limit ∈ decimalGrid 2
  limit_le_ask : limit ≤ ask
  limit_le_ceiling : limit ≤ ceilingOf params quote bid ask
  approved : pricing.approved = true
  maxEntryPrice : pricing.maxEntryPrice = some (ceilingOf params quote bid ask)
  originalMid : pricing.originalMid = some (originalMidOf params bid ask)

theorem sides_of_quoteBlocks_eq_nil {quote : PublicQuote} {policy : EntryPricingPolicy} {at' : ℚ}
    {bid ask : ℚ} (hblocks : quoteBlocks quote policy at' = []) (hsides : quote.sides = some (bid, ask)) :
    0 < bid ∧ bid ≤ ask := by
  unfold quoteBlocks at hblocks
  split at hblocks
  · cases hblocks
  · simp only [List.append_eq_nil_iff, hsides] at hblocks
    have hmiddle := hblocks.1.1.2
    split at hmiddle
    · cases hmiddle
    · rename_i hpos
      rw [not_or, not_le, not_le] at hpos
      split at hmiddle
      · cases hmiddle
      · rename_i hcrossed
        exact ⟨hpos.1, not_lt.mp hcrossed⟩

theorem limitChosen_of_selectEntryLimit {quote : PublicQuote} {params : PricingParams}
    {observedAt : ℚ} {pricing : EntryPricingResult}
    (hselect : selectEntryLimit quote params observedAt = .ok pricing) {limit : ℚ}
    (hlimit : pricing.limitPrice = some limit) :
    ∃ bid ask, LimitChosen quote params pricing limit bid ask := by
  unfold selectEntryLimit at hselect
  split at hselect
  · rename_i bid ask hblocks hsides
    obtain ⟨hbid, hask⟩ := sides_of_quoteBlocks_eq_nil hblocks hsides
    simp only [pure, Except.pure, bind, Except.bind] at hselect
    split at hselect
    · cases hselect
      cases hlimit
    · cases hfloor : floorEntryPrice (min (min (proposedPrice params (wideMarketOf params quote)
          bid ask) ask) (ceilingOf params quote bid ask)) with
      | error e =>
        rw [hfloor] at hselect
        cases hselect
      | ok price =>
        rw [hfloor] at hselect
        cases hselect
        cases hlimit
        obtain ⟨hpos, hmem, hle⟩ := (ensures_floorEntryPrice _).of_ok _ hfloor
        exact ⟨bid, ask, hsides, hbid, hask, hpos, hmem,
          hle.trans ((min_le_left _ _).trans (min_le_right _ _)), hle.trans (min_le_right _ _),
          rfl, rfl, rfl⟩
  · cases hselect
    cases hlimit

theorem limitPrice_of_approved {pricing : EntryPricingResult} (h : pricing.approved = true) :
    ∃ limit, pricing.limitPrice = some limit := by
  simp only [EntryPricingResult.approved, Bool.and_eq_true, Option.isSome_iff_exists] at h
  exact h.1

end Pricing

end Bhiksha
