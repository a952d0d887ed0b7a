import Bhiksha.Execution.ManagementPolicy
import Bhiksha.Execution.ProfileExit

/-! The quote tape of one entry, and what makes it unfit for a replay. Instants are seconds. -/

namespace Bhiksha.Lab

structure QuoteTapeMark where
  sequence : ℤ
  source : String
  feed : String
  quoteAt : ℚ
  receivedAt : ℚ
  bid : Option ℚ
  ask : Option ℚ
  last : Option ℚ := none
deriving DecidableEq, Repr

/-- The keys of the frozen legacy configuration that the replay reads. -/
structure LegacyConfig where
  stopLossPct : Option ℚ
  profitTargetPct : Option ℚ := none
  hardFlatTimeEt : String := "15:55"
deriving DecidableEq, Repr

/-- One arm of the risk-envelope experiment. -/
structure EnvelopeArm where
  candidateId : String
  candidatePolicyId : String
  candidatePolicyHash : String
  candidateType : Option String := none
  canonicalPolicy : ManagementPolicySpec
  candidateOverlay : PolicyDict := []
deriving DecidableEq, Repr

structure RiskEnvelopeExperiment where
  experimentId : String
  arms : List EnvelopeArm
deriving DecidableEq, Repr

/-- The frozen experiment; of the named profiles only their presence is read here. -/
structure Experiment where
  riskEnvelope : Option RiskEnvelopeExperiment
  namedProfiles : Bool := false
  evaluatorVersion : String
  fillModelVersion : String
  quoteSource : String
  quoteFeed : String
  decisionClock : Option String := none
deriving DecidableEq, Repr

structure ExitEdgeCase where
  tradeId : String
  deploymentId : String
  entryTimestamp : ℚ
  entryPremium : ℚ
  quantity : ℤ
  profile : ProfileExitFields
  profileConfig : PolicyDict
  legacyConfig : LegacyConfig
  experiment : Experiment
  experimentSpecHash : String
  quotes : List QuoteTapeMark

/-- What the lab takes from outside: besides the ladder's own platform the New York clock of an
instant, its ISO text, the text of a float and the digest of an experiment. -/
structure LabPlatform extends Platform where
  newYorkClock : ℚ → ClockTime
  isoformat : ℚ → String
  floatText : ℚ → String
  specHash : PolicyDict → LegacyConfig → Experiment → String

def evaluatorVersion : String := "profile-evaluator-v1"

def fillModelVersion : String := "next-fresh-natural-bid-v2"

def sampledFillModelVersion : String := "next-sampled-natural-bid-v3"

/-- Why `_tape_problem` refuses a case. -/
inductive TapeProblem where
  | invalidEntry
  | missingIdentity
  | missingExperiment
  | specHashMismatch
  | unsupportedVersion
  | tooShort
  | missingSource
  | missingFeed
  | sourceTransition
  | precedesEntry
  | outOfOrderSequence
  | sequenceGap
  | outOfOrderTimestamp
  | receivedEarly
  | stale
  | missingBid
  | missingAsk
  | crossed
deriving DecidableEq, Repr

def TapeProblem.text : TapeProblem → String
  | invalidEntry => "invalid_entry"
  | missingIdentity => "missing_trade_or_deployment_identity"
  | missingExperiment => "missing_risk_envelope_experiment_identity"
  | specHashMismatch => "experiment_spec_hash_mismatch"
  | unsupportedVersion => "unsupported_evaluator_or_fill_model_version"
  | tooShort => "quote_tape_too_short_for_next_tick_fill"
  | missingSource => "missing_quote_source"
  | missingFeed => "missing_quote_feed"
  | sourceTransition => "quote_source_or_feed_transition"
  | precedesEntry => "quote_precedes_entry"
  | outOfOrderSequence => "duplicate_or_out_of_order_sequence"
  | sequenceGap => "sequence_gap"
  | outOfOrderTimestamp => "out_of_order_timestamp"
  | receivedEarly => "quote_received_before_provider_timestamp"
  | stale => "stale_quote_gap"
  | missingBid => "missing_executable_bid"
  | missingAsk => "missing_ask"
  | crossed => "crossed_quote"

namespace QuoteTapeMark

/-- `(received_at - quote_at).total_seconds() * 1000`. -/
def ageMs (quote : QuoteTapeMark) : ℚ := (quote.receivedAt - quote.quoteAt) * 1000

/-- Is there a price, and is it positive? -/
def positivePrice (price : Option ℚ) : Bool := ∃ p ∈ price, 0 < p

end QuoteTapeMark

open QuoteTapeMark

/-- What is wrong between a quote and the one before it. -/
def orderProblem (maxSequenceGap : ℤ) (previous : Option QuoteTapeMark) (quote : QuoteTapeMark) :
    Option TapeProblem :=
  match previous with
  | none => none
  | some previous =>
    if quote.sequence ≤ previous.sequence then some .outOfOrderSequence
    else if maxSequenceGap < quote.sequence - previous.sequence then some .sequenceGap
    else if quote.quoteAt < previous.quoteAt ∨ quote.receivedAt < previous.receivedAt then
      some .outOfOrderTimestamp
    else none

/-- What is wrong with a quote on its own, after the checks of its order. -/
def priceProblem (maxFreshnessMs : ℚ) (quote : QuoteTapeMark) : Option TapeProblem :=
  if quote.ageMs < 0 then some .receivedEarly
  else if maxFreshnessMs < quote.ageMs then some .stale
  else if ¬ positivePrice quote.bid then some .missingBid
  else if ¬ positivePrice quote.ask then some .missingAsk
  else if ∃ bid ∈ quote.bid, ∃ ask ∈ quote.ask, ask < bid then some .crossed
  else none

/-- One turn of the check over the tape. -/
def quoteProblem (case : ExitEdgeCase) (maxFreshnessMs : ℚ) (maxSequenceGap : ℤ)
    (previous : Option QuoteTapeMark) (quote : QuoteTapeMark) : Option TapeProblem :=
  if quote.source = "" then some .missingSource
  else if quote.feed = "" then some .missingFeed
  else if (quote.source, quote.feed) ≠ (case.experiment.quoteSource, case.experiment.quoteFeed) then
    some .sourceTransition
  else if quote.quoteAt < case.entryTimestamp ∨ quote.receivedAt < case.entryTimestamp then
    some .precedesEntry
  else (orderProblem maxSequenceGap previous quote).or (priceProblem maxFreshnessMs quote)

def quotesProblem (case : ExitEdgeCase) (maxFreshnessMs : ℚ) (maxSequenceGap : ℤ) :
    Option QuoteTapeMark → List QuoteTapeMark → Option TapeProblem
  | _, [] => none
  | previous, quote :: rest =>
    (quoteProblem case maxFreshnessMs maxSequenceGap previous quote).or
      (quotesProblem case maxFreshnessMs maxSequenceGap (some quote) rest)

/-- `_tape_problem`. -/
def tapeProblem (lab : LabPlatform) (case : ExitEdgeCase) (maxFreshnessMs : ℚ)
    (maxSequenceGap : ℤ) : Option TapeProblem :=
  if case.entryPremium ≤ 0 ∨ case.quantity ≤ 0 then some .invalidEntry
  else if case.tradeId = "" ∨ case.deploymentId = "" then some .missingIdentity
  else if case.experiment.riskEnvelope = none ∧ ¬ case.experiment.namedProfiles then
    some .missingExperiment
  else if lab.specHash case.profileConfig case.legacyConfig case.experiment ≠
      case.experimentSpecHash then
    some .specHashMismatch
  else if case.experiment.evaluatorVersion ≠ evaluatorVersion ∨
      case.experiment.fillModelVersion ∉ [fillModelVersion, sampledFillModelVersion] then
    some .unsupportedVersion
  else if case.quotes.length < 2 then some .tooShort
  else quotesProblem case maxFreshnessMs maxSequenceGap none case.quotes

/-- `_executable`. -/
def executable (quote : QuoteTapeMark) (ageMs limit : ℚ) : Bool :=
  positivePrice quote.bid ∧ (∃ bid ∈ quote.bid, ∃ ask ∈ quote.ask, bid ≤ ask) ∧
    0 ≤ ageMs ∧ ageMs ≤ limit

/-- `_decision_at`. -/
def decisionAt (case : ExitEdgeCase) (quote : QuoteTapeMark) : ℚ :=
  if case.experiment.decisionClock = some "received_at" then quote.receivedAt else quote.quoteAt

/-! ### What an accepted tape is -/

section Accepted

variable {lab : LabPlatform} {case : ExitEdgeCase} {maxFreshnessMs : ℚ} {maxSequenceGap : ℤ}

/-- A quote that a replay can decide on and fill at. -/
structure QuoteTapeMark.Sound (maxFreshnessMs : ℚ) (quote : QuoteTapeMark) : Prop where
  bid : ∃ bid, quote.bid = some bid ∧ 0 < bid
  executable : executable quote quote.ageMs maxFreshnessMs = true

theorem sound_of_priceProblem {quote : QuoteTapeMark}
    (h : priceProblem maxFreshnessMs quote = none) : quote.Sound maxFreshnessMs := by
  unfold priceProblem at h
  split_ifs at h with hearly hstale hbid hask hcrossed
  obtain ⟨bid, hbid, hpos⟩ : ∃ bid ∈ quote.bid, 0 < bid := by
    simpa [positivePrice] using hbid
  obtain ⟨ask, hask, -⟩ : ∃ ask ∈ quote.ask, 0 < ask := by
    simpa [positivePrice] using hask
  rw [Option.mem_def] at hbid hask
  have hle : bid ≤ ask := by
    by_contra hlt
    exact hcrossed ⟨bid, hbid, ask, hask, not_le.mp hlt⟩
  refine ⟨⟨bid, hbid, hpos⟩, ?_⟩
  simp [executable, positivePrice, hbid, hask, hpos, hle, not_lt.mp hearly, not_lt.mp hstale]

/-- The quotes of an accepted tape are sound and come in increasing sequence order. -/
theorem quotesProblem_none {previous : Option QuoteTapeMark} {quotes : List QuoteTapeMark}
    (h : quotesProblem case maxFreshnessMs maxSequenceGap previous quotes = none) :
    (∀ quote ∈ quotes, quote.Sound maxFreshnessMs) ∧
      (∀ before ∈ previous, ∀ quote ∈ quotes, before.sequence < quote.sequence) ∧
      quotes.Pairwise fun before after => before.sequence < after.sequence := by
  induction quotes generalizing previous with
  | nil => simp
  | cons quote rest ih =>
    rw [quotesProblem, Option.or_eq_none_iff] at h
    obtain ⟨hrest, hafter, hpairwise⟩ := ih h.2
    have hquote := h.1
    unfold quoteProblem at hquote
    split_ifs at hquote with hsource hfeed hlineage hentry
    rw [Option.or_eq_none_iff] at hquote
    obtain ⟨horder, hprice⟩ := hquote
    have hlater : ∀ after ∈ rest, quote.sequence < after.sequence := hafter quote rfl
    have hbefore : ∀ before ∈ previous, before.sequence < quote.sequence := by
      intro before hmem
      rw [Option.mem_def] at hmem
      rw [hmem] at horder
      unfold orderProblem at horder
      dsimp only at horder
      by_contra hle
      rw [if_pos (not_lt.mp hle)] at horder
      cases horder
    refine ⟨List.forall_mem_cons.mpr ⟨sound_of_priceProblem hprice, hrest⟩, ?_,
      List.pairwise_cons.mpr ⟨hlater, hpairwise⟩⟩
    intro before hmem
    have hfirst := hbefore before hmem
    exact List.forall_mem_cons.mpr ⟨hfirst, fun after h => hfirst.trans (hlater after h)⟩

/-- What the replays rely on in an accepted case. -/
structure ExitEdgeCase.Accepted (case : ExitEdgeCase) (maxFreshnessMs : ℚ) : Prop where
  entryPremium : 0 < case.entryPremium
  quantity : 0 < case.quantity
  sound : ∀ quote ∈ case.quotes, quote.Sound maxFreshnessMs
  increasing : case.quotes.Pairwise fun before after => before.sequence < after.sequence

theorem accepted_of_tapeProblem
    (h : tapeProblem lab case maxFreshnessMs maxSequenceGap = none) : case.Accepted maxFreshnessMs := by
  unfold tapeProblem at h
  split_ifs at h with hentry hidentity hexperiment hhash hversion hshort
  obtain ⟨hpremium, hquantity⟩ := not_or.mp hentry
  obtain ⟨hsound, -, hincreasing⟩ := quotesProblem_none h
  exact ⟨not_le.mp hpremium, not_le.mp hquantity, hsound, hincreasing⟩

end Accepted

end Bhiksha.Lab
