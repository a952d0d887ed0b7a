import Bhiksha.Options.Selector

/-! The snapshot of a chain that one selection attempt saw, with the verdict on each contract. -/

namespace Bhiksha.Options

open Python Library

/-- A verdict's label is `accepted` or the selector's own word for the reason. -/
inductive Verdict where
  | accepted
  | rejected (reason : Reason)
deriving DecidableEq, Repr

def Verdict.text : Verdict → String
  | accepted => "accepted"
  | rejected reason => reason.text

/-- One candidate contract's attributes and verdict for one attempt. -/
structure ContractSnapshotRow where
  optionSymbol : String
  expirationDate : String
  dte : ℤ
  strike : ℚ
  contractType : String
  openInterest : Option ℤ
  delta : Option ℚ
  bid : Option ℚ
  ask : Option ℚ
  spreadPct : Option ℚ
  dteInWindow : Bool
  verdict : Verdict
  fallbackVerdict : Option Verdict
  isSelected : Bool
deriving DecidableEq, Repr

/-- What the candidate-set digest is taken of. -/
structure CandidateSetPayload where
  schemaVersion : String
  candidates : List ContractSnapshotRow
deriving DecidableEq, Repr

/-- The request's thresholds as the selection digest spells them. -/
structure RequestPayload where
  deploymentId : String
  symbol : String
  direction : String
  allowedContractType : String
  dteMin : ℤ
  dteMax : ℤ
  minOpenInterest : ℤ
  targetAbsDeltaMin : Option ℚ
  targetAbsDeltaMax : Option ℚ
  maxBidAskSpreadPct : Option ℚ
  dteFallbackPolicy : String
deriving DecidableEq, Repr

/-- What the selection digest is taken of. -/
structure SelectionPayload where
  schemaVersion : String
  selectorImplementation : String
  selectorVersion : String
  request : RequestPayload
  optionCandidateSetSha256 : String
  selectedOptionSymbol : Option String
  selectorEmpty : Bool
deriving DecidableEq, Repr

/-- `_canonical_sha256` of the two payloads. -/
structure CanonicalSha256 where
  candidateSet : CandidateSetPayload → String
  selection : SelectionPayload → String

/-- One selection attempt: the request context plus its captured rows. -/
structure ChainSnapshotAttempt where
  snapshotId : String
  deploymentId : String
  symbol : String
  lane : String
  direction : String
  allowedContractType : String
  dteMin : ℤ
  dteMax : ℤ
  minOpenInterest : ℤ
  targetAbsDeltaMin : Option ℚ
  targetAbsDeltaMax : Option ℚ
  maxBidAskSpreadPct : Option ℚ
  dteFallbackPolicy : String
  nearestAfterDte : Option ℤ
  totalCandidates : ℕ
  capturedCandidates : ℕ
  selectorEmpty : Bool
  selectedOptionSymbol : Option String
  optionCandidateSetSha256 : String
  actualOptionSelectionSha256 : String
  rows : List ContractSnapshotRow
deriving DecidableEq, Repr

/-- The cascade of `_passes_non_dte_filters`, with the reason it stops for. -/
def nonDteVerdict (params : ExecutionParams) (contract : OptionContractSnapshot) : Verdict :=
  match hardQuoteReason contract with
  | some hardReason => .rejected hardReason
  | none =>
    if params.deltaBelowMin contract then .rejected .deltaBelowMin
    else if params.deltaAboveMax contract then .rejected .deltaAboveMax
    else .accepted

def rowForContract (params : ExecutionParams) (selectedOptionSymbol : Option String)
    (contract : OptionContractSnapshot) : ContractSnapshotRow :=
  let dteInWindow := decide (params.InWindow contract.dte)
  { optionSymbol := contract.optionSymbol
    expirationDate := contract.expirationDate
    dte := contract.dte
    strike := contract.strike
    contractType := contract.contractType
    openInterest := contract.openInterest
    delta := contract.delta
    bid := contract.bid
    ask := contract.ask
    spreadPct := contract.spreadPct
    dteInWindow
    verdict := if dteInWindow then nonDteVerdict params contract else .rejected .dteOutOfRange
    fallbackVerdict := if dteInWindow then none else some (nonDteVerdict params contract)
    isSelected := selectedOptionSymbol = some contract.optionSymbol }

/-- The contracts of the requested underlying and type. -/
def desiredContracts (request : OptionSelectionRequest) (contracts : List OptionContractSnapshot) :
    List OptionContractSnapshot :=
  contracts.filter fun contract => contract.underlyingSymbol = request.symbol ∧
    contract.contractType.toUpper = requiredContractType request

/-- The contracts inside the window, at the nearest expiry after it, or at the selected one. -/
def captureCandidates (params : ExecutionParams) (nearestAfterDte selectedDte : Option ℤ)
    (desired : List OptionContractSnapshot) : List OptionContractSnapshot :=
  desired.filter fun contract => params.InWindow contract.dte ∨
    nearestAfterDte = some contract.dte ∨ selectedDte = some contract.dte

/-- The verdict on every desired contract, captured or not. -/
def candidateRows (request : OptionSelectionRequest) (contracts : List OptionContractSnapshot)
    (selectedOptionSymbol : Option String) : List ContractSnapshotRow :=
  (desiredContracts request contracts).map
    (rowForContract request.executionParams selectedOptionSymbol)

def candidateSetPayload (rows : List ContractSnapshotRow) : CandidateSetPayload where
  schemaVersion := "bhiksha.option_candidate_set.v1"
  candidates := sortedBy (fun row : ContractSnapshotRow =>
    toLex (row.optionSymbol, toLex (row.expirationDate, row.strike))) rows

def selectionPayload (request : OptionSelectionRequest) (candidateSetSha256 : String)
    (selectedOptionSymbol : Option String) (selectorEmpty : Bool) : SelectionPayload :=
  let params := request.executionParams
  { schemaVersion := "bhiksha.actual_option_selection.v1"
    selectorImplementation := "bhiksha.options.selectors.SingleLegOptionSelector"
    selectorVersion := "2"
    request :=
      { deploymentId := request.deploymentId
        symbol := request.symbol
        direction := request.direction.text
        allowedContractType := requiredContractType request
        dteMin := params.dteMin
        dteMax := params.dteMax
        minOpenInterest := params.minOpenInterest
        targetAbsDeltaMin := params.targetAbsDeltaMin
        targetAbsDeltaMax := params.targetAbsDeltaMax
        maxBidAskSpreadPct := params.maxBidAskSpreadPct
        dteFallbackPolicy := params.fallbackPolicy }
    optionCandidateSetSha256 := candidateSetSha256
    selectedOptionSymbol
    selectorEmpty }

/-- The snapshot of one attempt, from the selection it made or the error it raised. -/
def buildChainSnapshot (sha256 : CanonicalSha256) (lane snapshotId : String)
    (request : OptionSelectionRequest) (contracts : List OptionContractSnapshot)
    (selection : Option OptionSelection) (selectorError : Option SelectorEmptyError) :
    ChainSnapshotAttempt :=
  let params := request.executionParams
  let desired := desiredContracts request contracts
  let nearest := nearestAfterDte params.dteMax none desired
  let captureSet := captureCandidates params nearest (selection.map (·.dte)) desired
  let selectedOptionSymbol := selection.map (·.optionSymbol)
  let rows := captureSet.map (rowForContract params selectedOptionSymbol)
  let candidateSetSha256 := sha256.candidateSet
    (candidateSetPayload (candidateRows request contracts selectedOptionSymbol))
  { snapshotId
    deploymentId := request.deploymentId
    symbol := request.symbol
    lane
    direction := request.direction.text
    allowedContractType := requiredContractType request
    dteMin := params.dteMin
    dteMax := params.dteMax
    minOpenInterest := params.minOpenInterest
    targetAbsDeltaMin := params.targetAbsDeltaMin
    targetAbsDeltaMax := params.targetAbsDeltaMax
    maxBidAskSpreadPct := params.maxBidAskSpreadPct
    dteFallbackPolicy := params.fallbackPolicy
    nearestAfterDte := nearest
    totalCandidates := contracts.length
    capturedCandidates := rows.length
    selectorEmpty := selectorError.isSome
    selectedOptionSymbol
    optionCandidateSetSha256 := candidateSetSha256
    actualOptionSelectionSha256 := sha256.selection
      (selectionPayload request candidateSetSha256 selectedOptionSymbol selectorError.isSome)
    rows }

end Bhiksha.Options
