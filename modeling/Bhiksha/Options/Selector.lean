import Bhiksha.Library.SortedBy
import Bhiksha.Strategy.MarketImpulse
import Mathlib.Data.Prod.Lex
import Mathlib.Data.String.Basic

/-! The choice of one option contract from a chain. -/

namespace Bhiksha.Options

open Python Library

/-- The execution parameters that the selector and the chain snapshot read, with the defaults of
their lookups. -/
structure ExecutionParams where
  dteMin : ℤ := 0
  dteMax : ℤ := 7
  targetAbsDeltaMin : Option ℚ := none
  targetAbsDeltaMax : Option ℚ := none
  dteFallbackPolicy : Option String := none
  dteFallbackMax : Option ℤ := none
  longSignalContractType : String := "CALL"
  shortSignalContractType : String := "PUT"
  entryCandidateRank : ℤ := 0
  minOpenInterest : ℤ := 0
  maxBidAskSpreadPct : Option ℚ := none
deriving DecidableEq, Repr

structure OptionSelectionRequest where
  deploymentId : String
  symbol : String
  direction : SignalDirection
  executionParams : ExecutionParams
deriving DecidableEq, Repr

structure OptionContractSnapshot where
  optionSymbol : String
  underlyingSymbol : String
  contractType : String
  expirationDate : String
  dte : ℤ
  strike : ℚ
  delta : Option ℚ
  bid : Option ℚ
  ask : Option ℚ
  openInterest : Option ℤ := none
deriving DecidableEq, Repr

namespace OptionContractSnapshot

def absDelta (contract : OptionContractSnapshot) : Option ℚ := contract.delta.map fun delta => |delta|

def spreadPct (contract : OptionContractSnapshot) : Option ℚ :=
  match contract.bid, contract.ask with
  | some bid, some ask =>
    if ask ≤ 0 then none
    else
      let mid := (bid + ask) / 2
      if mid ≤ 0 then none else some ((ask - bid) / mid)
  | _, _ => none

end OptionContractSnapshot

structure OptionSelection where
  optionSymbol : String
  contractType : String
  dte : ℤ
  absDelta : Option ℚ
  bid : Option ℚ := none
  ask : Option ℚ := none
  strike : Option ℚ := none
  openInterest : Option ℤ := none
  openInterestPercentile : Option ℚ := none
  dteFallbackPolicy : Option String := none
  requestedDteMin : Option ℤ := none
  requestedDteMax : Option ℤ := none
  attemptedFallbackDtesCount : ℕ := 0
deriving DecidableEq, Repr

/-- Why a contract is left out: the keys of the elimination breakdown, in its order. -/
inductive Reason where
  | wrongUnderlying
  | wrongContractType
  | dteOutOfRange
  | openInterestBelowMin
  | deltaBelowMin
  | deltaAboveMax
  | spreadAboveMax
  | openInterestUnavailable
deriving DecidableEq, Repr

namespace Reason

def text : Reason → String
  | wrongUnderlying => "wrong_underlying"
  | wrongContractType => "wrong_contract_type"
  | dteOutOfRange => "dte_out_of_range"
  | openInterestBelowMin => "open_interest_below_min"
  | deltaBelowMin => "delta_below_min"
  | deltaAboveMax => "delta_above_max"
  | spreadAboveMax => "spread_above_max"
  | openInterestUnavailable => "open_interest_unavailable"

def all : List Reason :=
  [wrongUnderlying, wrongContractType, dteOutOfRange, openInterestBelowMin, deltaBelowMin,
    deltaAboveMax, spreadAboveMax, openInterestUnavailable]

end Reason

/-- Require evidence of open interest; the quote itself is validated after selection. -/
def hardQuoteReason (contract : OptionContractSnapshot) : Option Reason :=
  match contract.openInterest with
  | none => some .openInterestUnavailable
  | some interest => if interest ≤ 0 then some .openInterestUnavailable else none

/-- `eliminated`: how many contracts each filter left out. -/
structure Eliminated where
  totalCandidates : ℕ
  count : Reason → ℕ

namespace Eliminated

def start (total : ℕ) : Eliminated := { totalCandidates := total, count := fun _ => 0 }

def bump (eliminated : Eliminated) (reason : Reason) : Eliminated :=
  { eliminated with
    count := fun key => if key = reason then eliminated.count key + 1 else eliminated.count key }

/-- The breakdown as the error's message spells it: the counts that are not zero. -/
def detail (eliminated : Eliminated) : String :=
  let entries := ("total_candidates", eliminated.totalCandidates) ::
    Reason.all.map fun reason => (reason.text, eliminated.count reason)
  ", ".intercalate ((entries.filter fun entry => entry.2 ≠ 0).map fun entry =>
    entry.1 ++ "=" ++ toString entry.2)

end Eliminated

inductive Diagnostics where
  | noCandidate (requestedDteMin requestedDteMax : ℤ) (availableDtes : List ℤ)
      (dteWindowCandidates : ℕ) (dteFallbackPolicy : String) (nearestAfterDte : Option ℤ)
  | rankedCandidatesExhausted (eligibleCandidates : ℕ)
deriving DecidableEq, Repr

structure SelectorEmptyError where
  deploymentId : String
  breakdown : Eliminated
  diagnostics : Diagnostics

def SelectorEmptyError.message (error : SelectorEmptyError) : String :=
  let detail := error.breakdown.detail
  s!"No contracts matched the execution profile for {error.deploymentId} (" ++
    (if detail = "" then "no candidates supplied" else detail) ++ ")"

/-- What a selection raises; a negative rank can also point before the first candidate. -/
inductive SelectFailure where
  | selectorEmpty (error : SelectorEmptyError)
  | indexError

namespace ExecutionParams

/-- `str(params.get("dte_fallback_policy") or "strict").strip().lower()`. -/
def fallbackPolicy (params : ExecutionParams) : String :=
  let policy := match params.dteFallbackPolicy with
    | none => "strict"
    | some text => if text = "" then "strict" else text
  (strip policy).toLower

def InWindow (params : ExecutionParams) (dte : ℤ) : Prop :=
  params.dteMin ≤ dte ∧ dte ≤ params.dteMax

instance (params : ExecutionParams) (dte : ℤ) : Decidable (params.InWindow dte) :=
  inferInstanceAs (Decidable (_ ∧ _))

/-- `delta_min is not None and (abs_delta is None or abs_delta < float(delta_min))`. -/
def deltaBelowMin (params : ExecutionParams) (contract : OptionContractSnapshot) : Bool :=
  match params.targetAbsDeltaMin, contract.absDelta with
  | none, _ => false
  | some _, none => true
  | some bound, some delta => delta < bound

/-- `delta_max is not None and (abs_delta is None or abs_delta > float(delta_max))`. -/
def deltaAboveMax (params : ExecutionParams) (contract : OptionContractSnapshot) : Bool :=
  match params.targetAbsDeltaMax, contract.absDelta with
  | none, _ => false
  | some _, none => true
  | some bound, some delta => bound < delta

end ExecutionParams

def requiredContractType (request : OptionSelectionRequest) : String :=
  match request.direction with
  | .long => request.executionParams.longSignalContractType.toUpper
  | .short => request.executionParams.shortSignalContractType.toUpper

def targetDelta (deltaMin deltaMax : Option ℚ) : ℚ :=
  match deltaMin, deltaMax with
  | none, none => 3 / 10
  | none, some deltaMax => deltaMax
  | some deltaMin, none => deltaMin
  | some deltaMin, some deltaMax => (deltaMin + deltaMax) / 2

def passesNonDteFilters (params : ExecutionParams) (contract : OptionContractSnapshot) : Bool :=
  if (hardQuoteReason contract).isSome then false
  else if params.deltaBelowMin contract then false
  else if params.deltaAboveMax contract then false
  else true

/-- `sorted({contract.dte ...})` over the contracts that the condition keeps. -/
def sortedDtes (keep : ℤ → Bool) (contracts : List OptionContractSnapshot) : List ℤ :=
  sortedBy id ((contracts.map (·.dte)).filter keep).dedup

def nearestAfterDte (dteMax : ℤ) (fallbackDteMax : Option ℤ)
    (contracts : List OptionContractSnapshot) : Option ℤ :=
  (sortedDtes (fun dte => dteMax < dte ∧ ∀ bound ∈ fallbackDteMax, dte ≤ bound) contracts).head?

/-- The expiries after the window that the fallback tries, in its order: every one up to an
explicit bound, and only the nearest where none is set. -/
def attemptedDtes (params : ExecutionParams) (contracts : List OptionContractSnapshot) : List ℤ :=
  let laterDtes := sortedDtes
    (fun dte => params.dteMax < dte ∧ ∀ bound ∈ params.dteFallbackMax, dte ≤ bound) contracts
  if params.dteFallbackMax.isSome then laterDtes else laterDtes.take 1

/-- The walk over the expiries; `count` of them are behind it. -/
def nearestAfterWalk (params : ExecutionParams) (contracts : List OptionContractSnapshot) :
    ℕ → List ℤ → List OptionContractSnapshot × ℕ
  | count, [] => ([], count)
  | count, dte :: rest =>
    let candidates := contracts.filter fun contract =>
      contract.dte = dte ∧ passesNonDteFilters params contract
    if candidates = [] then nearestAfterWalk params contracts (count + 1) rest
    else (candidates, count + 1)

def nearestAfterCandidates (params : ExecutionParams) (contracts : List OptionContractSnapshot) :
    List OptionContractSnapshot × ℕ :=
  nearestAfterWalk params contracts 0 (attemptedDtes params contracts)

def openInterestPercentile (chosen : OptionContractSnapshot)
    (cohort : List OptionContractSnapshot) : Option ℚ :=
  match chosen.openInterest with
  | none => none
  | some interest =>
    if cohort = [] then none
    else some ((cohort.countP fun contract => ∃ other ∈ contract.openInterest, other ≤ interest) /
      cohort.length)

/-- The accumulators of the loop over the chain. -/
structure Scan where
  eliminated : Eliminated
  filtered : List OptionContractSnapshot := []
  desiredContracts : List OptionContractSnapshot := []
  dteWindowCandidates : ℕ := 0

def Scan.eliminate (scan : Scan) (reason : Reason) : Scan :=
  { scan with eliminated := scan.eliminated.bump reason }

/-- One turn of the loop. -/
def scanContract (request : OptionSelectionRequest) (scan : Scan)
    (contract : OptionContractSnapshot) : Scan :=
  let params := request.executionParams
  if contract.underlyingSymbol ≠ request.symbol then scan.eliminate .wrongUnderlying
  else if contract.contractType.toUpper ≠ requiredContractType request then
    scan.eliminate .wrongContractType
  else
    let scan := { scan with desiredContracts := scan.desiredContracts ++ [contract] }
    if ¬ params.InWindow contract.dte then scan.eliminate .dteOutOfRange
    else
      let scan := { scan with dteWindowCandidates := scan.dteWindowCandidates + 1 }
      match hardQuoteReason contract with
      | some hardReason => scan.eliminate hardReason
      | none =>
        if params.deltaBelowMin contract then scan.eliminate .deltaBelowMin
        else if params.deltaAboveMax contract then scan.eliminate .deltaAboveMax
        else { scan with filtered := scan.filtered ++ [contract] }

def scanContracts (request : OptionSelectionRequest) (contracts : List OptionContractSnapshot) :
    Scan :=
  contracts.foldl (scanContract request) { eliminated := .start contracts.length }

/-- `option_symbol.replace(" ", "").upper()`. -/
def normalizedSymbol (contract : OptionContractSnapshot) : String :=
  (String.ofList (contract.optionSymbol.toList.filter (· ≠ ' '))).toUpper

/-- What the candidates are ranked by. A missing or zero delta reads as 99, and so does a missing
spread. -/
def rankKey (target : ℚ) (contract : OptionContractSnapshot) : ℚ ×ₗ ℤ ×ₗ ℚ ×ₗ String :=
  let delta := match contract.absDelta with
    | none => 99
    | some delta => if delta = 0 then 99 else delta
  toLex (|delta - target|, toLex (contract.dte,
    toLex (contract.spreadPct.getD 99, normalizedSymbol contract)))

/-- `ranked[rank]`, where a negative rank counts from the end. -/
def pythonGet? (ranked : List OptionContractSnapshot) (rank : ℤ) : Option OptionContractSnapshot :=
  let index := if rank < 0 then rank + ranked.length else rank
  if index < 0 then none else ranked[index.toNat]?

/-- What the ranking starts from: the contracts that passed, the policy that supplied them where
it was the fallback, and how many expiries that one tried. -/
structure Candidates where
  filtered : List OptionContractSnapshot
  fallbackPolicyApplied : Option String
  attemptedFallbackDtesCount : ℕ

def candidatesOf (params : ExecutionParams) (scan : Scan) : Candidates :=
  if scan.filtered = [] ∧ params.fallbackPolicy = "allow_nearest_after" then
    let (filtered, attempted) := nearestAfterCandidates params scan.desiredContracts
    { filtered, attemptedFallbackDtesCount := attempted
      fallbackPolicyApplied := if filtered = [] then none else some params.fallbackPolicy }
  else { filtered := scan.filtered, fallbackPolicyApplied := none, attemptedFallbackDtesCount := 0 }

def selectionOf (params : ExecutionParams) (desired : List OptionContractSnapshot)
    (candidates : Candidates) (chosen : OptionContractSnapshot) : OptionSelection :=
  let cohort := desired.filter fun contract => contract.openInterest.isSome ∧
    if candidates.fallbackPolicyApplied.isSome then contract.dte = chosen.dte
    else params.InWindow contract.dte
  { optionSymbol := chosen.optionSymbol
    contractType := chosen.contractType
    dte := chosen.dte
    absDelta := chosen.absDelta
    bid := chosen.bid
    ask := chosen.ask
    strike := some chosen.strike
    openInterest := chosen.openInterest
    openInterestPercentile := openInterestPercentile chosen cohort
    dteFallbackPolicy := candidates.fallbackPolicyApplied
    requestedDteMin := candidates.fallbackPolicyApplied.map fun _ => params.dteMin
    requestedDteMax := candidates.fallbackPolicyApplied.map fun _ => params.dteMax
    attemptedFallbackDtesCount := candidates.attemptedFallbackDtesCount }

def noCandidateError (request : OptionSelectionRequest) (scan : Scan) : SelectorEmptyError :=
  let params := request.executionParams
  { deploymentId := request.deploymentId
    breakdown := scan.eliminated
    diagnostics := .noCandidate params.dteMin params.dteMax
      (sortedDtes (fun _ => true) scan.desiredContracts) scan.dteWindowCandidates
      params.fallbackPolicy (nearestAfterDte params.dteMax none scan.desiredContracts) }

def ranked (params : ExecutionParams) (filtered : List OptionContractSnapshot) :
    List OptionContractSnapshot :=
  sortedBy (rankKey (targetDelta params.targetAbsDeltaMin params.targetAbsDeltaMax)) filtered

/-- `SingleLegOptionSelector.select`. -/
def select (request : OptionSelectionRequest) (contracts : List OptionContractSnapshot) :
    Except SelectFailure OptionSelection :=
  let params := request.executionParams
  let scan := scanContracts request contracts
  let candidates := candidatesOf params scan
  if candidates.filtered = [] then .error (.selectorEmpty (noCandidateError request scan))
  else
    let ranked := ranked params candidates.filtered
    if (ranked.length : ℤ) ≤ params.entryCandidateRank then
      .error (.selectorEmpty
        { deploymentId := request.deploymentId
          breakdown := scan.eliminated
          diagnostics := .rankedCandidatesExhausted ranked.length })
    else
      match pythonGet? ranked params.entryCandidateRank with
      | none => .error .indexError
      | some chosen => .ok (selectionOf params scan.desiredContracts candidates chosen)

end Bhiksha.Options
