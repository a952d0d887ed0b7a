import Bhiksha.Library.Outcome
import Bhiksha.Risk.RecoveryRun

/-! A shadow sample authorizes at most one live probe, if every probe that closes leaves the instant
of its exit. -/

namespace Bhiksha

open Library

variable {P : Type} {lab : ExitEdgeLab P}

section Consult

variable {deploymentId policyHash : String} {since now : ℚ} {policy : RailBRecoveryPolicy}

theorem isEligibleCase_after (c : ExitEdgeCase P) :
    Ensures (isEligibleCase lab deploymentId policyHash since now policy c)
      fun keep => keep = true → since < c.entryTimestamp := by
  unfold isEligibleCase
  apply ensures_ite
  · intro hfresh
    constructor
    intro _ _ _
    exact lt_of_le_of_lt (le_max_left _ _) hfresh.2.1
  · exact fun _ => ensures_ok fun hkeep => by cases hkeep

theorem eligibleCases_after (cases : List (ExitEdgeCase P)) :
    Ensures (eligibleCases lab deploymentId policyHash since now policy cases)
      fun eligible => ∀ c ∈ eligible, since < c.entryTimestamp := by
  induction cases with
  | nil => exact ensures_ok fun c hc => by cases hc
  | cons first cases ih =>
    apply ensures_bind (isEligibleCase_after first)
    intro keep hkeep
    apply ensures_bind ih
    intro rest hrest
    apply ensures_pure
    intro c hc
    cases keep with
    | false => exact hrest c hc
    | true =>
      rcases List.mem_cons.mp hc with rfl | hc
      · exact hkeep rfl
      · exact hrest c hc

theorem freshSample_after (cases : List (ExitEdgeCase P)) :
    Ensures (freshSample lab deploymentId policyHash since now policy cases)
      fun sample => ∀ c ∈ sample, since < c.entryTimestamp := by
  apply ensures_bind (eligibleCases_after cases)
  intro eligible heligible
  apply ensures_pure
  intro c hc
  have hmem : c ∈ eligible.insertionSort laterFirst := List.mem_of_mem_take hc
  exact heligible c ((List.mem_insertionSort _).mp hmem)

/-- Every case of an assessed sample was entered after the boundary. -/
theorem assessSample_after (cases : List (ExitEdgeCase P)) :
    Ensures (assessSample lab deploymentId policyHash since now policy cases)
      fun receipt => ∀ c ∈ receipt.sample, since < c.entryTimestamp := by
  have hrefused (reason : RecoveryReason) (count : Option ℕ) :
      ∀ c ∈ (RecoveryReceipt.refused (P := P) reason count).sample, since < c.entryTimestamp :=
    fun c hc => by cases hc
  apply ensures_bind (freshSample_after cases)
  intro sample hsample
  apply ensures_ite
  · exact fun _ => ensures_pure (hrefused _ _)
  intro _
  apply ensures_ite
  · exact fun _ => ensures_pure (hrefused _ _)
  intro _
  apply ensures_bind_any
  intro rows
  apply ensures_bind_any
  intro values
  cases values with
  | none => exact ensures_pure (hrefused _ _)
  | some values =>
    apply ensures_bind_any
    intro means
    apply ensures_bind_any
    intro mean
    apply ensures_ite
    · exact fun _ => ensures_pure hsample
    intro _
    exact ensures_ite (fun _ => ensures_pure hsample) fun _ => ensures_pure hsample

theorem le_foldl_max (exits : List ℚ) (first : ℚ) :
    ∀ t ∈ first :: exits, t ≤ exits.foldl max first := by
  induction exits generalizing first with
  | nil =>
    intro t ht
    rw [List.mem_singleton.mp ht]
    exact le_refl first
  | cons next exits ih =>
    have hnext : max first next ≤ exits.foldl max (max first next) :=
      ih (max first next) _ List.mem_cons_self
    intro t ht
    rcases List.mem_cons.mp ht with rfl | ht
    · exact (le_max_left _ _).trans hnext
    · rcases List.mem_cons.mp ht with rfl | ht
      · exact (le_max_right _ _).trans hnext
      · exact ih _ t (List.mem_cons_of_mem _ ht)

theorem le_evidenceBoundary {demoteResetAt : Option ℚ} {first : ℚ} {exits : List ℚ} {t : ℚ}
    (ht : t ∈ first :: exits) : t ≤ evidenceBoundary demoteResetAt first exits := by
  have hfold := le_foldl_max exits first t ht
  cases demoteResetAt with
  | none => exact hfold
  | some reset => exact hfold.trans (le_max_left _ _)

/-- What an approval vouches for, of the trade rows that it read. -/
structure Approved (deployment : LaneDeployment) (closed openTrades : List TradeRecord)
    (receipt : RecoveryReceipt P) : Prop where
  noneOpen : ∀ t ∈ openTrades, t.deploymentId = deployment.deploymentId → isLiveTrade t = false
  fresh : ∀ t ∈ closed, isLiveTrade t → isTruthy t.entryOrderId → ∀ exit, t.exitFilledAt = some exit →
    ∀ c ∈ receipt.sample, exit < c.entryTimestamp

theorem assessLane_approved (deployment : LaneDeployment) (reads : RecoveryReads P) :
    Ensures (assessLane lab deployment policy reads) fun receipt => receipt.eligible →
      ∃ closed openTrades, reads.closedTrades = .ok closed ∧ reads.openTrades = .ok openTrades ∧
        Approved deployment closed openTrades receipt := by
  apply ensures_bind (ensures_self reads.closedTrades)
  intro closed hclosed
  apply ensures_bind (ensures_self reads.openTrades)
  intro openTrades hopen
  apply ensures_ite
  · exact fun _ => ensures_pure fun h => by cases h
  intro hnone
  cases hexits : liveExits closed with
  | nil => exact ensures_pure fun h => by cases h
  | cons first exits =>
    apply ensures_bind_any
    intro cases
    apply (assessSample_after cases).mono
    intro receipt hafter _
    refine ⟨closed, openTrades, hclosed, hopen, ⟨?_, ?_⟩⟩
    · intro t ht hdeployment
      apply Bool.eq_false_iff.mpr
      intro hlive
      apply hnone
      rw [List.any_eq_true]
      exact ⟨t, ht, by simp [hdeployment, hlive]⟩
    · intro t ht hlive horder exit hexit c hc
      have hmem : exit ∈ first :: exits := by
        rw [← hexits, liveExits, List.mem_filterMap]
        exact ⟨t, List.mem_filter.mpr ⟨ht, by simp [hlive, horder]⟩, hexit⟩
      exact (le_evidenceBoundary hmem).trans_lt (hafter c hc)

theorem approved_of_recoveryCandidate {deployment recovered : LaneDeployment}
    {reads : RecoveryReads P} {receipt : Option (RecoveryReceipt P)}
    (h : recoveryCandidate lab deployment reads = (some recovered, receipt)) :
    ∃ r closed openTrades, receipt = some r ∧ reads.closedTrades = .ok closed ∧
      reads.openTrades = .ok openTrades ∧ Approved deployment closed openTrades r := by
  unfold recoveryCandidate at h
  cases hpolicy : deployment.railBRecovery with
  | none =>
    rw [hpolicy] at h
    cases h
  | some policy =>
    rw [hpolicy] at h
    obtain ⟨hcandidate, hreceipt⟩ := Prod.mk.inj h
    have heligible : (recoveryReceipt lab deployment policy reads).eligible := by
      cases hcap : deployment.maxTradePremiumUsd with
      | none =>
        rw [hcap] at hcandidate
        cases hcandidate
      | some cap =>
        rw [hcap] at hcandidate
        by_contra hnot
        simp [hnot] at hcandidate
    unfold recoveryReceipt at heligible hreceipt
    split at heligible
    · rename_i hauthorized
      rw [if_pos hauthorized] at hreceipt
      cases hlane : assessLane lab deployment policy reads with
      | error e =>
        rw [hlane] at heligible
        cases heligible
      | ok r =>
        rw [hlane] at heligible hreceipt
        obtain ⟨closed, openTrades, hclosed, hopen, happroved⟩ :=
          (assessLane_approved deployment reads).of_ok r hlane heligible
        exact ⟨r, closed, openTrades, hreceipt.symm, hclosed, hopen, happroved⟩
    · cases heligible

end Consult

section Run

/-- What the rows tell of the probes. -/
structure Lane.Accounted (lane : Lane P) : Prop where
  live : ∀ tradeId ∈ lane.probes, ∃ row, lane.trades.get? tradeId = some row ∧ isLiveTrade row ∧
    isTruthy row.entryOrderId
  isProbe : ∀ closing ∈ lane.closings, closing.1 ∈ lane.probes
  dated : ∀ closing ∈ lane.closings, ∃ row exit, lane.trades.get? closing.1 = some row ∧
    isClosedTrade row ∧ row.exitFilledAt = some exit ∧ closing.2 ≤ exit

theorem Lane.new_accounted : (Lane.new : Lane P).Accounted where
  live := fun _ h => by cases h
  isProbe := fun _ h => by cases h
  dated := fun _ h => by cases h

/-- A close of a probe leaves its row an exit time that is not before the instant it closed. -/
def exitDated (e : LaneEvent P) : Bool :=
  match e.call with
  | .closeTrade tradeId closedAt facts =>
    tradeId ∉ e.before.probes ||
      (e.before.trades.get? tradeId).all fun row =>
        (facts.exitFilledAt.or row.exitFilledAt).any fun exit =>
          (e.before.close tradeId closedAt facts).closings.all fun closing =>
            closing.1 ≠ tradeId || closing.2 ≤ exit
  | _ => true

variable {lane : Lane P}

theorem get?_addTrade (trade : TradeRecord) {tradeId : String} {row : TradeRecord}
    (hrow : lane.trades.get? tradeId = some row) :
    (lane.addTrade trade).trades.get? tradeId = some row := by
  unfold Lane.addTrade
  split
  · rename_i hfresh
    have hother : trade.tradeId ≠ tradeId := by
      intro hsame
      rw [hsame, hrow] at hfresh
      cases hfresh
    have hinsert := Table.get?_insert lane.trades trade hfresh tradeId
    rw [if_neg hother, hrow] at hinsert
    exact hinsert
  · exact hrow

theorem get?_addTrade_self (trade : TradeRecord) (hfresh : lane.trades.get? trade.tradeId = none) :
    (lane.addTrade trade).trades.get? trade.tradeId = some trade := by
  unfold Lane.addTrade
  rw [dif_pos hfresh]
  exact (Table.get?_insert lane.trades trade hfresh trade.tradeId).trans (if_pos rfl)

theorem probes_addTrade (trade : TradeRecord) : (lane.addTrade trade).probes = lane.probes := by
  unfold Lane.addTrade
  split <;> rfl

theorem closings_addTrade (trade : TradeRecord) :
    (lane.addTrade trade).closings = lane.closings := by
  unfold Lane.addTrade
  split <;> rfl

theorem Lane.Accounted.addTrade (h : lane.Accounted) (trade : TradeRecord) :
    (lane.addTrade trade).Accounted where
  live := by
    rw [probes_addTrade]
    intro tradeId hprobe
    obtain ⟨row, hrow, hlive⟩ := h.live tradeId hprobe
    exact ⟨row, get?_addTrade trade hrow, hlive⟩
  isProbe := by
    rw [probes_addTrade, closings_addTrade]
    exact h.isProbe
  dated := by
    rw [closings_addTrade]
    intro closing hclosing
    obtain ⟨row, exit, hrow, hdated⟩ := h.dated closing hclosing
    exact ⟨row, exit, get?_addTrade trade hrow, hdated⟩

/-- The row of a probe that filled counts as live evidence once it closes. -/
theorem probeRow_live (deploymentId tradeId status : String) (orderId : BrokerOrderId) :
    isLiveTrade (probeRow deploymentId tradeId status orderId) ∧
      isTruthy (probeRow deploymentId tradeId status orderId).entryOrderId := by
  constructor
  · simp [isLiveTrade, probeRow, orderId.notShadow, orderId.notDryRun]
  · simp [isTruthy, probeRow, orderId.nonempty]

theorem Lane.Accounted.settle (h : lane.Accounted) (deploymentId : String)
    (outcome : ProbeOutcome) : (lane.settle deploymentId outcome).Accounted := by
  cases outcome with
  | notTraded => exact h
  | cancelled tradeId orderId => exact h.addTrade _
  | filled tradeId orderId =>
    by_cases hfresh : lane.trades.get? tradeId = none
    · let opened := probeRow deploymentId tradeId "open_protected" orderId
      have hadded := h.addTrade opened
      have hsettle : lane.settle deploymentId (.filled tradeId orderId) =
          { lane.addTrade opened with probes := tradeId :: lane.probes } := if_pos hfresh
      rw [hsettle, ← probes_addTrade opened]
      refine ⟨?_, ?_, hadded.dated⟩
      · intro probe hprobe
        rcases List.mem_cons.mp hprobe with rfl | hprobe
        · exact ⟨opened, get?_addTrade_self opened hfresh, probeRow_live _ _ _ _⟩
        · exact hadded.live probe hprobe
      · exact fun closing hclosing => List.mem_cons_of_mem _ (hadded.isProbe closing hclosing)
    · have hsettle : lane.settle deploymentId (.filled tradeId orderId) = lane := if_neg hfresh
      rw [hsettle]
      exact h

theorem get?_close {tradeId : String} {closedAt : ℚ} {facts : ExitFacts} {other : String}
    {row : TradeRecord} (hrow : lane.trades.get? other = some row) :
    (lane.close tradeId closedAt facts).trades.get? other =
      some (if other = tradeId then row.markClosed facts else row) := by
  have hid : row.tradeId = other := Table.key_of_get? hrow
  unfold Lane.close
  refine (Table.get?_update _ _ (TradeRecord.markClosed facts) (fun _ => rfl) other).trans ?_
  rw [hrow]
  by_cases hsame : other = tradeId
  · simp [hid, hsame]
  · simp [hid, hsame]

theorem Lane.Accounted.close (h : lane.Accounted) {tradeId : String} {closedAt : ℚ}
    {facts : ExitFacts}
    (hdated : tradeId ∈ lane.probes → ∀ row, lane.trades.get? tradeId = some row →
      ∃ exit, facts.exitFilledAt.or row.exitFilledAt = some exit ∧
        ∀ closing ∈ (lane.close tradeId closedAt facts).closings,
          closing.1 = tradeId → closing.2 ≤ exit) :
    (lane.close tradeId closedAt facts).Accounted where
  live := by
    intro probe hprobe
    obtain ⟨row, hrow, hlive⟩ := h.live probe hprobe
    refine ⟨_, get?_close hrow, ?_⟩
    split
    · exact hlive
    · exact hlive
  isProbe := by
    intro closing hclosing
    have hcases : closing = (tradeId, closedAt) ∧ tradeId ∈ lane.probes ∨
        closing ∈ lane.closings := by
      unfold Lane.close at hclosing
      dsimp only at hclosing
      split at hclosing
      · rename_i hprobe
        rcases List.mem_cons.mp hclosing with rfl | hclosing
        · exact Or.inl ⟨rfl, hprobe.1⟩
        · exact Or.inr hclosing
      · exact Or.inr hclosing
    rcases hcases with ⟨rfl, hprobe⟩ | hclosing
    · exact hprobe
    · exact h.isProbe closing hclosing
  dated := by
    intro closing hclosing
    by_cases hsame : closing.1 = tradeId
    · have hprobe : tradeId ∈ lane.probes := by
        unfold Lane.close at hclosing
        dsimp only at hclosing
        split at hclosing
        · rename_i hprobe
          exact hprobe.1
        · rw [← hsame]
          exact h.isProbe closing hclosing
      obtain ⟨row, hrow, _⟩ := h.live tradeId hprobe
      obtain ⟨exit, hexit, hlate⟩ := hdated hprobe row hrow
      refine ⟨row.markClosed facts, exit, ?_, rfl, hexit, hlate closing hclosing hsame⟩
      rw [hsame, get?_close hrow, if_pos rfl]
    · have hold : closing ∈ lane.closings := by
        unfold Lane.close at hclosing
        dsimp only at hclosing
        split at hclosing
        · rcases List.mem_cons.mp hclosing with rfl | hclosing
          · exact absurd rfl hsame
          · exact hclosing
        · exact hclosing
      obtain ⟨row, exit, hrow, hrest⟩ := h.dated closing hold
      exact ⟨row, exit, (get?_close hrow).trans (by rw [if_neg hsame]), hrest⟩

theorem laneStep_accounted (call : LaneCall P) (lane : Lane P)
    (hdated : exitDated (event (laneStep lab) call lane)) (h : lane.Accounted) :
    (laneStep lab call lane).2.Accounted := by
  cases call with
  | consult deployment now demoteResetAt failed outcome =>
    unfold laneStep
    dsimp only
    split
    · exact h.settle deployment.deploymentId outcome
    · exact h
  | openTrade trade => exact h.addTrade trade
  | closeTrade tradeId closedAt facts =>
    apply h.close
    intro hprobe row hrow
    have hexit : (facts.exitFilledAt.or row.exitFilledAt).any fun exit =>
        (lane.close tradeId closedAt facts).closings.all fun closing =>
          closing.1 ≠ tradeId || closing.2 ≤ exit := by
      simpa [exitDated, event, hprobe, hrow] using hdated
    obtain ⟨exit, hsome, hlate⟩ := (Option.any_eq_true _ _).mp hexit
    refine ⟨exit, hsome, ?_⟩
    intro closing hclosing hsame
    have hle := List.all_eq_true.mp hlate closing hclosing
    simpa [hsame] using hle
  | observe c => exact ⟨h.live, h.isProbe, h.dated⟩

/-- An approval looks at no case from before a probe of the lane closed. -/
def FreshSample (e : LaneEvent P) : Prop :=
  ∀ deployment now demoteResetAt failed outcome receipt,
    e.call = .consult deployment now demoteResetAt failed outcome → e.result = some receipt →
      ∀ closing ∈ e.before.closings, ∀ row, e.before.trades.get? closing.1 = some row →
        row.deploymentId = deployment.deploymentId →
          ∀ c ∈ receipt.sample, ¬c.entryTimestamp < closing.2

/-- An approval comes with no live trade of the lane open or pending. -/
def NoneOpen (e : LaneEvent P) : Prop :=
  ∀ deployment now demoteResetAt failed outcome receipt,
    e.call = .consult deployment now demoteResetAt failed outcome → e.result = some receipt →
      ∀ row ∈ e.before.trades.rows, row.deploymentId = deployment.deploymentId →
        isLiveTrade row → isClosedTrade row

theorem ok_of_orFail {α : Type} {failure : Option PyException} {value a : α}
    (h : orFail failure value = .ok a) : value = a := by
  cases failure with
  | none => exact Except.ok.inj h
  | some e => cases h

/-- An approval has read the closed and the open trades of the lane. -/
theorem approved_of_consult {deployment : LaneDeployment} {now : ℚ} {demoteResetAt : Option ℚ}
    {failed : FailedReads} {outcome : ProbeOutcome} {receipt : RecoveryReceipt P}
    (hresult : (laneStep lab (.consult deployment now demoteResetAt failed outcome) lane).1 =
      some receipt) :
    Approved deployment
      (lane.trades.rows.filter fun t => t.deploymentId = deployment.deploymentId && isClosedTrade t)
      (lane.trades.rows.filter fun t => !isClosedTrade t) receipt := by
  unfold laneStep at hresult
  dsimp only at hresult
  split at hresult
  · rename_i recovered r hcandidate
    obtain ⟨r', closed, openTrades, hr, hclosed, hopen, happroved⟩ :=
      approved_of_recoveryCandidate hcandidate
    have hreceipt : r' = receipt := Option.some.inj (hr.symm.trans hresult)
    rw [hreceipt, ← ok_of_orFail hclosed, ← ok_of_orFail hopen] at happroved
    exact happroved
  · cases hresult

theorem freshSample_of_accounted {call : LaneCall P} (h : lane.Accounted) :
    FreshSample (event (laneStep lab) call lane) := by
  rintro deployment now demoteResetAt failed outcome receipt rfl hresult closing hclosing row hrow
    hdeployment c hc
  have happroved := approved_of_consult hresult
  -- the row of the probe is among the closed ones that the consult reads, with the instant of its exit
  obtain ⟨row', exit, hrow', hisClosed, hexit, hle⟩ := h.dated closing hclosing
  obtain ⟨row'', hrow'', hlive, htruthy⟩ := h.live _ (h.isProbe closing hclosing)
  have hrow₁ : row' = row := Option.some.inj (hrow'.symm.trans hrow)
  have hrow₂ : row'' = row := Option.some.inj (hrow''.symm.trans hrow)
  rw [hrow₁] at hisClosed hexit
  rw [hrow₂] at hlive htruthy
  have hmem : row ∈ lane.trades.rows.filter fun t =>
      t.deploymentId = deployment.deploymentId && isClosedTrade t := by
    apply List.mem_filter.mpr
    exact ⟨Table.mem_of_get? hrow, by simp [hdeployment, hisClosed]⟩
  have hfresh := happroved.fresh row hmem hlive htruthy exit hexit c hc
  exact not_lt.mpr (hle.trans hfresh.le)

theorem noneOpen_of_consult (call : LaneCall P) (lane : Lane P) :
    NoneOpen (event (laneStep lab) call lane) := by
  rintro deployment now demoteResetAt failed outcome receipt rfl hresult row hrow hdeployment hlive
  have happroved := approved_of_consult hresult
  by_contra hnot
  have hmem : row ∈ lane.trades.rows.filter fun t => !isClosedTrade t := by
    apply List.mem_filter.mpr
    exact ⟨hrow, by simpa using hnot⟩
  have hshadow := happroved.noneOpen row hmem hdeployment
  rw [hshadow] at hlive
  cases hlive

end Run

namespace OneLane

/-- Every case is paired and wins its risk; a day starts at midnight UTC. -/
def midnightLab : ExitEdgeLab Unit where
  analyzeCases cases := .ok (cases.map fun c => ⟨c.tradeId, "paired", [("m", 100)], "m", 100⟩)
  canonicalPolicyHash := fun _ => "h"
  newYorkDate := fun t => ⌊t / secondsPerDay⌋

def policy : RailBRecoveryPolicy :=
  ⟨20, 5, 30, 1 / 10, 1 / 2, 1 / 5, by decide, by decide, by decide, by norm_num, by norm_num,
    by norm_num⟩

def lane : LaneDeployment where
  deploymentId := "D"
  railBRecovery := some policy
  shadowOnly := false
  runtimeMode := "live_approval_gated"
  managementExit := some "m"
  exitPolicyHash := some "h"
  maxTradePremiumUsd := some 1000
  maxContracts := none

def orderId (id : String) (h : id ≠ "" ∧ id ≠ shadowEntryOrderId ∧ id.startsWith "DRY_RUN" = false) :
    BrokerOrderId := ⟨id, h.1, h.2.1, h.2.2⟩

/-- Four cases on each of five days. -/
def shadowCase (n : ℕ) : ExitEdgeCase Unit where
  tradeId := String.ofList (List.replicate n 'S')
  deploymentId := "D"
  entryTimestamp := secondsPerDay * (1 + n / 4)
  quantity := 1
  entryFillKind := some "modeled_ask_touch"
  namedProfiles := some [()]

def consult (day : ℚ) (outcome : ProbeOutcome) : LaneCall Unit :=
  .consult lane (day * secondsPerDay) none {} outcome

/-- A first live trade, the sample, and a probe that closes on noon of the seventh day. -/
def probeCalls (facts : ExitFacts) : List (LaneCall Unit) :=
  [.openTrade (probeRow "D" "T" "open_protected" (orderId "L" (by decide +kernel))),
    .closeTrade "T" 0 { exitFilledAt := some 0 }] ++
  (List.range 20).map (fun n => .observe (shadowCase n)) ++
  [consult 6 (.filled "P" (orderId "M" (by decide +kernel))),
    .closeTrade "P" (13 / 2 * secondsPerDay) facts]

/-- Four cases on each of the five days after it. -/
def renewedCalls : List (LaneCall Unit) :=
  (List.range 20).map (fun n => .observe (shadowCase (24 + n)))

end OneLane

/-- No approval comes with a live trade of the lane open; and in a history in which every close of a
probe dates its exit, every approval rests on cases that were entered after the earlier probes closed. -/
theorem fresh_sample_for_every_probe (lab : ExitEdgeLab P) (calls : List (LaneCall P)) :
    (∀ e ∈ laneHistory lab calls, NoneOpen e) ∧
      ((∀ e ∈ laneHistory lab calls, exitDated e) → ∀ e ∈ laneHistory lab calls, FreshSample e) := by
  constructor
  · exact forall_mem_trace noneOpen_of_consult Lane.new calls
  · intro hdated e he
    have hrun := invariant_of_events laneStep_accounted Lane.new_accounted hdated he
    rw [hrun.2]
    exact freshSample_of_accounted hrun.1

open OneLane in
/-- After a probe whose exit is dated, twenty new cases bring the next approval. -/
theorem fresh_sample_for_every_probe_of_dated :
    let calls := probeCalls { exitFilledAt := some (13 / 2 * secondsPerDay) } ++ renewedCalls
    let again := event (laneStep midnightLab) (consult 12 .notTraded)
      (finish (laneStep midnightLab) Lane.new calls)
    (again.result.any fun receipt => receipt.sample.length = 20) = true ∧
      NoneOpen again ∧ FreshSample again := by
  intro calls again
  have hmem : again ∈ laneHistory midnightLab (calls ++ [consult 12 .notTraded]) := by
    rw [laneHistory, trace_append]
    exact List.mem_append_right _ List.mem_cons_self
  obtain ⟨hopen, hfresh⟩ :=
    fresh_sample_for_every_probe midnightLab (calls ++ [consult 12 .notTraded])
  refine ⟨by decide +kernel, hopen again hmem, hfresh ?_ again hmem⟩
  apply List.all_eq_true.mp
  decide +kernel

open OneLane in
/-- A probe that closes without an exit time leaves its sample to be used again. -/
theorem undated_exit_reuses_sample :
    ¬∀ (lab : ExitEdgeLab Unit) (calls : List (LaneCall Unit)),
      ∀ e ∈ laneHistory lab calls, NoneOpen e ∧ FreshSample e := by
  intro h
  let closed := finish (laneStep midnightLab) Lane.new (probeCalls {})
  let again := event (laneStep midnightLab) (consult 7 .notTraded) closed
  have hmem : again ∈ laneHistory midnightLab (probeCalls {} ++ [consult 7 .notTraded]) := by
    rw [laneHistory, trace_append]
    exact List.mem_append_right _ List.mem_cons_self
  have hclosing : ("P", 13 / 2 * secondsPerDay) ∈ closed.closings := by decide +kernel
  have hrow : (closed.trades.get? "P").map TradeRecord.deploymentId = some "D" := by
    decide +kernel
  have hold : (again.result.any fun receipt =>
      receipt.sample.any fun c => c.entryTimestamp < 13 / 2 * secondsPerDay) = true := by
    decide +kernel
  obtain ⟨row, hget, hdeployment⟩ := Option.map_eq_some_iff.mp hrow
  obtain ⟨receipt, hreceipt, hsample⟩ := (Option.any_eq_true _ _).mp hold
  obtain ⟨c, hc, hbefore⟩ := List.any_eq_true.mp hsample
  have hfresh := (h midnightLab _ again hmem).2 lane _ none {} .notTraded receipt rfl hreceipt
  exact hfresh _ hclosing row hget hdeployment c hc (of_decide_eq_true hbefore)

end Bhiksha
