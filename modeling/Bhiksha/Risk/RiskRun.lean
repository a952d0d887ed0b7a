import Bhiksha.Library.Trace
import Bhiksha.Risk.SizedEntry

/-! Runs of consults in one session. A call carries what the repositories answer it, so trades, fills
and budget rows change arbitrarily from call to call. -/

namespace Bhiksha

open Library

inductive RiskCall where
  | allowEntry (deploymentId : String) (reads : BookReads)
  | bookActions (reads : BookReads)
  | reserveSizedEntry (entry : SizedEntry) (reads : BookReads)
  | releaseSizedEntry (tradeId : String)
  | commitSizedEntry (tradeId : String)

inductive RiskResult where
  | entry (decision : Except String EntryDecision)
  | book (result : BookActionsResult)
  | sized (result : SizedEntryResult)
  | done

/-- The call returned `allowed=True`. -/
def RiskResult.allowed : RiskResult → Bool
  | .entry (.ok decision) => decision.allowed
  | .sized result => result.decision.allowed
  | _ => false

section Step

variable (newYorkDate : ℚ → ℤ) (settings : RiskSettings)

def riskStep (call : RiskCall) (manager : RiskManager) : RiskResult × RiskManager :=
  match call with
  | .allowEntry deploymentId reads =>
    let (decision, manager) := allowEntry newYorkDate settings deploymentId reads manager
    (.entry decision, manager)
  | .bookActions reads =>
    let (result, manager) := bookActions newYorkDate settings reads manager
    (.book result, manager)
  | .reserveSizedEntry entry reads =>
    let (result, manager) := reserveSizedEntry newYorkDate settings entry reads manager
    (.sized result, manager)
  | .releaseSizedEntry _ | .commitSizedEntry _ => (.done, manager)

/-- The Rail A status that the call computes, if it gets that far. -/
def RiskCall.observed (call : RiskCall) (manager : RiskManager) : Option RailAStatus :=
  match call with
  | .allowEntry _ reads => some (computeRailAStatus newYorkDate settings reads)
  | .bookActions reads =>
    if manager.cache.any fun entry => entry.1 = ⌊reads.now / 60⌋ then none
    else some (computeRailAStatus newYorkDate settings reads)
  | .reserveSizedEntry entry reads =>
    if settings.prospectiveLossEnabled && (entry.readBook settings reads).isOk then
      some (computeRailAStatus newYorkDate settings reads)
    else none
  | .releaseSizedEntry _ | .commitSizedEntry _ => none

/-- The calls of a session, from a fresh manager. -/
def session (calls : List RiskCall) : List (Event RiskManager RiskCall RiskResult) :=
  trace (riskStep newYorkDate settings) {} calls

end Step

section Latch

variable {newYorkDate : ℚ → ℤ} {settings : RiskSettings}

/-- Two managers that differ at most in what Rail B has blocked. -/
def RiskManager.SameLatches (manager manager' : RiskManager) : Prop :=
  manager'.sessionHalted = manager.sessionHalted ∧
    manager'.sessionFlattened = manager.sessionFlattened ∧ manager'.cache = manager.cache

theorem evaluateRailB_latches {deploymentId : String} {reads : BookReads}
    {manager manager' : RiskManager} {blocked : Bool}
    (h : evaluateRailB settings deploymentId reads manager = .ok (blocked, manager')) :
    manager.SameLatches manager' := by
  unfold evaluateRailB at h
  split at h
  · cases h
    exact ⟨rfl, rfl, rfl⟩
  split at h
  · cases h
    exact ⟨rfl, rfl, rfl⟩
  obtain ⟨trades, -, h⟩ := Except.bind_eq_ok_iff.mp h
  obtain ⟨partials, -, h⟩ := Except.bind_eq_ok_iff.mp h
  simp only at h
  split at h <;> cases h <;> exact ⟨rfl, rfl, rfl⟩

/-- The latches after an entry consult: it halts the session on a breach and touches nothing else. -/
theorem allowEntry_latches (deploymentId : String) (reads : BookReads) (manager : RiskManager) :
    RiskManager.SameLatches
      { manager with
        sessionHalted :=
          manager.sessionHalted || (computeRailAStatus newYorkDate settings reads).breached }
      (allowEntry newYorkDate settings deploymentId reads manager).2 := by
  unfold allowEntry
  simp only
  split
  · exact ⟨rfl, rfl, rfl⟩
  split
  · exact ⟨rfl, rfl, rfl⟩
  split
  · exact ⟨rfl, rfl, rfl⟩
  · next h => exact evaluateRailB_latches h
  · next h => exact evaluateRailB_latches h

theorem prospectiveRefusal_latches (entry : SizedEntry) (reads : BookReads) (manager : RiskManager)
    (trades : List TradeRecord) (others : List EntryRiskReservation)
    (hon : settings.prospectiveLossEnabled) :
    RiskManager.SameLatches
      { manager with
        sessionHalted :=
          manager.sessionHalted || (computeRailAStatus newYorkDate settings reads).breached }
      (entry.prospectiveRefusal newYorkDate settings reads manager trades others).2 := by
  unfold SizedEntry.prospectiveRefusal
  simp only [hon, Bool.not_true, Bool.false_eq_true, if_false]
  split
  · next hoff =>
    have hactive : (computeRailAStatus newYorkDate settings reads).active = false := by
      simp only [Bool.and_eq_true, Bool.not_eq_eq_eq_not, Bool.not_true] at hoff
      exact hoff.2
    simp [RiskManager.SameLatches, RailAStatus.breached, hactive]
  split
  · exact ⟨rfl, rfl, rfl⟩
  split <;> exact ⟨rfl, rfl, rfl⟩

/-- The latches after a sized-entry consult: it halts the session on a breach it observes. -/
theorem reserveSizedEntry_latches (entry : SizedEntry) (reads : BookReads) (manager : RiskManager) :
    RiskManager.SameLatches
      { manager with
        sessionHalted := manager.sessionHalted ||
          ((RiskCall.reserveSizedEntry entry reads).observed newYorkDate settings manager).any
            RailAStatus.breached }
      (reserveSizedEntry newYorkDate settings entry reads manager).2 := by
  unfold reserveSizedEntry
  rcases hbook : entry.readBook settings reads with refusal | book
  · simp [RiskManager.SameLatches, RiskCall.observed, Except.isOk, Except.toBool, hbook]
  · by_cases hon : settings.prospectiveLossEnabled
    · have hobserved : (RiskCall.reserveSizedEntry entry reads).observed newYorkDate settings manager =
          some (computeRailAStatus newYorkDate settings reads) := by
        simp [RiskCall.observed, hon, hbook, Except.isOk, Except.toBool]
      have h : RiskManager.SameLatches _ (entry.prospectiveRefusal newYorkDate settings reads
          manager book.trades book.others).2 :=
        prospectiveRefusal_latches entry reads manager book.trades book.others hon
      simp only [hobserved, Option.any_some]
      rcases hp : entry.prospectiveRefusal newYorkDate settings reads manager book.trades book.others
        with ⟨_ | refusal, manager'⟩ <;> simpa only [hp] using h
    · simp [SizedEntry.prospectiveRefusal, RiskCall.observed, hon, RiskManager.SameLatches]

end Latch

end Bhiksha
