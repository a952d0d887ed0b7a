import Bhiksha.Experiments.AttemptIndex
import Bhiksha.Library.Journal

/-! Restarts over one ledger: an attempt's signal is handed to the supervisor once within the loaded rows,
and a startup that comes to its end leaves open only what it deferred or has just handed over. -/

namespace Bhiksha.Attempts

open ActivePlan Library

variable {r : Reading}

section Recover

variable {startup : Startup} {existing consumed : List String} {attempt : Dict} {id : String}

/-- The identity of an outcome is that of the attempt it settles. -/
theorem attemptId_outcomeRow (outcome : TerminalOutcome) (reason : String) (details : Payload) :
    (outcomeRow attempt outcome reason details).event? =
      some ⟨outcomeEvent, attemptOutcomePayload attempt outcome reason details⟩ ∧
    r.text ((attemptOutcomePayload attempt outcome reason details).get "signal_attempt_id") =
      attemptIdOf r attempt := by
  refine ⟨rfl, ?_⟩
  unfold attemptOutcomePayload
  rw [Dict.get_merge_of_none]
  · rfl
  · rw [Dict.lookup_ofFields (by simp)]
    exact lookup_eq_none_of_notMem (by simp)

def Effect.row? : Effect → Option LedgerRow
  | .append row => some row
  | .replay _ => none

theorem row?_append (row : LedgerRow) : Effect.row? (.append row) = some row := rfl

def Effect.loaded : Effect → Bool
  | .append row => row.loaded
  | .replay _ => false

variable (r) in
/-- A marker of the attempt's recovery. -/
def Effect.marks (id : String) : Effect → Bool
  | .append row => row.event?.any fun event => event.names r recoveryEvent id
  | .replay _ => false

def Effect.calls (id : String) : Effect → Bool
  | .append _ => false
  | .replay attemptId => attemptId = id

variable (r) in
/-- Neither a marker nor a call. -/
def Effect.Quiet (effect : Effect) : Prop :=
  ∀ id, effect.marks r id = false ∧ effect.calls id = false

theorem quiet_append {row : LedgerRow} (h : row.eventType ≠ recoveryEvent) :
    (Effect.append row).Quiet r := by
  intro id
  refine ⟨?_, rfl⟩
  cases hpayload : row.payload with
  | none => simp [Effect.marks, LedgerRow.event?, hpayload]
  | some payload => simp [Effect.marks, LedgerRow.event?, hpayload, AttemptEvent.names, h]

theorem quiet_outcomeRow (outcome : TerminalOutcome) (reason : String) (details : Payload) :
    (Effect.append (outcomeRow attempt outcome reason details)).Quiet r :=
  quiet_append (show outcomeEvent ≠ recoveryEvent by decide)

variable (r) in
/-- What the loop can do about an attempt: settle it, put it off, or mark it, call and go on. -/
inductive Handled (startup : Startup) (existing : List String) (attempt : Dict) :
    List Effect × Verdict → Prop
  | settled (outcome : TerminalOutcome) (reason : String) (details : Payload) :
      Handled startup existing attempt
        ([.append (outcomeRow attempt outcome reason details)], .censored)
  | deferred {deployment : Deployment} {reason : String}
      (hdeployment : startup.deploymentsById (r.text (attempt.get "deployment_id")) = some deployment)
      (haction : recoveryAction r attempt startup.now deployment.shadowOnly
        (r.text (attempt.get "deployment_id") ∈ existing) = (.defer, reason)) :
      Handled startup existing attempt ([], .deferred)
  | called {deployment : Deployment} {reason : String} {rest : List Effect} {verdict : Verdict}
      (hdeployment : startup.deploymentsById (r.text (attempt.get "deployment_id")) = some deployment)
      (haction : recoveryAction r attempt startup.now deployment.shadowOnly
        (r.text (attempt.get "deployment_id") ∈ existing) = (.replay, reason))
      (hrest : ∀ effect ∈ rest, effect.Quiet r) :
      Handled startup existing attempt
        (.append (recoveryRow attempt (r.text (attempt.get "deployment_id"))) ::
          .replay (attemptIdOf r attempt) :: rest, verdict)

theorem handled_recoverAttempt (startup : Startup) (existing : List String) (attempt : Dict) :
    Handled r startup existing attempt (recoverAttempt r startup existing attempt) := by
  unfold recoverAttempt
  simp only
  cases hdeployment : startup.deploymentsById (r.text (attempt.get "deployment_id")) with
  | none => exact Handled.settled _ _ _
  | some deployment =>
    simp only
    cases haction : recoveryAction r attempt startup.now deployment.shadowOnly
      (decide (r.text (attempt.get "deployment_id") ∈ existing)) with
    | mk action reason =>
      cases action with
      | defer => exact Handled.deferred hdeployment haction
      | censor => exact Handled.settled _ _ _
      | replay =>
        simp only
        by_cases hdirection : (!(attempt.get "direction").truthy) = true
        · rw [if_pos hdirection]
          exact Handled.settled _ _ _
        · rw [if_neg hdirection]
          cases startup.replay attempt with
          | unmarked error => exact Handled.settled _ _ _
          | handled rows error =>
            have hrows : ∀ effect ∈ rows.map fun row => Effect.append row.toLedgerRow, effect.Quiet r := by
              intro effect heffect
              obtain ⟨row, -, rfl⟩ := List.mem_map.mp heffect
              exact quiet_append row.notRecovery
            cases error with
            | none => exact Handled.called hdeployment haction hrows
            | some error =>
              refine Handled.called hdeployment haction fun effect heffect => ?_
              rcases List.mem_append.mp heffect with heffect | heffect
              · exact hrows effect heffect
              · rw [List.mem_singleton.mp heffect]
                exact quiet_outcomeRow _ _ _

theorem marks_recoveryRow (deploymentId : String) :
    (Effect.append (recoveryRow attempt deploymentId)).marks r id = true ↔
      attemptIdOf r attempt = id ∧ id ≠ "" := by
  have hid (payload : Dict) (hget : payload.get "signal_attempt_id" = attempt.get "signal_attempt_id") :
      AttemptEvent.names r recoveryEvent ⟨recoveryEvent, payload⟩ id = true ↔
        attemptIdOf r attempt = id ∧ id ≠ "" := by
    rw [names_iff]
    unfold AttemptEvent.attemptId attemptIdOf
    rw [hget]
    exact and_iff_right rfl
  refine hid _ ?_
  rw [Dict.get_ofFields (by simp)]
  rfl

/-- The calls of every initial part have their marks in it. -/
def Covered (r : Reading) (effects : List Effect) : Prop :=
  ∀ id (p : List Effect), p <+: effects → p.countP (Effect.calls id) ≤ p.countP (Effect.marks r id)

theorem covered_of_quiet {effects : List Effect} (h : ∀ effect ∈ effects, effect.Quiet r) :
    Covered r effects := by
  intro id p hp
  have hcalls : p.countP (Effect.calls id) = 0 := by
    rw [List.countP_eq_zero]
    intro effect heffect
    rw [((h effect (hp.subset heffect)) id).2]
    exact Bool.false_ne_true
  rw [hcalls]
  exact Nat.zero_le _

theorem Covered.append {first second : List Effect} (hfirst : Covered r first)
    (hsecond : Covered r second) : Covered r (first ++ second) := by
  intro id p hp
  rcases List.prefix_or_prefix_of_prefix hp (List.prefix_append first second) with hshort | ⟨q, rfl⟩
  · exact hfirst id p hshort
  · have hq : q <+: second := (List.prefix_append_right_inj first).mp hp
    rw [List.countP_append, List.countP_append]
    exact Nat.add_le_add (hfirst id first List.prefix_rfl) (hsecond id q hq)

theorem Covered.flatMap {α : Type} {attempts : List α} {block : α → List Effect}
    (h : ∀ attempt ∈ attempts, Covered r (block attempt)) : Covered r (attempts.flatMap block) := by
  induction attempts with
  | nil => exact covered_of_quiet fun effect heffect => by cases heffect
  | cons first rest ih =>
    rw [List.flatMap_cons]
    exact (h first List.mem_cons_self).append
      (ih fun other hother => h other (List.mem_cons_of_mem first hother))

theorem Handled.covered {effects : List Effect} {verdict : Verdict}
    (h : Handled r startup existing attempt (effects, verdict)) (hid : attemptIdOf r attempt ≠ "") :
    Covered r effects := by
  cases h with
  | settled outcome reason details =>
    refine covered_of_quiet fun effect heffect => ?_
    rw [List.mem_singleton.mp heffect]
    exact quiet_outcomeRow _ _ _
  | deferred => exact covered_of_quiet fun effect heffect => by cases heffect
  | @called deployment reason rest _ hdeployment haction hrest =>
    -- The marker comes first, and nothing after the call marks or calls again.
    intro id p hp
    have hnone (q : List Effect) (hq : q <+: rest) : q.countP (Effect.calls id) ≤ 0 := by
      have hcovered := covered_of_quiet hrest id q hq
      have hmarks : q.countP (Effect.marks r id) = 0 := by
        rw [List.countP_eq_zero]
        intro effect heffect
        rw [((hrest effect (hq.subset heffect)) id).1]
        exact Bool.false_ne_true
      exact hmarks ▸ hcovered
    rcases List.prefix_cons_iff.mp hp with rfl | ⟨tail, rfl, htail⟩
    · exact le_refl _
    · rw [List.countP_cons_of_neg (by exact Bool.false_ne_true)]
      rcases List.prefix_cons_iff.mp htail with rfl | ⟨q, rfl, hq⟩
      · exact Nat.zero_le _
      · have hrestq := hnone q hq
        by_cases hcall : attemptIdOf r attempt = id
        · have hmark : (Effect.append (recoveryRow attempt
              (r.text (attempt.get "deployment_id")))).marks r id = true :=
            (marks_recoveryRow _).mpr ⟨hcall, hcall ▸ hid⟩
          rw [List.countP_cons_of_pos hmark,
            List.countP_cons_of_pos (show Effect.calls id (.replay (attemptIdOf r attempt)) = true by
              simp [Effect.calls, hcall])]
          omega
        · rw [List.countP_cons_of_neg (show ¬Effect.calls id (.replay (attemptIdOf r attempt)) = true by
              simp [Effect.calls, hcall])]
          omega

/-- A marker is that of the attempt in hand, which had none in sight. -/
theorem Handled.of_marks {result : List Effect × Verdict}
    (h : Handled r startup existing attempt result) {effect : Effect} (heffect : effect ∈ result.1)
    (hmark : effect.marks r id = true) :
    attemptIdOf r attempt = id ∧ (attempt.get "recovery_attempted").truthy = false := by
  have hquiet (hcontra : effect.Quiet r) : False := by
    rw [(hcontra id).1] at hmark
    cases hmark
  cases h with
  | settled outcome reason details =>
    rw [List.mem_singleton.mp heffect] at hquiet
    exact (hquiet (quiet_outcomeRow _ _ _)).elim
  | deferred => cases heffect
  | called hdeployment haction hrest =>
    rcases List.mem_cons.mp heffect with rfl | heffect
    · refine ⟨((marks_recoveryRow _).mp hmark).1, ?_⟩
      by_contra htried
      rw [Bool.not_eq_false] at htried
      unfold recoveryAction at haction
      rw [if_pos htried] at haction
      cases haction
    · rcases List.mem_cons.mp heffect with rfl | heffect
      · cases hmark
      · exact (hquiet (hrest effect heffect)).elim

theorem Handled.countP_marks {result : List Effect × Verdict}
    (h : Handled r startup existing attempt result) :
    result.1.countP (Effect.marks r id) ≤ if attemptIdOf r attempt = id then 1 else 0 := by
  have hzero (effects : List Effect) (hquiet : ∀ effect ∈ effects, effect.Quiet r) :
      effects.countP (Effect.marks r id) = 0 := by
    rw [List.countP_eq_zero]
    intro effect heffect
    rw [(hquiet effect heffect id).1]
    exact Bool.false_ne_true
  cases h with
  | settled outcome reason details =>
    rw [hzero]
    · exact Nat.zero_le _
    · intro effect heffect
      rw [List.mem_singleton.mp heffect]
      exact quiet_outcomeRow _ _ _
  | deferred => exact Nat.zero_le _
  | called hdeployment haction hrest =>
    rw [List.countP_cons, List.countP_cons_of_neg (by exact Bool.false_ne_true), hzero _ hrest]
    by_cases hid : attemptIdOf r attempt = id
    · rw [if_pos hid]
      split <;> omega
    · rw [if_neg hid, if_neg (fun hmark => hid ((marks_recoveryRow _).mp hmark).1)]

end Recover

section Close

variable {startup : Startup} {consumed : List String} {attempts remaining : List Dict}
  {rows : List LedgerRow}

theorem closingRow_eq {attempt : Dict} {row : LedgerRow}
    (h : closingRow r consumed attempt = .ok (some row)) :
    ∃ outcome reason details, row = outcomeRow attempt outcome reason details := by
  have hplan (plan : Payload) (hplan : (planOutcome r attempt plan).map some = .ok (some row)) :
      ∃ outcome reason details, row = outcomeRow attempt outcome reason details := by
    unfold planOutcome at hplan
    cases hpositive : quantityPositive r (plan.get "quantity") with
    | error abort =>
      rw [hpositive] at hplan
      cases hplan
    | ok positive =>
      rw [hpositive] at hplan
      exact ⟨_, _, _, (Option.some.inj (Except.ok.inj hplan)).symm⟩
  unfold closingRow at h
  split at h
  · exact hplan _ h
  · exact hplan _ h
  · obtain ⟨cell, -, hcell⟩ := Except.bind_eq_ok_iff.mp h
    split at hcell
    · rename_i deploymentId
      by_cases hconsumed : deploymentId ∈ consumed
      · rw [if_pos hconsumed] at hcell
        exact ⟨_, _, _, (Option.some.inj (Except.ok.inj hcell)).symm⟩
      · rw [if_neg hconsumed] at hcell
        cases hcell
    · cases hcell

/-- What the first loop closes is settled under its own identity, and what it leaves stays in order. -/
theorem closePersisted_spec (consumed : List String) (attempts : List Dict) :
    (∀ row ∈ (closePersisted r consumed attempts).1, ∃ attempt ∈ attempts, ∃ outcome reason details,
      row = outcomeRow attempt outcome reason details) ∧
    ∀ remaining, (closePersisted r consumed attempts).2 = .ok remaining →
      remaining.Sublist attempts ∧ (∀ attempt ∈ remaining, closingRow r consumed attempt = .ok none) ∧
      ∀ attempt ∈ attempts, attempt ∈ remaining ∨
        ∃ outcome reason details, outcomeRow attempt outcome reason details ∈
          (closePersisted r consumed attempts).1 := by
  induction attempts with
  | nil =>
    constructor
    · intro row hrow
      cases hrow
    · intro remaining hremaining
      obtain rfl := Except.ok.inj hremaining
      refine ⟨List.Sublist.slnil, fun attempt hattempt => ?_, fun attempt hattempt => ?_⟩
      · cases hattempt
      · cases hattempt
  | cons first rest ih =>
    obtain ⟨hrows, hremaining⟩ := ih
    have hrowsCons : ∀ row ∈ (closePersisted r consumed rest).1, ∃ attempt ∈ first :: rest,
        ∃ outcome reason details, row = outcomeRow attempt outcome reason details := by
      intro row hrow
      obtain ⟨attempt, hattempt, h⟩ := hrows row hrow
      exact ⟨attempt, List.mem_cons_of_mem first hattempt, h⟩
    unfold closePersisted
    cases hclosing : closingRow r consumed first with
    | error abort =>
      constructor
      · intro row hrow
        cases hrow
      · intro remaining hcontra
        cases hcontra
    | ok closing =>
      cases closing with
      | some row =>
        have hown := closingRow_eq hclosing
        refine ⟨?_, fun remaining hok => ?_⟩
        · intro other hother
          rcases List.mem_cons.mp hother with rfl | hother
          · exact ⟨first, List.mem_cons_self, hown⟩
          · exact hrowsCons other hother
        · obtain ⟨hsublist, hnone, hcases⟩ := hremaining remaining hok
          refine ⟨hsublist.cons first, hnone, fun attempt hattempt => ?_⟩
          rcases List.mem_cons.mp hattempt with rfl | hattempt
          · obtain ⟨outcome, reason, details, rfl⟩ := hown
            exact Or.inr ⟨outcome, reason, details, List.mem_cons_self⟩
          · refine (hcases attempt hattempt).imp id fun hsettled => ?_
            obtain ⟨outcome, reason, details, hmem⟩ := hsettled
            exact ⟨outcome, reason, details, List.mem_cons_of_mem row hmem⟩
      | none =>
        refine ⟨hrowsCons, fun remaining hok => ?_⟩
        simp only at hok ⊢
        cases hrest : (closePersisted r consumed rest).2 with
        | error abort =>
          rw [hrest] at hok
          cases hok
        | ok left =>
          rw [hrest] at hok
          obtain rfl := Except.ok.inj hok
          obtain ⟨hsublist, hnone, hcases⟩ := hremaining left hrest
          refine ⟨hsublist.cons_cons first, ?_, fun attempt hattempt => ?_⟩
          · intro attempt hattempt
            rcases List.mem_cons.mp hattempt with rfl | hattempt
            · exact hclosing
            · exact hnone attempt hattempt
          · rcases List.mem_cons.mp hattempt with rfl | hattempt
            · exact Or.inl List.mem_cons_self
            · exact (hcases attempt hattempt).imp (List.mem_cons_of_mem first) id

theorem tradePlans_of_closingRow {attempt : Dict} (h : closingRow r consumed attempt = .ok none) :
    tradePlans attempt = [] := by
  have hplan (plan : Payload) (hcontra : (planOutcome r attempt plan).map some = .ok none) : False := by
    cases hresult : planOutcome r attempt plan with
    | error abort =>
      rw [hresult] at hcontra
      cases hcontra
    | ok row =>
      rw [hresult] at hcontra
      cases hcontra
  unfold closingRow at h
  split at h
  · exact (hplan _ h).elim
  · exact (hplan _ h).elim
  · rename_i hlast
    exact List.getLast?_eq_none_iff.mp hlast

end Close

section Restart

variable {startup : Startup} {events : List AttemptEvent} {limit : ℕ} {id : String}

/-- The effect settles one of the attempts. -/
def SettlesOne (attempts : List Dict) (effect : Effect) : Prop :=
  ∃ attempt ∈ attempts, ∃ outcome reason details,
    effect = .append (outcomeRow attempt outcome reason details)

variable (r) in
/-- What a startup does: it may stop among the attempts it settles at once, or it comes to its end. -/
inductive Reconciling (startup : Startup) (events : List AttemptEvent) : Reconciled → Prop
  | stopped {effects : List Effect} {abort : Abort}
      (hclosed : ∀ effect ∈ effects, SettlesOne (unresolvedAttempts r events) effect) :
      Reconciling startup events ⟨effects, .error abort⟩
  | finished {closed : List Effect} {remaining : List Dict} {existing : List String}
      {recovered : Dict → List Effect × Verdict} {counts : Counts}
      (hclosed : ∀ effect ∈ closed, SettlesOne (unresolvedAttempts r events) effect)
      (hsublist : remaining.Sublist (unresolvedAttempts r events))
      (hplans : ∀ attempt ∈ remaining, tradePlans attempt = [])
      (hall : ∀ attempt ∈ unresolvedAttempts r events, attempt ∈ remaining ∨
        ∃ outcome reason details, .append (outcomeRow attempt outcome reason details) ∈ closed)
      (hrecovered : ∀ attempt, Handled r startup existing attempt (recovered attempt))
      (hexisting : startup.recentTrades = .ok existing ∨
        ∀ attempt, ∃ outcome reason details, recovered attempt =
          ([.append (outcomeRow attempt outcome reason details)], .censored)) :
      Reconciling startup events
        ⟨closed ++ (remaining.map recovered).flatMap Prod.fst, .ok counts⟩

theorem reconciling (startup : Startup) (events : List AttemptEvent) :
    Reconciling r startup events (reconcileCartographerAttempts r startup events) := by
  unfold reconcileCartographerAttempts
  cases restoreConsumedRetryIntents events startup.deploymentsById with
  | error abort => exact Reconciling.stopped fun effect heffect => by cases heffect
  | ok consumed =>
    obtain ⟨hrows, hremaining⟩ := closePersisted_spec (r := r) consumed (unresolvedAttempts r events)
    have hclosed : ∀ effect ∈ (closePersisted r consumed (unresolvedAttempts r events)).1.map Effect.append,
        SettlesOne (unresolvedAttempts r events) effect := by
      intro effect heffect
      obtain ⟨row, hrow, rfl⟩ := List.mem_map.mp heffect
      obtain ⟨attempt, hattempt, outcome, reason, details, rfl⟩ := hrows row hrow
      exact ⟨attempt, hattempt, outcome, reason, details, rfl⟩
    have hplans (remaining : List Dict)
        (hleft : (closePersisted r consumed (unresolvedAttempts r events)).2 = .ok remaining) :
        ∀ attempt ∈ remaining, tradePlans attempt = [] := fun attempt hattempt =>
      tradePlans_of_closingRow ((hremaining remaining hleft).2.1 attempt hattempt)
    have hall (remaining : List Dict)
        (hleft : (closePersisted r consumed (unresolvedAttempts r events)).2 = .ok remaining) :
        ∀ attempt ∈ unresolvedAttempts r events, attempt ∈ remaining ∨
          ∃ outcome reason details, Effect.append (outcomeRow attempt outcome reason details) ∈
            (closePersisted r consumed (unresolvedAttempts r events)).1.map Effect.append := by
      intro attempt hattempt
      refine ((hremaining remaining hleft).2.2 attempt hattempt).imp id ?_
      rintro ⟨outcome, reason, details, hmem⟩
      exact ⟨outcome, reason, details, List.mem_map_of_mem hmem⟩
    -- Where the trades cannot be read, every attempt that remains is censored.
    have hcensored (reason : String) (details : Payload) (counts : Counts) (remaining : List Dict)
        {closed : List Effect}
        (hclosed : ∀ effect ∈ closed, SettlesOne (unresolvedAttempts r events) effect)
        (hsublist : remaining.Sublist (unresolvedAttempts r events))
        (hplans : ∀ attempt ∈ remaining, tradePlans attempt = [])
        (hall : ∀ attempt ∈ unresolvedAttempts r events, attempt ∈ remaining ∨
          ∃ outcome reason details, .append (outcomeRow attempt outcome reason details) ∈ closed) :
        Reconciling r startup events ⟨closed ++ remaining.map fun attempt =>
          .append (outcomeRow attempt .infrastructureCensored reason details), .ok counts⟩ := by
      let settle (attempt : Dict) : List Effect × Verdict :=
        ([.append (outcomeRow attempt .infrastructureCensored reason details)], .censored)
      have hhandled (attempt : Dict) : Handled r startup [] attempt (settle attempt) :=
        Handled.settled _ _ _
      have hdone : Reconciling r startup events
          ⟨closed ++ (remaining.map settle).flatMap Prod.fst, .ok counts⟩ :=
        Reconciling.finished hclosed hsublist hplans hall hhandled (Or.inr fun attempt => ⟨_, _, _, rfl⟩)
      rw [List.flatMap_map] at hdone
      have hsingle : (remaining.flatMap fun attempt =>
          [Effect.append (outcomeRow attempt .infrastructureCensored reason details)]) =
          remaining.map fun attempt =>
            .append (outcomeRow attempt .infrastructureCensored reason details) :=
        (List.map_eq_flatMap ..).symm
      rwa [hsingle] at hdone
    simp only
    cases hleft : (closePersisted r consumed (unresolvedAttempts r events)).2 with
    | error abort => exact Reconciling.stopped hclosed
    | ok remaining =>
      have hsublist := (hremaining remaining hleft).1
      cases remaining with
      | nil =>
        have hdone := hcensored "" [] ⟨(unresolvedAttempts r events).length, 0, 0, 0⟩ []
          hclosed hsublist (hplans [] hleft) (hall [] hleft)
        rwa [List.map_nil, List.append_nil] at hdone
      | cons first rest =>
        cases htrades : startup.recentTrades with
        | error error => exact hcensored _ _ _ _ hclosed hsublist (hplans _ hleft) (hall _ hleft)
        | ok existing =>
          exact Reconciling.finished hclosed hsublist (hplans _ hleft) (hall _ hleft)
            (handled_recoverAttempt startup existing) (Or.inl htrades)

/-- What the ledger shows of a journal's latest entries. -/
def eventsOf (shown : List Effect) : List AttemptEvent :=
  (shown.reverse.filterMap Effect.row?).filterMap LedgerRow.event?

variable (r) in
def restart (startup : Startup) (shown : List Effect) : List Effect :=
  (reconcileCartographerAttempts r startup (eventsOf shown)).effects

/-- The rows of a journal, oldest first. -/
def ledger (history : List Effect) : List LedgerRow := (history.filterMap Effect.row?).reverse

theorem ledger_filter (history : List Effect) :
    (history.filter Effect.loaded).filterMap Effect.row? =
      (history.filterMap Effect.row?).filter LedgerRow.loaded := by
  induction history with
  | nil => rfl
  | cons effect rest ih =>
    cases effect with
    | replay id => exact ih
    | append row =>
      by_cases hloaded : row.loaded = true
      · rw [List.filter_cons_of_pos (by exact hloaded), List.filterMap_cons_some (row?_append row),
          List.filterMap_cons_some (row?_append row), List.filter_cons_of_pos hloaded, ih]
      · rw [List.filter_cons_of_neg (by exact hloaded), List.filterMap_cons_some (row?_append row),
          List.filter_cons_of_neg hloaded, ih]

/-- A startup reads the loaded slice of the ledger. -/
theorem eventsOf_visible (history : List Effect) (limit : ℕ) :
    eventsOf (Journal.visible Effect.loaded limit history) = loadAttemptEvents limit (ledger history) := by
  have htake (effects : List Effect) (hall : ∀ effect ∈ effects, effect.loaded = true) (n : ℕ) :
      (effects.take n).filterMap Effect.row? = (effects.filterMap Effect.row?).take n := by
    induction effects generalizing n with
    | nil => simp
    | cons effect rest ih =>
      cases n with
      | zero => simp
      | succ n =>
        cases effect with
        | replay id => exact absurd (hall _ List.mem_cons_self) Bool.false_ne_true
        | append row =>
          rw [List.take_succ_cons, List.filterMap_cons_some (row?_append row),
            List.filterMap_cons_some (row?_append row),
            List.take_succ_cons, ih fun other hother => hall other (List.mem_cons_of_mem _ hother)]
  unfold eventsOf loadAttemptEvents slice ledger Journal.visible
  rw [List.filterMap_reverse, htake _ (fun effect heffect => (List.mem_filter.mp heffect).2),
    ledger_filter, List.rtake_eq_reverse_take_reverse, List.filter_reverse, List.reverse_reverse]

theorem quiet_of_settlesOne {attempts : List Dict} {effect : Effect} (h : SettlesOne attempts effect) :
    effect.Quiet r := by
  obtain ⟨attempt, -, outcome, reason, details, rfl⟩ := h
  exact quiet_outcomeRow outcome reason details

/-- A marker of a startup is of a pending attempt that had none in sight. -/
theorem pending_of_marks {effect : Effect}
    (heffect : effect ∈ (reconcileCartographerAttempts r startup events).effects)
    (hmark : effect.marks r id = true) :
    ∃ attempt ∈ unresolvedAttempts r events, attemptIdOf r attempt = id ∧
      (attempt.get "recovery_attempted").truthy = false := by
  have hcases := reconciling (r := r) startup events
  generalize reconcileCartographerAttempts r startup events = result at hcases heffect
  have hquiet (hcontra : effect.Quiet r) : False := by
    rw [(hcontra id).1] at hmark
    cases hmark
  cases hcases with
  | stopped hclosed => exact (hquiet (quiet_of_settlesOne (hclosed effect heffect))).elim
  | finished hclosed hsublist hplans hall hrecovered hexisting =>
    rcases List.mem_append.mp heffect with hmem | hmem
    · exact (hquiet (quiet_of_settlesOne (hclosed effect hmem))).elim
    · obtain ⟨result, hresult, hmem⟩ := List.mem_flatMap.mp hmem
      obtain ⟨attempt, hattempt, rfl⟩ := List.mem_map.mp hresult
      obtain ⟨hid, hflag⟩ := (hrecovered attempt).of_marks hmem hmark
      exact ⟨attempt, hsublist.subset hattempt, hid, hflag⟩

theorem countP_marks_reconcile (startup : Startup) (events : List AttemptEvent) (id : String) :
    (reconcileCartographerAttempts r startup events).effects.countP (Effect.marks r id) ≤ 1 := by
  have hcases := reconciling (r := r) startup events
  generalize reconcileCartographerAttempts r startup events = result at hcases
  have hzero (effects : List Effect)
      (hclosed : ∀ effect ∈ effects, SettlesOne (unresolvedAttempts r events) effect) :
      effects.countP (Effect.marks r id) = 0 := by
    rw [List.countP_eq_zero]
    intro effect heffect
    rw [(quiet_of_settlesOne (hclosed effect heffect) id).1]
    exact Bool.false_ne_true
  cases hcases with
  | stopped hclosed => exact (hzero _ hclosed).le.trans (Nat.zero_le 1)
  | @finished closed remaining existing recovered counts hclosed hsublist _ _ hrecovered _ =>
    have hnodup : (remaining.map (attemptIdOf r)).Nodup :=
      (hsublist.map (attemptIdOf r)).nodup (attemptIds_nodup events)
    have hblocks (attempts : List Dict) :
        ((attempts.map recovered).flatMap Prod.fst).countP (Effect.marks r id) ≤
          (attempts.map (attemptIdOf r)).count id := by
      induction attempts with
      | nil => exact le_refl _
      | cons attempt rest ih =>
        rw [List.map_cons, List.flatMap_cons, List.countP_append, List.map_cons, List.count_cons]
        have hown : (recovered attempt).1.countP (Effect.marks r id) ≤
            if attemptIdOf r attempt = id then 1 else 0 := (hrecovered attempt).countP_marks
        by_cases hid : attemptIdOf r attempt = id
        · rw [if_pos hid] at hown
          rw [if_pos (by simpa using hid)]
          omega
        · rw [if_neg hid] at hown
          rw [if_neg (by simpa using hid)]
          omega
    rw [List.countP_append, hzero closed hclosed, Nat.zero_add]
    exact (hblocks remaining).trans (List.nodup_iff_count_le_one.mp hnodup id)

theorem covered_reconcile (startup : Startup) (events : List AttemptEvent) :
    Covered r (reconcileCartographerAttempts r startup events).effects := by
  have hcases := reconciling (r := r) startup events
  generalize reconcileCartographerAttempts r startup events = result at hcases
  cases hcases with
  | stopped hclosed => exact covered_of_quiet fun effect heffect => quiet_of_settlesOne (hclosed effect heffect)
  | finished hclosed hsublist hplans hall hrecovered hexisting =>
    apply Covered.append
    · exact covered_of_quiet fun effect heffect => quiet_of_settlesOne (hclosed effect heffect)
    · apply Covered.flatMap
      intro result hresult
      obtain ⟨attempt, hattempt, rfl⟩ := List.mem_map.mp hresult
      obtain ⟨-, -, hne, -, -⟩ := pending_of_mem (hsublist.subset hattempt)
      exact (hrecovered attempt).covered hne

theorem restart_sound : Journal.Sound Effect.loaded (restart r) (Effect.marks r) Effect.calls where
  loaded_of_marks := by
    intro id effect hmark
    cases effect with
    | replay attemptId => cases hmark
    | append row =>
      cases hpayload : row.payload with
      | none => simp [Effect.marks, LedgerRow.event?, hpayload] at hmark
      | some payload =>
        simp only [Effect.marks, LedgerRow.event?, hpayload, Option.map_some, Option.any_some] at hmark
        have htype : row.eventType = recoveryEvent := (names_iff.mp hmark).1
        have hloaded : row.eventType ∈ loadedEventTypes := by
          rw [htype]
          decide
        exact decide_eq_true hloaded
  not_calls_of_marks := by
    intro id effect hmark
    cases effect with
    | replay attemptId => cases hmark
    | append row => rfl
  fresh := by
    intro startup shown id effect heffect hmark other hother
    obtain ⟨attempt, hattempt, hid, hflag⟩ := pending_of_marks heffect hmark
    rw [← Bool.not_eq_true]
    intro hcontra
    cases other with
    | replay attemptId => cases hcontra
    | append row =>
      obtain ⟨event, hevent, hnames⟩ := Option.any_eq_true _ _ |>.mp hcontra
      have hshown : event ∈ eventsOf shown := by
        apply List.mem_filterMap.mpr
        refine ⟨row, List.mem_filterMap.mpr ⟨.append row, List.mem_reverse.mpr hother, rfl⟩, hevent⟩
      have htried := (recoveryAttempted_iff hattempt).mpr ⟨event, hshown, hid ▸ hnames⟩
      rw [hflag] at htried
      cases htried
  once startup shown id := countP_marks_reconcile startup (eventsOf shown) id
  marked startup shown id p hp := covered_reconcile startup (eventsOf shown) id p hp

def ofSession : Journal.Move Startup SessionRow → Journal.Move Startup Effect
  | .boot startup => .boot startup
  | .next => .next
  | .outside row => .outside (.append row.toLedgerRow)
  | .crash => .crash

variable (r) in
/-- A run over one ledger: startups that are cut off anywhere, and the rows of the sessions between
their steps. -/
def ledgerRun (limit : ℕ) (moves : List (Journal.Move Startup SessionRow)) : Journal Effect :=
  Journal.run Effect.loaded limit (restart r) (moves.map ofSession)

theorem invariant_ledgerRun (limit : ℕ) (moves : List (Journal.Move Startup SessionRow)) :
    Journal.Invariant Effect.loaded limit (Effect.marks r) Effect.calls (ledgerRun r limit moves) := by
  apply Journal.invariant_run restart_sound
  intro move hmove
  obtain ⟨original, -, rfl⟩ := List.mem_map.mp hmove
  cases original with
  | outside row => exact quiet_append row.notRecovery
  | boot startup => trivial
  | next => trivial
  | crash => trivial

/-- However often the process dies and starts again, an attempt is handed over no more often than it is
marked, its markers lie at least the loaded number of rows apart, and while the ledger is within that
number it is handed over at most once. -/
theorem replayed_once_within_slice (r : Reading) (limit : ℕ)
    (moves : List (Journal.Move Startup SessionRow)) (id : String) :
    (ledgerRun r limit moves).history.countP (Effect.calls id) ≤
        (ledgerRun r limit moves).history.countP (Effect.marks r id) ∧
      (∀ newer second middle first older,
        (ledgerRun r limit moves).history = newer ++ second :: (middle ++ first :: older) →
        first.marks r id = true → second.marks r id = true → limit ≤ middle.countP Effect.loaded) ∧
      ((ledgerRun r limit moves).history.countP Effect.loaded ≤ limit →
        (ledgerRun r limit moves).history.countP (Effect.calls id) ≤ 1) := by
  have hinvariant := invariant_ledgerRun (r := r) limit moves
  refine ⟨hinvariant.calls_le_marks id, ?_, ?_⟩
  · intro newer second middle first older hsplit hfirst hsecond
    exact hinvariant.marks_apart hsplit hfirst hsecond
  · intro hroom
    exact hinvariant.calls_le_one (restart_sound (r := r).loaded_of_marks id) hroom

variable {attempt : Dict} {existing : List String}

variable (r) in
/-- An attempt that a startup need not settle: a shadow signal in its window, never replayed, without a
plan and without a trade. -/
structure Replayable (startup : Startup) (attempt : Dict) (validAfter validThrough : ℚ) : Prop where
  untried : (attempt.get "recovery_attempted").truthy = false
  unplanned : tradePlans attempt = []
  shadow : ∃ deployment, startup.deploymentsById (r.text (attempt.get "deployment_id")) = some deployment ∧
    deployment.shadowOnly = true
  untraded : ∃ trades, startup.recentTrades = .ok trades ∧ r.text (attempt.get "deployment_id") ∉ trades
  opens : r.parseTimestamp (attempt.get "valid_after") = some validAfter
  closes : r.parseTimestamp (attempt.get "valid_through") = some validThrough

variable (r) in
def Deferred (startup : Startup) (attempt : Dict) : Prop :=
  ∃ validAfter validThrough, Replayable r startup attempt validAfter validThrough ∧
    startup.now < validAfter

variable (r) in
def Fresh (startup : Startup) (attempt : Dict) : Prop :=
  ∃ validAfter validThrough observed, Replayable r startup attempt validAfter validThrough ∧
    validAfter ≤ startup.now ∧ startup.now ≤ validThrough ∧
    r.parseTimestamp (attempt.get "signal_timestamp") = some observed ∧ startup.now - observed ≤ 60

/-- What an action that leaves an attempt open has checked. -/
theorem recoveryAction_cases {now : ℚ} {shadowOnly hasEntry : Bool} {action : RecoveryAction}
    {reason : String} (h : recoveryAction r attempt now shadowOnly hasEntry = (action, reason))
    (hopen : action ≠ .censor) :
    (attempt.get "recovery_attempted").truthy = false ∧ shadowOnly = true ∧ hasEntry = false ∧
    ∃ validAfter validThrough, r.parseTimestamp (attempt.get "valid_after") = some validAfter ∧
      r.parseTimestamp (attempt.get "valid_through") = some validThrough ∧
      (action = .defer ∧ now < validAfter ∨ action = .replay ∧ validAfter ≤ now ∧ now ≤ validThrough ∧
        ∃ observed, r.parseTimestamp (attempt.get "signal_timestamp") = some observed ∧
          now - observed ≤ 60) := by
  have hcensor {message : String} (hcontra : (RecoveryAction.censor, message) = (action, reason)) :
      False := hopen (congrArg Prod.fst hcontra).symm
  unfold recoveryAction at h
  by_cases htried : (attempt.get "recovery_attempted").truthy = true
  · rw [if_pos htried] at h
    exact (hcensor h).elim
  · rw [if_neg htried] at h
    cases shadowOnly with
    | false => exact (hcensor h).elim
    | true =>
      cases hasEntry with
      | true => exact (hcensor h).elim
      | false =>
        simp only [Bool.not_true, Bool.false_eq_true, if_false] at h
        refine ⟨Bool.not_eq_true _ ▸ htried, rfl, rfl, ?_⟩
        cases hafter : r.parseTimestamp (attempt.get "valid_after") with
        | none =>
          rw [hafter] at h
          exact (hcensor h).elim
        | some validAfter =>
          cases hthrough : r.parseTimestamp (attempt.get "valid_through") with
          | none =>
            rw [hafter, hthrough] at h
            exact (hcensor h).elim
          | some validThrough =>
            rw [hafter, hthrough] at h
            simp only at h
            refine ⟨validAfter, validThrough, rfl, rfl, ?_⟩
            by_cases hearly : now < validAfter
            · rw [if_pos hearly] at h
              exact Or.inl ⟨(congrArg Prod.fst h).symm, hearly⟩
            · rw [if_neg hearly] at h
              by_cases hlate : validThrough < now
              · rw [if_pos hlate] at h
                exact (hcensor h).elim
              · rw [if_neg hlate] at h
                cases hobserved : r.parseTimestamp (attempt.get "signal_timestamp") with
                | none =>
                  rw [hobserved] at h
                  exact (hcensor h).elim
                | some observed =>
                  rw [hobserved] at h
                  simp only at h
                  by_cases hstale : 60 < now - observed
                  · rw [if_pos hstale] at h
                    exact (hcensor h).elim
                  · rw [if_neg hstale] at h
                    exact Or.inr ⟨(congrArg Prod.fst h).symm, not_lt.mp hearly, not_lt.mp hlate, observed,
                      rfl, not_lt.mp hstale⟩

/-- What the loop does about one attempt leaves it settled, deferred or just handed over. -/
theorem Handled.leaves {result : List Effect × Verdict}
    (h : Handled r startup existing attempt result) (hunplanned : tradePlans attempt = [])
    (htrades : startup.recentTrades = .ok existing) :
    (∃ outcome reason details, .append (outcomeRow attempt outcome reason details) ∈ result.1) ∨
      Deferred r startup attempt ∨
      Fresh r startup attempt ∧ .replay (attemptIdOf r attempt) ∈ result.1 := by
  cases h with
  | settled outcome reason details => exact Or.inl ⟨outcome, reason, details, List.mem_cons_self⟩
  | deferred hdeployment haction =>
    obtain ⟨htried, hshadow, hentry, validAfter, validThrough, hafter, hthrough, hcase⟩ :=
      recoveryAction_cases haction (by decide)
    rcases hcase with ⟨-, hearly⟩ | ⟨hcontra, -⟩
    · exact Or.inr (Or.inl ⟨validAfter, validThrough, ⟨htried, hunplanned, ⟨_, hdeployment, hshadow⟩,
        ⟨existing, htrades, of_decide_eq_false hentry⟩, hafter, hthrough⟩, hearly⟩)
    · cases hcontra
  | called hdeployment haction hrest =>
    obtain ⟨htried, hshadow, hentry, validAfter, validThrough, hafter, hthrough, hcase⟩ :=
      recoveryAction_cases haction (by decide)
    rcases hcase with ⟨hcontra, -⟩ | ⟨-, hopened, hclosing, observed, hobserved, hfresh⟩
    · cases hcontra
    · refine Or.inr (Or.inr ⟨⟨validAfter, validThrough, observed, ⟨htried, hunplanned,
        ⟨_, hdeployment, hshadow⟩, ⟨existing, htrades, of_decide_eq_false hentry⟩, hafter, hthrough⟩,
        hopened, hclosing, hobserved, hfresh⟩, ?_⟩)
      exact List.mem_cons_of_mem _ List.mem_cons_self

/-- A call is that of the attempt in hand, and it was fresh. -/
theorem Handled.of_call {result : List Effect × Verdict}
    (h : Handled r startup existing attempt result) (hunplanned : tradePlans attempt = [])
    (htrades : startup.recentTrades = .ok existing) (hcall : .replay id ∈ result.1) :
    attemptIdOf r attempt = id ∧ Fresh r startup attempt := by
  have hquiet (hcontra : (Effect.replay id).Quiet r) : False := by
    have hself := (hcontra id).2
    simp [Effect.calls] at hself
  cases h with
  | settled outcome reason details => cases List.mem_singleton.mp hcall
  | deferred => cases hcall
  | called hdeployment haction hrest =>
    obtain ⟨htried, hshadow, hentry, validAfter, validThrough, hafter, hthrough, hcase⟩ :=
      recoveryAction_cases haction (by decide)
    rcases List.mem_cons.mp hcall with hcontra | hcall
    · cases hcontra
    · rcases List.mem_cons.mp hcall with hown | hcall
      · refine ⟨(Effect.replay.inj hown).symm, ?_⟩
        rcases hcase with ⟨hcontra, -⟩ | ⟨-, hopened, hclosing, observed, hobserved, hfresh⟩
        · cases hcontra
        · exact ⟨validAfter, validThrough, observed, ⟨htried, hunplanned, ⟨_, hdeployment, hshadow⟩,
            ⟨existing, htrades, of_decide_eq_false hentry⟩, hafter, hthrough⟩, hopened, hclosing,
            hobserved, hfresh⟩
      · exact (hquiet (hrest _ hcall)).elim

/-- Rows within the limit are all loaded. -/
theorem mem_loadAttemptEvents {rows : List LedgerRow} {row : LedgerRow} {event : AttemptEvent}
    (hroom : rows.countP LedgerRow.loaded ≤ limit) (hrow : row ∈ rows) (hloaded : row.loaded = true)
    (hevent : row.event? = some event) : event ∈ loadAttemptEvents limit rows := by
  apply List.mem_filterMap.mpr
  refine ⟨row, ?_, hevent⟩
  have hall : slice limit rows = rows.filter LedgerRow.loaded := by
    rw [List.countP_eq_length_filter] at hroom
    unfold slice List.rtake
    rw [Nat.sub_eq_zero_of_le hroom, List.drop_zero]
  rw [hall]
  exact List.mem_filter.mpr ⟨hrow, hloaded⟩

/-- A startup that comes to its end, on a ledger within the loaded number of rows, leaves every pending
attempt settled, deferred, or just handed over for the first time; and it hands over no others. -/
theorem startup_settles (r : Reading) (startup : Startup) (limit : ℕ) (rows : List LedgerRow)
    (counts : Counts)
    (hdone : (reconcileCartographerAttempts r startup (loadAttemptEvents limit rows)).result = .ok counts)
    (hroom : (rows ++ (reconcileCartographerAttempts r startup
      (loadAttemptEvents limit rows)).effects.filterMap Effect.row?).countP LedgerRow.loaded ≤ limit) :
    (∀ attempt ∈ unresolvedAttempts r (loadAttemptEvents limit rows),
      (∀ other ∈ unresolvedAttempts r (loadAttemptEvents limit (rows ++
          (reconcileCartographerAttempts r startup (loadAttemptEvents limit rows)).effects.filterMap
            Effect.row?)), attemptIdOf r other ≠ attemptIdOf r attempt) ∨
      Deferred r startup attempt ∨
      Fresh r startup attempt ∧ .replay (attemptIdOf r attempt) ∈
        (reconcileCartographerAttempts r startup (loadAttemptEvents limit rows)).effects) ∧
    ∀ id, .replay id ∈ (reconcileCartographerAttempts r startup (loadAttemptEvents limit rows)).effects →
      ∃ attempt ∈ unresolvedAttempts r (loadAttemptEvents limit rows),
        attemptIdOf r attempt = id ∧ Fresh r startup attempt := by
  have hcases := reconciling (r := r) startup (loadAttemptEvents limit rows)
  generalize reconcileCartographerAttempts r startup (loadAttemptEvents limit rows) = result at *
  -- An outcome among the appended rows is read back under the identity of its attempt.
  have hsettled (attempt : Dict) (hpending : attempt ∈ unresolvedAttempts r (loadAttemptEvents limit rows))
      (hrow : ∃ outcome reason details,
        .append (outcomeRow attempt outcome reason details) ∈ result.effects) :
      ∀ other ∈ unresolvedAttempts r (loadAttemptEvents limit (rows ++
        result.effects.filterMap Effect.row?)), attemptIdOf r other ≠ attemptIdOf r attempt := by
    obtain ⟨outcome, reason, details, hmem⟩ := hrow
    obtain ⟨-, -, hne, -, -⟩ := pending_of_mem hpending
    have hevent : (outcomeRow attempt outcome reason details).event? =
        some ⟨outcomeEvent, attemptOutcomePayload attempt outcome reason details⟩ :=
      (attemptId_outcomeRow (r := r) outcome reason details).1
    have hid : r.text ((attemptOutcomePayload attempt outcome reason details).get "signal_attempt_id") =
        attemptIdOf r attempt := (attemptId_outcomeRow outcome reason details).2
    intro other hother heq
    obtain ⟨-, -, -, hnone, -⟩ := pending_of_mem hother
    have hread := mem_loadAttemptEvents hroom
      (List.mem_append_right rows (List.mem_filterMap.mpr ⟨_, hmem, row?_append _⟩))
      (show decide (outcomeEvent ∈ loadedEventTypes) = true by decide) hevent
    have hnamed := hnone _ hread
    rw [heq, ← Bool.not_eq_true, names_iff] at hnamed
    exact hnamed ⟨rfl, hid, hne⟩
  cases hcases with
  | stopped hclosed => cases hdone
  | @finished closed remaining existing recovered counts hclosed hsublist hplans hall hrecovered hexisting =>
    have hown (attempt : Dict) (hattempt : attempt ∈ remaining) (effect : Effect)
        (heffect : effect ∈ (recovered attempt).1) :
        effect ∈ closed ++ (remaining.map recovered).flatMap Prod.fst :=
      List.mem_append_right closed (List.mem_flatMap.mpr
        ⟨recovered attempt, List.mem_map_of_mem hattempt, heffect⟩)
    constructor
    · intro attempt hpending
      rcases hall attempt hpending with hattempt | ⟨outcome, reason, details, hmem⟩
      · rcases hexisting with htrades | hcensored
        · rcases (hrecovered attempt).leaves (hplans attempt hattempt) htrades with
            ⟨outcome, reason, details, hmem⟩ | hdeferred | ⟨hfresh, hcall⟩
          · exact Or.inl (hsettled attempt hpending
              ⟨outcome, reason, details, hown attempt hattempt _ hmem⟩)
          · exact Or.inr (Or.inl hdeferred)
          · exact Or.inr (Or.inr ⟨hfresh, hown attempt hattempt _ hcall⟩)
        · obtain ⟨outcome, reason, details, heq⟩ := hcensored attempt
          refine Or.inl (hsettled attempt hpending
            ⟨outcome, reason, details, hown attempt hattempt _ ?_⟩)
          rw [heq]
          exact List.mem_cons_self
      · exact Or.inl (hsettled attempt hpending
          ⟨outcome, reason, details, List.mem_append_left _ hmem⟩)
    · intro id hcall
      rcases List.mem_append.mp hcall with hcall | hcall
      · obtain ⟨attempt, -, outcome, reason, details, heq⟩ := hclosed _ hcall
        cases heq
      · obtain ⟨result, hresult, hcall⟩ := List.mem_flatMap.mp hcall
        obtain ⟨attempt, hattempt, rfl⟩ := List.mem_map.mp hresult
        rcases hexisting with htrades | hcensored
        · obtain ⟨hid, hfresh⟩ := (hrecovered attempt).of_call (hplans attempt hattempt) htrades hcall
          exact ⟨attempt, hsublist.subset hattempt, hid, hfresh⟩
        · obtain ⟨outcome, reason, details, heq⟩ := hcensored attempt
          rw [heq] at hcall
          cases List.mem_singleton.mp hcall

/-- A ledger with one start, and a startup whose plan has its shadow deployment. -/
def oneStart : List LedgerRow :=
  [⟨attemptEvent, some (.ofFields
    [("signal_attempt_id", .text "sa-v1-1"), ("deployment_id", .text "mc-v1-spy"),
      ("direction", .text "long"), ("signal_timestamp", .text "10:00"), ("valid_after", .text "10:00"),
      ("valid_through", .text "11:00")])⟩]

def bareReading : Reading where
  repr := fun _ => ""
  instant := fun text => some (if text = "11:00" then 3600 else 0)
  positiveText := fun _ => false
  newYorkDate := fun _ => ""
  isoformat := fun _ => ""
  digest := fun text => text

def shadowStartup : Startup where
  deploymentsById := fun _ => some ⟨true, .none, .none, .none, .none, []⟩
  recentTrades := .ok []
  live := false
  now := 30
  replay := fun _ => .handled [] none

theorem startup_settles_shadow :
    (reconcileCartographerAttempts bareReading shadowStartup
      (loadAttemptEvents attemptLimit oneStart)).result = .ok ⟨1, 1, 0, 0⟩ ∧
    ∃ attempt ∈ unresolvedAttempts bareReading (loadAttemptEvents attemptLimit oneStart),
      attemptIdOf bareReading attempt = "sa-v1-1" ∧ Fresh bareReading shadowStartup attempt := by
  refine ⟨by decide +kernel, ?_⟩
  refine (startup_settles bareReading shadowStartup attemptLimit oneStart ⟨1, 1, 0, 0⟩
    (by decide +kernel) (by decide +kernel)).2 "sa-v1-1" ?_
  have hcalled : (reconcileCartographerAttempts bareReading shadowStartup
      (loadAttemptEvents attemptLimit oneStart)).effects.any (Effect.calls "sa-v1-1") = true := by
    decide +kernel
  obtain ⟨effect, heffect, hcall⟩ := List.any_eq_true.mp hcalled
  cases effect with
  | append row => cases hcall
  | replay attemptId => exact of_decide_eq_true hcall ▸ heffect

end Restart

end Bhiksha.Attempts
