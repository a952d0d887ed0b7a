import Bhiksha.Experiments.AttemptIndex

/-! The owner's count of triggers: what it adds up to, and when it is healthy. -/

namespace Bhiksha.Attempts

open ActivePlan Library

variable {r : Reading} {tradingDate : Option String} {index : TriggerIndex} {event : AttemptEvent}
  {events : List AttemptEvent} {id : String}

/-- The identity under which a true decision counts. -/
def triggerKey (r : Reading) (event : AttemptEvent) : String :=
  if event.attemptId r = "" then
    signalAttemptId r (r.text (event.payload.get "deployment_id"))
      ((r.parseTimestamp (event.payload.get "timestamp")).getD 0)
      (r.text (event.payload.get "deployment_id"))
  else event.attemptId r

/-- The event is a trigger of the day under the identity: a true decision of a Cartographer deployment,
or the attempt's own row. -/
def AttemptEvent.Triggers (r : Reading) (tradingDate : Option String) (event : AttemptEvent)
    (id : String) : Prop :=
  isDecisionEvent event.eventType ∧ isTrue (event.payload.get "signal") ∧
      "mc-v1-".toList <+: (r.text (event.payload.get "deployment_id")).toList ∧
      excluded r tradingDate ((r.parseTimestamp (event.payload.get "timestamp")).getD 0) = false ∧
      id = triggerKey r event ∨
    event.eventType = attemptEvent ∧ event.attemptId r ≠ "" ∧
      excluded? r tradingDate (r.parseTimestamp (event.payload.get "signal_timestamp")) = false ∧
      id = event.attemptId r

/-- A trigger is no outcome. -/
theorem AttemptEvent.Triggers.names (h : event.Triggers r tradingDate id) (other : String) :
    event.names r outcomeEvent other = false := by
  rw [← Bool.not_eq_true, names_iff]
  rintro ⟨htype, -⟩
  rcases h with ⟨hdecision, -⟩ | ⟨hattempt, -⟩
  · rcases decisionEvent_iff.mp hdecision with h | h <;> rw [h] at htype <;> revert htype <;> decide
  · rw [hattempt] at htype
    revert htype
    decide

variable (r tradingDate) in
/-- What one event does to the count. -/
inductive Counted (index : TriggerIndex) (event : AttemptEvent) : TriggerIndex → Prop
  | start (key : String) (start : Dict) (htriggers : ∀ id, event.Triggers r tradingDate id ↔ id = key) :
      Counted index event { index with starts := put key start index.starts }
  | known (key : String) (htriggers : ∀ id, event.Triggers r tradingDate id ↔ id = key)
      (hknown : key ∈ index.starts.map Prod.fst) : Counted index event index
  | outcome (htriggers : ∀ id, ¬event.Triggers r tradingDate id)
      (hnames : event.names r outcomeEvent (event.attemptId r)) :
      Counted index event
        { index with outcomes := collect index.outcomes (event.attemptId r) event.payload }
  | other (htriggers : ∀ id, ¬event.Triggers r tradingDate id)
      (hnames : ∀ id, event.names r outcomeEvent id = false) : Counted index event index

theorem decision_counted (hdecision : isDecisionEvent event.eventType = true)
    (hsignal : isTrue (event.payload.get "signal") = true) :
    Counted r tradingDate index event (index.absorb r tradingDate event) := by
  have hattempt : event.eventType ≠ attemptEvent := by
    rcases decisionEvent_iff.mp hdecision with h | h <;> rw [h] <;> decide
  have houtcome : event.eventType ≠ outcomeEvent := by
    rcases decisionEvent_iff.mp hdecision with h | h <;> rw [h] <;> decide
  have hnames (id : String) : event.names r outcomeEvent id = false := by
    rw [← Bool.not_eq_true, names_iff]
    exact fun h => houtcome h.1
  unfold TriggerIndex.absorb
  simp only
  rw [if_pos ⟨hdecision, hsignal⟩]
  by_cases howner : "mc-v1-".toList <+: (r.text (event.payload.get "deployment_id")).toList
  · rw [if_neg (not_not.mpr howner)]
    by_cases hexcluded :
        excluded r tradingDate ((r.parseTimestamp (event.payload.get "timestamp")).getD 0) = true
    · rw [if_pos hexcluded]
      refine Counted.other ?_ hnames
      rintro id (⟨-, -, -, hkept, -⟩ | ⟨htype, -⟩)
      · rw [hexcluded] at hkept
        cases hkept
      · exact hattempt htype
    · rw [if_neg hexcluded]
      have htriggers (id : String) : event.Triggers r tradingDate id ↔ id = triggerKey r event := by
        constructor
        · rintro (⟨-, -, -, -, hid⟩ | ⟨htype, -⟩)
          · exact hid
          · exact absurd htype hattempt
        · intro hid
          exact Or.inl ⟨hdecision, hsignal, howner, Bool.not_eq_true _ ▸ hexcluded, hid⟩
      by_cases hknown : (index.starts.lookup (triggerKey r event)).isSome = true
      · rw [if_pos (by exact hknown)]
        exact Counted.known _ htriggers (isSome_lookup_iff_mem_keys.mp hknown)
      · rw [if_neg (by exact hknown)]
        exact Counted.start _ _ htriggers
  · rw [if_pos howner]
    refine Counted.other ?_ hnames
    rintro id (⟨-, -, hcontra, -⟩ | ⟨htype, -⟩)
    · exact howner hcontra
    · exact hattempt htype

theorem counted (index : TriggerIndex) (event : AttemptEvent) :
    Counted r tradingDate index event (index.absorb r tradingDate event) := by
  by_cases hdecision : isDecisionEvent event.eventType = true ∧ isTrue (event.payload.get "signal") = true
  · exact decision_counted hdecision.1 hdecision.2
  · unfold TriggerIndex.absorb
    simp only
    rw [if_neg hdecision]
    by_cases hattempt : event.eventType = attemptEvent ∧ event.attemptId r ≠ ""
    · rw [if_pos hattempt]
      have hnames (id : String) : event.names r outcomeEvent id = false := by
        rw [← Bool.not_eq_true, names_iff]
        rintro ⟨htype, -⟩
        rw [hattempt.1] at htype
        revert htype
        decide
      by_cases hexcluded : excluded? r tradingDate
          (r.parseTimestamp (event.payload.get "signal_timestamp")) = true
      · rw [if_pos hexcluded]
        refine Counted.other ?_ hnames
        rintro id (⟨htype, hsignal, -⟩ | ⟨-, -, hkept, -⟩)
        · exact hdecision ⟨htype, hsignal⟩
        · rw [hexcluded] at hkept
          cases hkept
      · rw [if_neg hexcluded]
        refine Counted.start _ _ fun id => ⟨?_, fun hid => Or.inr ⟨hattempt.1, hattempt.2,
          Bool.not_eq_true _ ▸ hexcluded, hid⟩⟩
        rintro (⟨htype, hsignal, -⟩ | ⟨-, -, -, hid⟩)
        · exact absurd ⟨htype, hsignal⟩ hdecision
        · exact hid
    · rw [if_neg hattempt]
      have htriggers (id : String) : ¬event.Triggers r tradingDate id := by
        rintro (⟨htype, hsignal, -⟩ | ⟨htype, hne, -⟩)
        · exact hdecision ⟨htype, hsignal⟩
        · exact hattempt ⟨htype, hne⟩
      by_cases houtcome : event.eventType = outcomeEvent ∧ event.attemptId r ≠ ""
      · rw [if_pos houtcome]
        exact Counted.outcome htriggers (names_iff.mpr ⟨houtcome.1, rfl, houtcome.2⟩)
      · rw [if_neg houtcome]
        refine Counted.other htriggers fun id => ?_
        rw [← Bool.not_eq_true, names_iff]
        rintro ⟨htype, hid, hne⟩
        exact houtcome ⟨htype, hid ▸ hne⟩

variable (r tradingDate) in
structure Tallies (events : List AttemptEvent) (index : TriggerIndex) : Prop where
  nodup : (index.starts.map Prod.fst).Nodup
  mem_starts : ∀ id, id ∈ index.starts.map Prod.fst ↔ ∃ event ∈ events, event.Triggers r tradingDate id
  outcomesOf : ∀ id, (index.outcomes.lookup id).getD [] =
    (events.filter fun event => event.names r outcomeEvent id).map AttemptEvent.payload

theorem Tallies.absorb (h : Tallies r tradingDate events index) (event : AttemptEvent) :
    Tallies r tradingDate (events ++ [event]) (index.absorb r tradingDate event) := by
  have hcases : Counted r tradingDate index event (index.absorb r tradingDate event) :=
    counted index event
  generalize index.absorb r tradingDate event = next at hcases
  cases hcases with
  | start key start htriggers =>
    have hnames := ((htriggers key).mpr rfl).names
    refine ⟨keys_put_nodup h.nodup _ _, ?_, ?_⟩
    · intro id
      rw [mem_keys_put, h.mem_starts, exists_concat_iff, htriggers, or_comm]
    · intro id
      rw [filter_concat_of_false (hnames id)]
      exact h.outcomesOf id
  | known key htriggers hknown =>
    have hnames := ((htriggers key).mpr rfl).names
    refine ⟨h.nodup, ?_, ?_⟩
    · intro id
      rw [exists_concat_iff, ← h.mem_starts, htriggers]
      exact ⟨Or.inl, fun hid => hid.elim (fun hold => hold) fun hkey => hkey ▸ hknown⟩
    · intro id
      rw [filter_concat_of_false (hnames id)]
      exact h.outcomesOf id
  | outcome htriggers hnames =>
    refine ⟨h.nodup, ?_, ?_⟩
    · intro id
      rw [h.mem_starts, exists_concat_iff, or_iff_left (htriggers id)]
    · intro id
      rw [collected_concat hnames, ← h.outcomesOf]
      exact lookup_collect _ _ _ _
  | other htriggers hnames =>
    refine ⟨h.nodup, ?_, ?_⟩
    · intro id
      rw [h.mem_starts, exists_concat_iff, or_iff_left (htriggers id)]
    · intro id
      rw [filter_concat_of_false (hnames id)]
      exact h.outcomesOf id

theorem tallies_triggerIndex (events : List AttemptEvent) :
    Tallies r tradingDate events (triggerIndex r tradingDate events) := by
  induction events using List.reverseRecOn with
  | nil =>
    refine ⟨List.nodup_nil, ?_, ?_⟩
    · intro id
      simp [triggerIndex]
    · intro id
      rfl
  | append_singleton events event ih =>
    unfold triggerIndex
    rw [List.foldl_append]
    exact ih.absorb event

section Standing

variable {α : Type}

/-- A list counted by a classification: each element stands in exactly one of its classes. -/
theorem length_eq_standings (standing : α → Standing) (ids : List α) :
    ids.length =
      ids.countP (fun id => standing id = .counted .execution) +
        ids.countP (fun id => standing id = .counted .blocked) +
        ids.countP (fun id => standing id = .counted .failure) +
        ids.countP (fun id => standing id = .counted .infrastructureCensored) +
        (ids.filter fun id => standing id = .unresolved).length +
        (ids.filter fun id => standing id = .duplicate).length := by
  induction ids with
  | nil => rfl
  | cons id rest ih =>
    simp only [← List.countP_eq_length_filter] at ih ⊢
    simp only [List.countP_cons, List.length_cons, ih]
    cases standing id with
    | counted outcome => cases outcome <;> simp <;> omega
    | unresolved => simp; omega
    | duplicate => simp; omega

end Standing

theorem find_terminalOutcomes {text : String} {kind : TerminalOutcome} :
    (terminalOutcomes.find? fun outcome => outcome.value = text) = some kind ↔ text = kind.value := by
  constructor
  · intro h
    have hvalue := List.find?_some h
    exact (of_decide_eq_true hvalue).symm
  · rintro rfl
    cases kind <;> decide

/-- An attempt is counted when it has one outcome, and of a known kind. -/
theorem standing_counted_iff {kind : TerminalOutcome} :
    index.standing r id = .counted kind ↔ ∃ payload, (index.outcomes.lookup id).getD [] = [payload] ∧
      r.text (payload.get "outcome") = kind.value := by
  unfold TriggerIndex.standing
  rcases (index.outcomes.lookup id).getD [] with _ | ⟨payload, _ | ⟨second, rest⟩⟩
  · simp
  · simp only [List.cons.injEq, and_true, exists_eq_left']
    rw [← find_terminalOutcomes]
    cases terminalOutcomes.find? fun outcome => outcome.value = r.text (payload.get "outcome") with
    | none => simp
    | some outcome => simp
  · simp

/-- No trigger is open or doubled when each of them is counted. -/
theorem all_counted_iff {standing : String → Standing} {ids : List String} :
    (ids.filter fun id => standing id = .unresolved) = [] ∧
      (ids.filter fun id => standing id = .duplicate) = [] ↔
    ∀ id ∈ ids, ∃ kind, standing id = .counted kind := by
  simp only [List.filter_eq_nil_iff, decide_eq_true_iff]
  constructor
  · rintro ⟨hopen, hdouble⟩ id hid
    cases hstanding : standing id with
    | counted kind => exact ⟨kind, rfl⟩
    | unresolved => exact absurd hstanding (hopen id hid)
    | duplicate => exact absurd hstanding (hdouble id hid)
  · intro h
    constructor
    · intro id hid hcontra
      obtain ⟨kind, hkind⟩ := h id hid
      rw [hkind] at hcontra
      cases hcontra
    · intro id hid hcontra
      obtain ⟨kind, hkind⟩ := h id hid
      rw [hkind] at hcontra
      cases hcontra

/-- The true triggers of a day are those that are accounted for, those that are open and those with
several outcomes; the count is healthy when every trigger has exactly one outcome and of a known
kind. -/
theorem triggerAccounting_sound (r : Reading) (events : List AttemptEvent)
    (tradingDate : Option String) :
    (triggerAccounting r events tradingDate).trueTriggers =
        (triggerAccounting r events tradingDate).accounted +
          (triggerAccounting r events tradingDate).unresolvedAttemptIds.length +
          (triggerAccounting r events tradingDate).duplicateOutcomeAttemptIds.length ∧
      ((triggerAccounting r events tradingDate).status = "healthy" ↔
        ∀ id, (∃ event ∈ events, event.Triggers r tradingDate id) →
          ∃ outcome, (events.filter fun event => event.names r outcomeEvent id) = [outcome] ∧
            ∃ kind : TerminalOutcome, r.text (outcome.payload.get "outcome") = kind.value) := by
  have htallies : Tallies r tradingDate events (triggerIndex r tradingDate events) :=
    tallies_triggerIndex events
  have hcount := length_eq_standings ((triggerIndex r tradingDate events).standing r)
    ((triggerIndex r tradingDate events).starts.map Prod.fst)
  unfold triggerAccounting
  simp only [List.length_mergeSort]
  refine ⟨hcount, ?_⟩
  have hstatus {p : Prop} [Decidable p] :
      (if p then "healthy" else "attention") = "healthy" ↔ p := by
    by_cases hp : p
    · rw [if_pos hp]
      exact iff_of_true rfl hp
    · rw [if_neg hp]
      exact iff_of_false (by decide) hp
  rw [hstatus]
  -- The remainder counts the open and the doubled together.
  have hremainder {accounted total unresolved duplicate : ℕ}
      (h : total = accounted + unresolved + duplicate) :
      ((total : ℤ) - (accounted : ℤ) = 0) ↔ unresolved = 0 ∧ duplicate = 0 := by omega
  rw [hremainder hcount, List.length_eq_zero_iff, List.length_eq_zero_iff,
    and_iff_left_of_imp And.right, all_counted_iff]
  refine forall_congr' fun id => ?_
  rw [htallies.mem_starts]
  refine imp_congr_right fun _ => ?_
  simp only [standing_counted_iff, htallies.outcomesOf]
  constructor
  · rintro ⟨kind, payload, hone, hkind⟩
    obtain ⟨outcome, houtcome, rfl⟩ := List.map_eq_singleton_iff.mp hone
    exact ⟨outcome, houtcome, kind, hkind⟩
  · rintro ⟨outcome, houtcome, kind, hkind⟩
    refine ⟨kind, outcome.payload, ?_, hkind⟩
    rw [houtcome]
    rfl

end Bhiksha.Attempts
