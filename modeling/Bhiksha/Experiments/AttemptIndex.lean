import Bhiksha.Experiments.CartographerAttempts
import Bhiksha.Library.Transaction

/-! What the index of a ledger's events says of each attempt. -/

namespace Bhiksha.Attempts

open ActivePlan Library

variable {r : Reading}

section Index

variable (r)

def AttemptEvent.starts (event : AttemptEvent) (id : String) : Prop :=
  event.attemptId r = id ∧ id ≠ "" ∧
    (isDecisionEvent event.eventType ∧ isTrue (event.payload.get "signal") ∨
      event.eventType = attemptEvent)

/-- The event is of the kind and names the attempt. -/
def AttemptEvent.names (kind : String) (event : AttemptEvent) (id : String) : Bool :=
  event.eventType = kind && event.attemptId r = id && id ≠ ""

/-- A start that is kept under its own identity. -/
def Carries (start : String × Dict) : Prop :=
  start.1 ≠ "" ∧ r.text (start.2.get "signal_attempt_id") = start.1

variable {r} {index : AttemptIndex} {event : AttemptEvent} {events : List AttemptEvent} {id : String}

theorem text_of_ne_empty {s : String} (h : s ≠ "") : r.text (.text s) = s := by
  simp [Reading.text, Cell.truthy, Cell.str, h]

theorem Dict.get_merge_of_none {dict other : Dict} {key : String} (h : other.fields.lookup key = none) :
    (dict.merge other).get key = dict.get key := by
  unfold Dict.get Payload.get
  rw [Dict.lookup_merge, h, Option.none_or]

theorem Dict.get_merge_of_some {dict other : Dict} {key : String} {value : Cell}
    (h : other.fields.lookup key = some value) : (dict.merge other).get key = value := by
  unfold Dict.get Payload.get
  rw [Dict.lookup_merge, h, Option.some_or, Option.getD_some]

theorem Dict.lookup_ofFields {fields : Payload} (h : (fields.map Prod.fst).Nodup) (key : String) :
    (Dict.ofFields fields).fields.lookup key = fields.lookup key := by
  unfold Dict.ofFields
  rw [Payload.lookup_merge h]
  exact Option.or_none

theorem Dict.get_ofFields {fields : Payload} (h : (fields.map Prod.fst).Nodup) (key : String) :
    (Dict.ofFields fields).get key = fields.get key := by
  unfold Dict.get Payload.get
  rw [Dict.lookup_ofFields h]

/-- A text that is not empty was there to be read. -/
theorem lookup_of_text_get {dict : Dict} {key : String} (h : r.text (dict.get key) ≠ "") :
    dict.fields.lookup key = some (dict.get key) := by
  cases hlookup : dict.fields.lookup key with
  | none =>
    have hnone : dict.get key = .none := by
      unfold Dict.get Payload.get
      rw [hlookup, Option.getD_none]
    rw [hnone] at h
    exact absurd rfl h
  | some value =>
    unfold Dict.get Payload.get
    rw [hlookup, Option.getD_some]

theorem decisionStart_id (payload : Dict) (h : id ≠ "") : Carries r (id, decisionStart r id payload) := by
  refine ⟨h, ?_⟩
  unfold decisionStart
  rw [Dict.get_ofFields (by simp)]
  exact text_of_ne_empty h

theorem merge_id {existing payload : Dict} (h : id ≠ "")
    (hid : r.text (payload.get "signal_attempt_id") = id) : Carries r (id, existing.merge payload) := by
  refine ⟨h, ?_⟩
  have hlookup : payload.fields.lookup "signal_attempt_id" = some (payload.get "signal_attempt_id") :=
    lookup_of_text_get (r := r) (hid ▸ h)
  rw [Dict.get_merge_of_some hlookup, hid]

theorem decisionEvent_iff {eventType : String} :
    isDecisionEvent eventType = true ↔ eventType = "signal_decision" ∨ eventType = "signal_evaluation" := by
  unfold isDecisionEvent
  rw [Bool.or_eq_true, decide_eq_true_iff, decide_eq_true_iff]

theorem names_iff {kind : String} :
    event.names r kind id = true ↔ event.eventType = kind ∧ event.attemptId r = id ∧ id ≠ "" := by
  simp only [AttemptEvent.names, Bool.and_eq_true, decide_eq_true_iff, and_assoc]

/-- A start is no row of another kind. -/
theorem names_of_starts {kind : String} (h : event.starts r id)
    (hkind : kind = outcomeEvent ∨ kind = "trade_plan" ∨ kind = recoveryEvent) (other : String) :
    event.names r kind other = false := by
  rw [← Bool.not_eq_true, names_iff]
  rintro ⟨htype, -⟩
  rcases h.2.2 with ⟨hdecision, -⟩ | hattempt
  · rw [decisionEvent_iff, htype] at hdecision
    rcases hkind with rfl | rfl | rfl <;> rcases hdecision with h | h <;> revert h <;> decide
  · rw [htype] at hattempt
    rcases hkind with rfl | rfl | rfl <;> revert hattempt <;> decide

/-- What one event does to the index. -/
inductive Absorbed (index : AttemptIndex) (event : AttemptEvent) : AttemptIndex → Prop
  | start (start : Dict) (hstarts : event.starts r (event.attemptId r))
      (hcarries : Carries r (event.attemptId r, start)) :
      Absorbed index event { index with starts := put (event.attemptId r) start index.starts }
  | known (hstarts : event.starts r (event.attemptId r))
      (hknown : event.attemptId r ∈ index.starts.map Prod.fst) : Absorbed index event index
  | outcome (hnames : event.names r outcomeEvent (event.attemptId r)) :
      Absorbed index event
        { index with outcomes := collect index.outcomes (event.attemptId r) event.payload }
  | tradePlan (hnames : event.names r "trade_plan" (event.attemptId r)) :
      Absorbed index event
        { index with tradePlans := collect index.tradePlans (event.attemptId r) event.payload }
  | recovery (hnames : event.names r recoveryEvent (event.attemptId r)) :
      Absorbed index event { index with recoveries := index.recoveries ++ [event.attemptId r] }
  | other (hstarts : ∀ id, ¬event.starts r id)
      (hnames : ∀ kind ∈ [outcomeEvent, "trade_plan", recoveryEvent], ∀ id,
        event.names r kind id = false) : Absorbed index event index

/-- An event of none of the kinds, or one without an identity, is passed over. -/
theorem absorbed_other (hstart : ∀ id, ¬event.starts r id)
    (h : event.attemptId r = "" ∨ ∀ kind ∈ [outcomeEvent, "trade_plan", recoveryEvent],
      event.eventType ≠ kind) : Absorbed (r := r) index event index := by
  refine Absorbed.other hstart fun kind hkind id => ?_
  rw [← Bool.not_eq_true, names_iff]
  rintro ⟨htype, hid, hne⟩
  rcases h with hempty | hkinds
  · exact hne (hid ▸ hempty)
  · exact hkinds kind hkind htype

theorem absorbed (index : AttemptIndex) (event : AttemptEvent) :
    Absorbed (r := r) index event (index.absorb r event) := by
  unfold AttemptIndex.absorb
  simp only
  by_cases hdecision : isDecisionEvent event.eventType = true
  · -- A decision is a start when it is true and named; the first of a name stays.
    rw [if_pos hdecision]
    have hkinds : ∀ kind ∈ [outcomeEvent, "trade_plan", recoveryEvent], event.eventType ≠ kind := by
      intro kind hkind htype
      rcases decisionEvent_iff.mp hdecision with h | h <;> rw [h] at htype <;> subst htype <;>
        revert hkind <;> decide
    have hattempt : event.eventType ≠ attemptEvent := by
      rcases decisionEvent_iff.mp hdecision with h | h <;> rw [h] <;> decide
    by_cases hskip : (!isTrue (event.payload.get "signal") || decide (event.attemptId r = "")) = true
    · rw [if_pos hskip]
      refine absorbed_other ?_ (Or.inr hkinds)
      rintro id ⟨hid, hne, hstart | hstart⟩
      · rw [hstart.2, Bool.not_true, Bool.false_or, decide_eq_true_iff] at hskip
        exact hne (hid ▸ hskip)
      · exact hattempt hstart
    · rw [if_neg hskip]
      simp only [Bool.or_eq_true, Bool.not_eq_true', decide_eq_true_iff, not_or,
        Bool.not_eq_false] at hskip
      have hstarts : event.starts r (event.attemptId r) := ⟨rfl, hskip.2, Or.inl ⟨hdecision, hskip.1⟩⟩
      by_cases hknown : (index.starts.lookup (event.attemptId r)).isSome
      · rw [if_pos hknown]
        exact Absorbed.known hstarts (isSome_lookup_iff_mem_keys.mp hknown)
      · rw [if_neg hknown]
        exact Absorbed.start _ hstarts (decisionStart_id event.payload hskip.2)
  · rw [if_neg hdecision]
    by_cases hattempt : event.eventType = attemptEvent ∧ event.attemptId r ≠ ""
    · rw [if_pos hattempt]
      have hstarts : event.starts r (event.attemptId r) := ⟨rfl, hattempt.2, Or.inr hattempt.1⟩
      cases index.starts.lookup (event.attemptId r) with
      | none => exact Absorbed.start _ hstarts ⟨hattempt.2, rfl⟩
      | some existing => exact Absorbed.start _ hstarts (merge_id hattempt.2 rfl)
    · rw [if_neg hattempt]
      have hstart (id : String) : ¬event.starts r id := by
        rintro ⟨hid, hne, h | h⟩
        · exact hdecision h.1
        · exact hattempt ⟨h, hid ▸ hne⟩
      by_cases houtcome : event.eventType = outcomeEvent
      · rw [if_pos houtcome]
        by_cases hempty : event.attemptId r = ""
        · rw [if_pos hempty]
          exact absorbed_other hstart (Or.inl hempty)
        · rw [if_neg hempty]
          exact Absorbed.outcome (names_iff.mpr ⟨houtcome, rfl, hempty⟩)
      · rw [if_neg houtcome]
        by_cases hplan : event.eventType = "trade_plan" ∧ event.attemptId r ≠ ""
        · rw [if_pos hplan]
          exact Absorbed.tradePlan (names_iff.mpr ⟨hplan.1, rfl, hplan.2⟩)
        · rw [if_neg hplan]
          by_cases hrecovery : event.eventType = recoveryEvent
          · rw [if_pos hrecovery]
            by_cases hempty : event.attemptId r = ""
            · rw [if_pos hempty]
              exact absorbed_other hstart (Or.inl hempty)
            · rw [if_neg hempty]
              exact Absorbed.recovery (names_iff.mpr ⟨hrecovery, rfl, hempty⟩)
          · rw [if_neg hrecovery]
            by_cases hempty : event.attemptId r = ""
            · exact absorbed_other hstart (Or.inl hempty)
            · refine absorbed_other hstart (Or.inr ?_)
              intro kind hkind htype
              simp only [List.mem_cons, List.not_mem_nil, or_false] at hkind
              rcases hkind with rfl | rfl | rfl
              · exact houtcome htype
              · exact hplan ⟨htype, hempty⟩
              · exact hrecovery htype

theorem lookup_collect (collected : List (String × List Dict)) (key other : String) (item : Dict) :
    ((collect collected key item).lookup other).getD [] =
      (collected.lookup other).getD [] ++ if other = key then [item] else [] := by
  unfold collect
  rw [lookup_put]
  by_cases hother : other = key
  · rw [if_pos hother, if_pos hother, hother, Option.getD_some]
  · rw [if_neg hother, if_neg hother, List.append_nil]

variable (r) in
/-- The index says of every attempt what the events say of it. -/
structure Reflects (events : List AttemptEvent) (index : AttemptIndex) : Prop where
  nodup : (index.starts.map Prod.fst).Nodup
  carries : ∀ start ∈ index.starts, Carries r start
  mem_starts : ∀ id, id ∈ index.starts.map Prod.fst ↔ ∃ event ∈ events, event.starts r id
  outcomesOf : ∀ id, index.outcomesOf id =
    (events.filter fun event => event.names r outcomeEvent id).map AttemptEvent.payload
  tradePlansOf : ∀ id, index.tradePlansOf id =
    (events.filter fun event => event.names r "trade_plan" id).map AttemptEvent.payload
  mem_recoveries : ∀ id, id ∈ index.recoveries ↔ ∃ event ∈ events, event.names r recoveryEvent id

theorem exists_concat_iff {p : AttemptEvent → Prop} :
    (∃ e ∈ events ++ [event], p e) ↔ (∃ e ∈ events, p e) ∨ p event := by
  constructor
  · rintro ⟨e, he, hp⟩
    rcases List.mem_append.mp he with he | he
    · exact Or.inl ⟨e, he, hp⟩
    · exact Or.inr (List.mem_singleton.mp he ▸ hp)
  · rintro (⟨e, he, hp⟩ | hp)
    · exact ⟨e, List.mem_append_left _ he, hp⟩
    · exact ⟨event, List.mem_append_right _ List.mem_cons_self, hp⟩

theorem filter_concat_of_false {p : AttemptEvent → Bool} (h : p event = false) :
    (events ++ [event]).filter p = events.filter p := by
  rw [List.filter_append, List.filter_cons_of_neg (by rw [h]; exact Bool.false_ne_true),
    List.filter_nil, List.append_nil]

/-- An identity other than the event's own is not named by it. -/
theorem names_eq_decide {kind : String} (h : event.names r kind (event.attemptId r)) :
    event.names r kind id = decide (id = event.attemptId r) := by
  obtain ⟨htype, -, hne⟩ := names_iff.mp h
  rw [Bool.eq_iff_iff, names_iff, decide_eq_true_iff]
  exact ⟨fun hnames => hnames.2.1.symm, fun heq => ⟨htype, heq.symm, heq ▸ hne⟩⟩

theorem names_of_names {kind other : String} (h : event.names r kind (event.attemptId r))
    (hkinds : kind ≠ other) : event.names r other id = false := by
  rw [← Bool.not_eq_true, names_iff]
  rintro ⟨htype, -⟩
  exact hkinds ((names_iff.mp h).1.symm.trans htype)

theorem starts_of_names {kind : String} (h : event.names r kind (event.attemptId r))
    (hkind : kind = outcomeEvent ∨ kind = "trade_plan" ∨ kind = recoveryEvent) (id : String) :
    ¬event.starts r id := by
  intro hstarts
  rw [names_of_starts hstarts hkind] at h
  cases h

theorem collected_concat {kind : String} (h : event.names r kind (event.attemptId r)) (id : String) :
    ((events ++ [event]).filter fun event => event.names r kind id).map AttemptEvent.payload =
      (events.filter fun event => event.names r kind id).map AttemptEvent.payload ++
        if id = event.attemptId r then [event.payload] else [] := by
  rw [List.filter_append, List.map_append, List.append_cancel_left_eq, List.filter_singleton,
    names_eq_decide h]
  by_cases hid : id = event.attemptId r
  · rw [if_pos hid, decide_eq_true hid, cond_true]
    rfl
  · rw [if_neg hid, decide_eq_false hid, cond_false]
    rfl

theorem Reflects.absorb (h : Reflects r events index) (event : AttemptEvent) :
    Reflects r (events ++ [event]) (index.absorb r event) := by
  have hcases := absorbed (r := r) index event
  generalize index.absorb r event = next at hcases
  cases hcases with
  | start start hstarts hcarries =>
    have hnot (kind : String) (hkind : kind = outcomeEvent ∨ kind = "trade_plan" ∨ kind = recoveryEvent)
        (id : String) : event.names r kind id = false := names_of_starts hstarts hkind id
    refine ⟨keys_put_nodup h.nodup _ _, ?_, ?_, ?_, ?_, ?_⟩
    · intro entry hentry
      rcases mem_of_mem_put hentry with rfl | hold
      · exact hcarries
      · exact h.carries entry hold
    · intro id
      rw [mem_keys_put, h.mem_starts, exists_concat_iff, or_comm]
      refine or_congr Iff.rfl ⟨fun hid => hid ▸ hstarts, fun hid => hid.1.symm⟩
    · intro id
      rw [filter_concat_of_false (hnot outcomeEvent (Or.inl rfl) id)]
      exact h.outcomesOf id
    · intro id
      rw [filter_concat_of_false (hnot "trade_plan" (Or.inr (Or.inl rfl)) id)]
      exact h.tradePlansOf id
    · intro id
      rw [h.mem_recoveries, exists_concat_iff, hnot recoveryEvent (Or.inr (Or.inr rfl)) id]
      simp
  | known hstarts hknown =>
    have hnot (kind : String) (hkind : kind = outcomeEvent ∨ kind = "trade_plan" ∨ kind = recoveryEvent)
        (id : String) : event.names r kind id = false := names_of_starts hstarts hkind id
    refine ⟨h.nodup, h.carries, ?_, ?_, ?_, ?_⟩
    · intro id
      rw [exists_concat_iff, ← h.mem_starts]
      refine ⟨Or.inl, fun hid => hid.elim (fun hid => hid) fun hid => ?_⟩
      rw [← hid.1]
      exact hknown
    · intro id
      rw [filter_concat_of_false (hnot outcomeEvent (Or.inl rfl) id)]
      exact h.outcomesOf id
    · intro id
      rw [filter_concat_of_false (hnot "trade_plan" (Or.inr (Or.inl rfl)) id)]
      exact h.tradePlansOf id
    · intro id
      rw [h.mem_recoveries, exists_concat_iff, hnot recoveryEvent (Or.inr (Or.inr rfl)) id]
      simp
  | outcome hnames =>
    refine ⟨h.nodup, h.carries, ?_, ?_, ?_, ?_⟩
    · intro id
      rw [h.mem_starts, exists_concat_iff]
      simp [starts_of_names hnames (Or.inl rfl)]
    · intro id
      rw [collected_concat hnames, ← h.outcomesOf]
      exact lookup_collect _ _ _ _
    · intro id
      rw [filter_concat_of_false (names_of_names hnames (by decide))]
      exact h.tradePlansOf id
    · intro id
      rw [h.mem_recoveries, exists_concat_iff, names_of_names hnames (by decide)]
      simp
  | tradePlan hnames =>
    refine ⟨h.nodup, h.carries, ?_, ?_, ?_, ?_⟩
    · intro id
      rw [h.mem_starts, exists_concat_iff]
      simp [starts_of_names hnames (Or.inr (Or.inl rfl))]
    · intro id
      rw [filter_concat_of_false (names_of_names hnames (by decide))]
      exact h.outcomesOf id
    · intro id
      rw [collected_concat hnames, ← h.tradePlansOf]
      exact lookup_collect _ _ _ _
    · intro id
      rw [h.mem_recoveries, exists_concat_iff, names_of_names hnames (by decide)]
      simp
  | recovery hnames =>
    refine ⟨h.nodup, h.carries, ?_, ?_, ?_, ?_⟩
    · intro id
      rw [h.mem_starts, exists_concat_iff]
      simp [starts_of_names hnames (Or.inr (Or.inr rfl))]
    · intro id
      rw [filter_concat_of_false (names_of_names hnames (by decide))]
      exact h.outcomesOf id
    · intro id
      rw [filter_concat_of_false (names_of_names hnames (by decide))]
      exact h.tradePlansOf id
    · intro id
      rw [List.mem_append, h.mem_recoveries, exists_concat_iff, names_eq_decide hnames,
        List.mem_singleton, decide_eq_true_iff]
  | other hstarts hnames =>
    refine ⟨h.nodup, h.carries, ?_, ?_, ?_, ?_⟩
    · intro id
      rw [h.mem_starts, exists_concat_iff]
      simp [hstarts id]
    · intro id
      rw [filter_concat_of_false (hnames _ (by simp) id)]
      exact h.outcomesOf id
    · intro id
      rw [filter_concat_of_false (hnames _ (by simp) id)]
      exact h.tradePlansOf id
    · intro id
      rw [h.mem_recoveries, exists_concat_iff, hnames _ (by simp) id]
      simp

theorem reflects_attemptIndex (events : List AttemptEvent) :
    Reflects r events (attemptIndex r events) := by
  induction events using List.reverseRecOn with
  | nil =>
    refine ⟨List.nodup_nil, ?_, ?_, ?_, ?_, ?_⟩
    · intro start hstart
      cases hstart
    · intro id
      simp [attemptIndex, AttemptIndex.empty]
    · intro id
      rfl
    · intro id
      rfl
    · intro id
      simp [attemptIndex, AttemptIndex.empty]
  | append_singleton events event ih =>
    unfold attemptIndex
    rw [List.foldl_append]
    exact ih.absorb event

end Index

section Pending

variable (r) in
/-- The identity under which a pending attempt is settled. -/
def attemptIdOf (attempt : Dict) : String := r.text (attempt.get "signal_attempt_id")

variable {index : AttemptIndex} {events : List AttemptEvent} {attempt start : Dict} {id : String}

theorem get_pending {key : String}
    (hkey : key ∉ ["outcome_count", "outcomes", "trade_plans", "recovery_attempted"]) :
    (index.pending id start).get key = start.get key := by
  unfold AttemptIndex.pending
  apply Dict.get_merge_of_none
  rw [Dict.lookup_ofFields (by simp)]
  exact lookup_eq_none_of_notMem hkey

theorem recoveryAttempted_pending :
    ((index.pending id start).get "recovery_attempted").truthy = decide (id ∈ index.recoveries) := by
  have hlookup : (index.pending id start).get "recovery_attempted" =
      .bool (decide (id ∈ index.recoveries)) := by
    unfold AttemptIndex.pending
    apply Dict.get_merge_of_some
    rw [Dict.lookup_ofFields (by simp)]
    rfl
  rw [hlookup]
  rfl

theorem attemptIdOf_pending (h : Carries r (id, start)) : attemptIdOf r (index.pending id start) = id := by
  unfold attemptIdOf
  rw [get_pending (by simp)]
  exact h.2

/-- A pending attempt is a start of the events without an outcome among them. -/
theorem pending_of_mem (h : attempt ∈ unresolvedAttempts r events) :
    ∃ start, (attemptIdOf r attempt, start) ∈ (attemptIndex r events).starts ∧
      attemptIdOf r attempt ≠ "" ∧
      (∀ event ∈ events, event.names r outcomeEvent (attemptIdOf r attempt) = false) ∧
      attempt = (attemptIndex r events).pending (attemptIdOf r attempt) start := by
  obtain ⟨⟨id, start⟩, hmem, hsome⟩ := List.mem_filterMap.mp h
  have hreflects := reflects_attemptIndex (r := r) events
  have hcarries := hreflects.carries (id, start) hmem
  by_cases hempty : ((attemptIndex r events).outcomesOf id).isEmpty = true
  · rw [if_pos hempty] at hsome
    obtain rfl := Option.some.inj hsome
    rw [attemptIdOf_pending hcarries]
    refine ⟨start, hmem, hcarries.1, ?_, rfl⟩
    rw [List.isEmpty_iff, hreflects.outcomesOf, List.map_eq_nil_iff, List.filter_eq_nil_iff] at hempty
    intro event hevent
    exact Bool.not_eq_true _ ▸ hempty event hevent
  · rw [if_neg hempty] at hsome
    cases hsome

/-- No identity is pending twice. -/
theorem attemptIds_nodup (events : List AttemptEvent) :
    ((unresolvedAttempts r events).map (attemptIdOf r)).Nodup := by
  have hreflects := reflects_attemptIndex (r := r) events
  have hsublist (starts : List (String × Dict)) (h : ∀ start ∈ starts, Carries r start) :
      ((starts.filterMap fun start =>
        if ((attemptIndex r events).outcomesOf start.1).isEmpty then
          some ((attemptIndex r events).pending start.1 start.2) else none).map (attemptIdOf r)).Sublist
      (starts.map Prod.fst) := by
    induction starts with
    | nil => exact List.Sublist.slnil
    | cons start rest ih =>
      have hrest := ih fun other hother => h other (List.mem_cons_of_mem start hother)
      rw [List.filterMap_cons]
      by_cases hempty : ((attemptIndex r events).outcomesOf start.1).isEmpty = true
      · rw [if_pos hempty, List.map_cons, List.map_cons,
          attemptIdOf_pending (h start List.mem_cons_self)]
        exact hrest.cons_cons start.1
      · rw [if_neg hempty, List.map_cons]
        exact hrest.cons start.1
  exact (hsublist _ hreflects.carries).nodup hreflects.nodup

theorem recoveryAttempted_iff (h : attempt ∈ unresolvedAttempts r events) :
    (attempt.get "recovery_attempted").truthy = true ↔
      ∃ event ∈ events, event.names r recoveryEvent (attemptIdOf r attempt) := by
  obtain ⟨start, -, -, -, heq⟩ := pending_of_mem h
  rw [heq, recoveryAttempted_pending, decide_eq_true_iff, (reflects_attemptIndex events).mem_recoveries,
    ← heq]

end Pending

end Bhiksha.Attempts
