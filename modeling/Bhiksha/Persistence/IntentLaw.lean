import Bhiksha.Persistence.ExitRepository

/-! When the action intents of a run are absorbing. -/

namespace Bhiksha

open Library

variable {V : Type}

/-- No write changes a terminal intent or replaces a bound order, and slots stay unique. -/
def AbsorbingIntents (events : List (WriteEvent V)) : Prop :=
  ∀ e ∈ events, IntentsKept e.before e.after ∧ UniqueSlots e.after

/-- A resolution that meets a terminal intent repeats its status. -/
def RepeatsTerminalStatus (call : RepositoryCall V) (db : ExitDb) : Prop :=
  ∀ key status payload now s row,
    call = .resolveActionIntent key status payload now → terminalStatus? status = some s →
      db.intents.get? key = some row → row.status.IsTerminal → s = row.status

theorem intentKept_advanceHandoff {row : ExitActionIntent} (h : ¬row.status.IsTerminal)
    (stage : String) (restore payload : Option String) (now : String) :
    IntentKept row (row.advanceHandoff stage restore payload now) :=
  ⟨rfl, fun _ ho => ho, fun ht => absurd ht h⟩

theorem intentKept_bindOrder {row : ExitActionIntent} {order : String}
    (h : ¬row.status.IsTerminal)
    (hid : row.brokerOrderId = none ∨ row.brokerOrderId = some order)
    (payload : Option String) (now : String) :
    IntentKept row (row.bindOrder order payload now) where
  slot := rfl
  boundOrder o ho := by
    rcases hid with hn | hs
    · exact nomatch hn.symm.trans ho
    · exact hs.symm.trans ho
  terminal ht := absurd ht h

theorem intentKept_resolve_iff {row : ExitActionIntent} {s : IntentStatus}
    {payload : Option String} {now : String} :
    IntentKept row (row.resolve s payload now) ↔ (row.status.IsTerminal → s = row.status) :=
  ⟨fun h ht => (h.terminal ht).1, fun h => ⟨rfl, fun _ ho => ho, fun ht => ⟨h ht, rfl, rfl⟩⟩⟩

theorem intentsKept_insert {db db' : ExitDb} {row : ExitActionIntent}
    {hfree : db.intents.get? row.idempotencyKey = none}
    (h : db'.intents = db.intents.insert row hfree) : IntentsKept db db' := by
  intro k old hold
  have hne : row.idempotencyKey ≠ k := fun he => by
    rw [he, hold] at hfree
    cases hfree
  exact ⟨old, by rw [h, Table.get?_insert, if_neg hne, hold], IntentKept.refl old⟩

theorem uniqueSlots_insert {db db' : ExitDb} {row : ExitActionIntent}
    {hfree : db.intents.get? row.idempotencyKey = none}
    (h : db'.intents = db.intents.insert row hfree) (hslot : ∀ r ∈ db.intents.rows, r.slot ≠ row.slot)
    (hu : UniqueSlots db) : UniqueSlots db' := by
  intro a ha b hb hab
  rw [h, Table.mem_insert_iff] at ha hb
  rcases ha with ha | rfl <;> rcases hb with hb | rfl
  · exact hu a ha b hb hab
  · exact absurd hab (hslot a ha)
  · exact absurd hab.symm (hslot b hb)
  · rfl

theorem uniqueSlots_runWrite (codec : Codec V) (call : RepositoryCall V) (db : ExitDb)
    (hu : UniqueSlots db) : UniqueSlots (runWrite codec call db).2 := by
  rcases runWrite_cases codec call db with ⟨e, h⟩ | ⟨db', h⟩ <;> rw [h]
  · exact hu
  · cases call with
    | freezePolicyAndInitializeState snapshot state now =>
      unfold UniqueSlots
      rwa [(freezePolicyAndInitializeStateSync_ok h).intents]
    | transitionRuntimeState state v now =>
      obtain ⟨_, ht⟩ := transitionRuntimeStateSync_ok h
      unfold UniqueSlots
      rwa [ht.intents]
    | prepareActionIntent intent now =>
      obtain ⟨-, -, hs | ⟨hfree, hslot, hi⟩⟩ := prepareActionIntentSync_ok h
      · unfold UniqueSlots
        rwa [hs]
      · exact uniqueSlots_insert hi hslot hu
    | bindActionOrder key order payload now =>
      obtain ⟨_, -, -, -, rfl⟩ := bindActionOrderSync_ok h
      refine uniqueSlots_updateIntent _ ?_ hu
      exact fun _ => rfl
    | updateActionHandoff key stage restore payload now =>
      obtain ⟨_, -, -, rfl⟩ := updateActionHandoffSync_ok h
      refine uniqueSlots_updateIntent _ ?_ hu
      exact fun _ => rfl
    | resolveActionIntent key status payload now =>
      obtain ⟨_, -, rfl⟩ := resolveActionIntentSync_ok h
      refine uniqueSlots_updateIntent _ ?_ hu
      exact fun _ => rfl

/-- A resolution that names a terminal status and an existing intent goes through, whatever the
status of that intent. -/
theorem runWrite_resolveActionIntent {codec : Codec V} {key status now : String}
    {payload : Option (JsonObject V)} {s : IntentStatus} {row : ExitActionIntent} {db : ExitDb}
    (hs : terminalStatus? status = some s) (hrow : db.intents.get? key = some row) :
    runWrite codec (.resolveActionIntent key status payload now) db =
      (.ok (), updateIntent key (ExitActionIntent.resolve s (payload.map codec.dumpsPayload) now)
        (fun _ => rfl) db) := by
  refine Tx.run_eq_ok_iff.mpr ⟨⟨db, _⟩, ?_, rfl⟩
  have hcount : (db.intents.count fun r => r.idempotencyKey = key) = 1 := by
    have hpos := Table.count_pos_of_get? hrow (p := fun r => r.idempotencyKey = key)
      (by simpa using Table.key_of_get? hrow)
    have hle := db.intents.count_le_one key (fun r => r.idempotencyKey = key) fun r h => by
      simpa using h
    omega
  simp only [Tx.bind_eq_ok_iff, Tx.raiseIf_eq_ok_iff, Tx.orRaise_eq_ok_iff,
    Tx.statement_eq_ok_iff, not_not]
  exact ⟨s, _, ⟨hs, rfl⟩, _, _, ⟨_, rfl, rfl⟩, hcount, rfl⟩

theorem intentsKept_runWrite_iff (codec : Codec V) (call : RepositoryCall V) (db : ExitDb) :
    IntentsKept db (runWrite codec call db).2 ↔ RepeatsTerminalStatus call db := by
  constructor
  · rintro h key status payload now s row rfl hs hrow ht
    obtain ⟨row', hrow', hk⟩ := h key row hrow
    rw [runWrite_resolveActionIntent hs hrow] at hrow'
    have hresolved := (get?_updateIntent _ db key).symm.trans hrow'
    rw [if_pos rfl, hrow] at hresolved
    obtain rfl := Option.some.inj hresolved
    exact intentKept_resolve_iff.mp hk ht
  · intro hr
    rcases runWrite_cases codec call db with ⟨e, h⟩ | ⟨db', h⟩ <;> rw [h]
    · exact intentsKept_of_same rfl
    · cases call with
      | freezePolicyAndInitializeState snapshot state now =>
        exact intentsKept_of_same (freezePolicyAndInitializeStateSync_ok h).intents
      | transitionRuntimeState state v now =>
        obtain ⟨_, ht⟩ := transitionRuntimeStateSync_ok h
        exact intentsKept_of_same ht.intents
      | prepareActionIntent intent now =>
        obtain ⟨-, -, hs | ⟨hfree, -, hi⟩⟩ := prepareActionIntentSync_ok h
        · exact intentsKept_of_same hs
        · exact intentsKept_insert hi
      | bindActionOrder key order payload now =>
        obtain ⟨row, hrow, ht, hid, rfl⟩ := bindActionOrderSync_ok h
        refine intentsKept_updateIntent _ fun r hk => ?_
        obtain rfl : row = r := Option.some.inj (hrow.symm.trans hk)
        exact intentKept_bindOrder ht hid _ _
      | updateActionHandoff key stage restore payload now =>
        obtain ⟨row, hrow, ht, rfl⟩ := updateActionHandoffSync_ok h
        refine intentsKept_updateIntent _ fun r hk => ?_
        obtain rfl : row = r := Option.some.inj (hrow.symm.trans hk)
        exact intentKept_advanceHandoff ht _ _ _ _
      | resolveActionIntent key status payload now =>
        obtain ⟨s, hs, rfl⟩ := resolveActionIntentSync_ok h
        exact intentsKept_updateIntent _ fun row hrow =>
          intentKept_resolve_iff.mpr (hr key status payload now s row rfl hs hrow)

/-- The intents of a run are absorbing exactly when no resolution in it meets a terminal intent of
another status: `resolve_action_intent` is the one write that does not look at the row it updates. -/
theorem absorbing_intents_iff (codec : Codec V) (calls : List (RepositoryCall V)) :
    AbsorbingIntents (writes codec calls) ↔
      ∀ e ∈ writes codec calls, RepeatsTerminalStatus e.call e.before := by
  have hu : UniqueSlots ExitDb.empty := fun a ha => nomatch ha
  refine forall₂_congr fun e he => ?_
  obtain ⟨hbefore, hev⟩ := eq_event_of_mem_trace (uniqueSlots_runWrite codec) hu he
  rw [hev]
  exact (and_iff_left (uniqueSlots_runWrite codec _ _ hbefore)).trans
    (intentsKept_runWrite_iff codec _ _)

namespace LateReadback

/-- JSON and hashing reduced to one text each, which is all this run depends on. -/
def codec : Codec Unit := ⟨fun _ => .ok "{}", fun _ => "{}", fun _ => "h"⟩

def state : ExitRuntimeState where
  tradeId := "t"
  deploymentId := "d"
  optionSymbol := none
  policyHash := "h"
  seedEntryPremium := 1
  seedQuantity := 2
  initialRiskPerContract := 1
  rawPeakPremium := 1
  confirmedPeakR := 0

def snapshot : TradeExitPolicySnapshot Unit where
  tradeId := "t"
  deploymentId := "d"
  optionSymbol := none
  activePlanId := none
  startupConfigId := none
  policySchemaVersion := "exit-policy.v1"
  policyId := "p"
  policyHash := "h"
  canonicalPolicy := []

def intent : ExitActionIntent where
  idempotencyKey := "k"
  tradeId := "t"
  policyHash := "h"
  actionKind := "partial_scale"
  actionSlot := "target_1"
  expectedStateVersion := 1

/-- The intent is resolved as failed. -/
def calls : List (RepositoryCall Unit) :=
  [.freezePolicyAndInitializeState snapshot state "0", .prepareActionIntent intent "1",
    .resolveActionIntent "k" "failed" none "2"]

/-- The status of the intent after some calls. -/
def statusAfter (calls : List (RepositoryCall Unit)) : Option IntentStatus :=
  ((finish (runWrite codec) ExitDb.empty calls).intents.get? "k").map ExitActionIntent.status

end LateReadback

open LateReadback in
/-- A late broker readback turns a failed intent into a confirmed one. -/
theorem resolve_overwrites_failed_intent :
    ¬∀ (codec : Codec Unit) (calls : List (RepositoryCall Unit)),
      AbsorbingIntents (writes codec calls) := by
  intro h
  let late : RepositoryCall Unit := .resolveActionIntent "k" "confirmed" none "3"
  have hfailed : statusAfter calls = some .failed := by decide +kernel
  have hconfirmed : statusAfter (calls ++ [late]) = some .confirmed := by decide +kernel
  have hmem : event (runWrite codec) late (finish (runWrite codec) ExitDb.empty calls) ∈
      writes codec (calls ++ [late]) := by
    simp [writes, trace_append, trace]
  obtain ⟨row, hrow, hstatus⟩ := Option.map_eq_some_iff.mp hfailed
  obtain ⟨row', hrow', hkept⟩ := (h codec (calls ++ [late]) _ hmem).1 "k" row hrow
  have hterminal : row.status.IsTerminal := by simp [IntentStatus.IsTerminal, hstatus]
  have hsame : row'.status = .failed := (hkept.terminal hterminal).1.trans hstatus
  rw [statusAfter, finish_append] at hconfirmed
  have hafter := hconfirmed.symm.trans (congrArg (Option.map ExitActionIntent.status) hrow')
  simp [hsame] at hafter

end Bhiksha
