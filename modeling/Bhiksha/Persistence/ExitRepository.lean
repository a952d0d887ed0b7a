import Bhiksha.Library.Trace
import Bhiksha.Persistence.RuntimeSpec
import Bhiksha.Persistence.IntentSpec

/-! Runs of the exit-state repository: any number of writers, each write executed atomically. -/

namespace Bhiksha

open Library

variable {V : Type}

/-- A write of `SQLiteExitStateRepository`, with the clock it reads. -/
inductive RepositoryCall (V : Type) where
  | freezePolicyAndInitializeState (snapshot : TradeExitPolicySnapshot V)
      (state : ExitRuntimeState) (now : String)
  | transitionRuntimeState (state : ExitRuntimeState) (expectedVersion : ℤ) (now : String)
  | prepareActionIntent (intent : ExitActionIntent) (now : String)
  | bindActionOrder (key brokerOrderId : String) (brokerPayload : Option (JsonObject V))
      (now : String)
  | updateActionHandoff (key handoffStage : String) (restoreOrderId : Option String)
      (brokerPayload : Option (JsonObject V)) (now : String)
  | resolveActionIntent (key status : String) (brokerPayload : Option (JsonObject V))
      (now : String)

/-- `backend.run_write`. -/
def runWrite (codec : Codec V) : RepositoryCall V → ExitDb → Except PyException Unit × ExitDb
  | .freezePolicyAndInitializeState snapshot state now =>
    Tx.run (freezePolicyAndInitializeStateSync codec snapshot state now)
  | .transitionRuntimeState state expectedVersion now =>
    Tx.run (transitionRuntimeStateSync state expectedVersion now)
  | .prepareActionIntent intent now => Tx.run (prepareActionIntentSync intent now)
  | .bindActionOrder key order payload now => Tx.run (bindActionOrderSync codec key order payload now)
  | .updateActionHandoff key stage restore payload now =>
    Tx.run (updateActionHandoffSync codec key stage restore payload now)
  | .resolveActionIntent key status payload now =>
    Tx.run (resolveActionIntentSync codec key status payload now)

abbrev WriteEvent (V : Type) := Event ExitDb (RepositoryCall V) (Except PyException Unit)

/-- The writes of a repository that starts empty. -/
def writes (codec : Codec V) (calls : List (RepositoryCall V)) : List (WriteEvent V) :=
  trace (runWrite codec) ExitDb.empty calls

/-- The trade and the expected version of a transition. -/
def RepositoryCall.transitionSlot : RepositoryCall V → Option (String × ℤ)
  | .transitionRuntimeState state expectedVersion _ => some (state.tradeId, expectedVersion)
  | _ => none

theorem runWrite_error {codec : Codec V} {call : RepositoryCall V} {db : ExitDb}
    {e : PyException} (h : (runWrite codec call db).1 = .error e) :
    (runWrite codec call db).2 = db := by
  cases call with
  | freezePolicyAndInitializeState => exact freezePolicyAndInitializeStateSync_error h
  | transitionRuntimeState => exact transitionRuntimeStateSync_error h
  | prepareActionIntent => exact prepareActionIntentSync_error h
  | bindActionOrder => exact bindActionOrderSync_error h
  | updateActionHandoff => exact updateActionHandoffSync_error h
  | resolveActionIntent => exact resolveActionIntentSync_error h

/-- A write either raises and changes nothing, or returns. -/
theorem runWrite_cases (codec : Codec V) (call : RepositoryCall V) (db : ExitDb) :
    (∃ e, runWrite codec call db = (.error e, db)) ∨
      ∃ db', runWrite codec call db = (.ok (), db') := by
  rcases h : (runWrite codec call db).1 with e | u
  · exact Or.inl ⟨e, Prod.ext h (runWrite_error h)⟩
  · exact Or.inr ⟨_, Prod.ext h rfl⟩

/-- The effect of a write that returns on the policies and the runtime rows. -/
theorem runWrite_runtime {codec : Codec V} {call : RepositoryCall V} {db db' : ExitDb}
    (h : runWrite codec call db = (.ok (), db')) :
    (call.transitionSlot = none ∧ ∃ state now, Froze state now db db') ∨
      (call.transitionSlot = none ∧ db'.policies = db.policies ∧ db'.runtime = db.runtime) ∨
      ∃ state v now current, call.transitionSlot = some (state.tradeId, v) ∧
        Transitioned state v now db db' current := by
  cases call with
  | freezePolicyAndInitializeState snapshot state now =>
    exact Or.inl ⟨rfl, state, now, freezePolicyAndInitializeStateSync_ok h⟩
  | transitionRuntimeState state v now =>
    obtain ⟨current, hc⟩ := transitionRuntimeStateSync_ok h
    exact Or.inr (Or.inr ⟨state, v, now, current, rfl, hc⟩)
  | prepareActionIntent intent now =>
    obtain ⟨hp, hr, -⟩ := prepareActionIntentSync_ok h
    exact Or.inr (Or.inl ⟨rfl, hp, hr⟩)
  | bindActionOrder key order payload now =>
    obtain ⟨_, -, -, -, rfl⟩ := bindActionOrderSync_ok h
    exact Or.inr (Or.inl ⟨rfl, rfl, rfl⟩)
  | updateActionHandoff key stage restore payload now =>
    obtain ⟨_, -, -, rfl⟩ := updateActionHandoffSync_ok h
    exact Or.inr (Or.inl ⟨rfl, rfl, rfl⟩)
  | resolveActionIntent key status payload now =>
    obtain ⟨_, -, rfl⟩ := resolveActionIntentSync_ok h
    exact Or.inr (Or.inl ⟨rfl, rfl, rfl⟩)

theorem later_runWrite (codec : Codec V) (call : RepositoryCall V) (db : ExitDb) :
    Later db (runWrite codec call db).2 := by
  rcases runWrite_cases codec call db with ⟨e, h⟩ | ⟨db', h⟩ <;> rw [h]
  · exact Later.refl db
  · rcases runWrite_runtime h with ⟨-, _, _, hf⟩ | ⟨-, hp, hr⟩ | ⟨_, _, _, _, -, ht⟩
    · exact hf.later
    · exact later_of_same hp hr
    · exact ht.later

theorem wellFormed_runWrite (codec : Codec V) (call : RepositoryCall V) (db : ExitDb)
    (hdb : db.WellFormed) : (runWrite codec call db).2.WellFormed := by
  rcases runWrite_cases codec call db with ⟨e, h⟩ | ⟨db', h⟩ <;> rw [h]
  · exact hdb
  · rcases runWrite_runtime h with ⟨-, _, _, hf⟩ | ⟨-, -, hr⟩ | ⟨_, _, _, _, -, ht⟩
    · exact hf.wellFormed hdb
    · exact fun t row hrow => hdb t row (hr ▸ hrow)
    · exact ht.wellFormed hdb

/-- A transition of `trade` that returned. -/
def movesVersion (e : WriteEvent V) (trade : String) : Bool :=
  e.result.isOk && e.call.transitionSlot.map Prod.fst = some trade

/-- One write moves the version of a runtime row by one if it is a successful transition of that
trade, and otherwise not at all. -/
theorem stateVersion_runWrite (codec : Codec V) (call : RepositoryCall V) (db : ExitDb)
    {trade : String} {row : RuntimeRow} (hrow : db.runtime.get? trade = some row) :
    ∃ row', (runWrite codec call db).2.runtime.get? trade = some row' ∧
      row'.stateVersion = row.stateVersion +
        if movesVersion (event (runWrite codec) call db) trade then 1 else 0 := by
  rcases runWrite_cases codec call db with ⟨e, h⟩ | ⟨db', h⟩
  · refine ⟨row, by rwa [h], ?_⟩
    simp [movesVersion, event, h, Except.isOk, Except.toBool]
  · rw [h]
    rcases runWrite_runtime h with ⟨hn, _, _, hf⟩ | ⟨hn, -, hr⟩ | ⟨state, v, now, current, hn, ht⟩
    · refine ⟨row, hf.get?_runtime hrow, ?_⟩
      simp [movesVersion, event, hn]
    · refine ⟨row, by rwa [hr], ?_⟩
      simp [movesVersion, event, hn]
    · by_cases he : state.tradeId = trade
      · subst he
        obtain rfl : current = row := Option.some.inj (ht.found.symm.trans hrow)
        refine ⟨current.assign state now, by rw [ht.runtime, if_pos rfl], ?_⟩
        have hm : movesVersion (event (runWrite codec) call db) state.tradeId = true := by
          simp [movesVersion, event, h, hn, Except.isOk, Except.toBool]
        rw [if_pos hm, ht.expected]
        exact ht.next
      · refine ⟨row, by rw [ht.runtime, if_neg he, hrow], ?_⟩
        simp [movesVersion, event, hn, he]

theorem transitioned_of_runWrite {codec : Codec V} {call : RepositoryCall V} {db db' : ExitDb}
    {trade : String} {v : ℤ} (h : runWrite codec call db = (.ok (), db'))
    (hslot : call.transitionSlot = some (trade, v)) :
    ∃ state now current, state.tradeId = trade ∧ Transitioned state v now db db' current := by
  rcases runWrite_runtime h with ⟨hn, -⟩ | ⟨hn, -⟩ | ⟨state, _, now, current, hs, ht⟩
  · exact nomatch hn.symm.trans hslot
  · exact nomatch hn.symm.trans hslot
  · obtain ⟨rfl, rfl⟩ : state.tradeId = trade ∧ _ = v := by simpa using hs.symm.trans hslot
    exact ⟨state, now, current, rfl, ht⟩

/-- Once a transition has returned, its expected version is in the past for good. -/
theorem version_passed {codec : Codec V} {call call' : RepositoryCall V} {db db₁ db₂ db' : ExitDb}
    {trade : String} {v : ℤ} (h : runWrite codec call db = (.ok (), db₁)) (hl : Later db₁ db₂)
    (hslot : call.transitionSlot = some (trade, v))
    (hslot' : call'.transitionSlot = some (trade, v)) :
    runWrite codec call' db₂ ≠ (.ok (), db') := by
  intro h'
  obtain ⟨state, now, current, rfl, ht⟩ := transitioned_of_runWrite h hslot
  obtain ⟨state', now', current', he, ht'⟩ := transitioned_of_runWrite h' hslot'
  have hafter : db₁.runtime.get? state.tradeId = some (current.assign state now) := by
    rw [ht.runtime, if_pos rfl]
  obtain ⟨row, hrow, hadv⟩ := hl.runtime _ _ hafter
  have hfound : db₂.runtime.get? state.tradeId = some current' := he ▸ ht'.found
  obtain rfl : row = current' := Option.some.inj (hrow.symm.trans hfound)
  have hversion : state.stateVersion ≤ row.stateVersion := hadv.version
  have hnext := ht.next
  have hexp := ht'.expected
  omega

/-- The exit state is a monotone log without lost updates. Of two transitions of one trade with one
expected version at most one returns; a version moves by one with each transition that returns and
only then; valid rows advance and keep their identity; a write that raises changes nothing. -/
theorem exit_state_monotone_log (codec : Codec V) (calls : List (RepositoryCall V)) :
    (writes codec calls).Pairwise (fun e f =>
      Later e.after f.before ∧
        (e.call.transitionSlot ≠ none → e.call.transitionSlot = f.call.transitionSlot →
          ¬(e.result = .ok () ∧ f.result = .ok ()))) ∧
    ∀ e ∈ writes codec calls,
      (∀ trade row, e.before.runtime.get? trade = some row →
        ∃ row', e.after.runtime.get? trade = some row' ∧
          row'.stateVersion = row.stateVersion + if movesVersion e trade then 1 else 0) ∧
      (Later e.before e.after ∧ e.before.WellFormed ∧ e.after.WellFormed) ∧
      ∀ ex, e.result = .error ex → e.after = e.before := by
  have hmem {e : WriteEvent V} (he : e ∈ writes codec calls) :
      e.before.WellFormed ∧ e = event (runWrite codec) e.call e.before :=
    eq_event_of_mem_trace (wellFormed_runWrite codec) ExitDb.wellFormed_empty he
  constructor
  · have hlater := pairwise_trace Later.refl Later.trans (later_runWrite codec) ExitDb.empty calls
    refine hlater.imp_of_mem fun {e f} he hf hl => ⟨hl, fun hsome hslot hok => ?_⟩
    obtain ⟨⟨trade, v⟩, hs⟩ := Option.ne_none_iff_exists'.mp hsome
    have hret {g : WriteEvent V} (hg : g ∈ writes codec calls) (hr : g.result = .ok ()) :
        runWrite codec g.call g.before = (.ok (), g.after) := by
      rw [(hmem hg).2] at hr ⊢
      exact Prod.ext hr rfl
    exact version_passed (hret he hok.1) hl hs (hslot ▸ hs) (hret hf hok.2)
  · intro e he
    obtain ⟨hwf, hev⟩ := hmem he
    rw [hev]
    refine ⟨fun trade row hrow => stateVersion_runWrite codec _ _ hrow,
      ⟨later_runWrite codec _ _, hwf, wellFormed_runWrite codec _ _ hwf⟩, fun ex hex => runWrite_error hex⟩

end Bhiksha
