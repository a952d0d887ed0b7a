import Bhiksha.Persistence.ActionIntent

/-! What the four intent operations do to the intents when they succeed. -/

namespace Bhiksha

open Library

variable {V : Type}

theorem IntentStatus.isTerminal_iff (s : IntentStatus) :
    s.IsTerminal ↔ s ∉ [IntentStatus.prepared, IntentStatus.submitted] := by
  cases s <;> decide

/-- What the law of absorbing intents allows one call to do to one intent. -/
structure IntentKept (row row' : ExitActionIntent) : Prop where
  slot : row'.slot = row.slot
  boundOrder : ∀ o, row.brokerOrderId = some o → row'.brokerOrderId = some o
  terminal : row.status.IsTerminal →
    row'.status = row.status ∧ row'.brokerOrderId = row.brokerOrderId
      ∧ row'.handoffStage = row.handoffStage

theorem IntentKept.refl (row : ExitActionIntent) : IntentKept row row :=
  ⟨rfl, fun _ h => h, fun _ => ⟨rfl, rfl, rfl⟩⟩

/-- Every intent of `db` is still there in `db'`, and kept. -/
def IntentsKept (db db' : ExitDb) : Prop :=
  ∀ k row, db.intents.get? k = some row →
    ∃ row', db'.intents.get? k = some row' ∧ IntentKept row row'

theorem intentsKept_of_same {db db' : ExitDb} (h : db'.intents = db.intents) :
    IntentsKept db db' :=
  fun _ row hr => ⟨row, by rwa [h], IntentKept.refl row⟩

/-- At most one intent per trade and action slot. -/
def UniqueSlots (db : ExitDb) : Prop :=
  ∀ a ∈ db.intents.rows, ∀ b ∈ db.intents.rows, a.slot = b.slot → a = b

theorem get?_updateIntent {key : String} {f : ExitActionIntent → ExitActionIntent}
    (hf : ∀ r, (f r).idempotencyKey = r.idempotencyKey) (db : ExitDb) (k : String) :
    (updateIntent key f hf db).intents.get? k =
      if k = key then (db.intents.get? k).map f else db.intents.get? k := by
  refine (Table.get?_update db.intents _ f hf k).trans ?_
  cases hg : db.intents.get? k with
  | none => simp
  | some row =>
    have hk : row.idempotencyKey = k := Table.key_of_get? hg
    by_cases he : k = key <;> simp [hk, he]

theorem intentsKept_updateIntent {key : String} {f : ExitActionIntent → ExitActionIntent}
    (hf : ∀ r, (f r).idempotencyKey = r.idempotencyKey) {db : ExitDb}
    (h : ∀ row, db.intents.get? key = some row → IntentKept row (f row)) :
    IntentsKept db (updateIntent key f hf db) := by
  intro k row hk
  rw [get?_updateIntent]
  by_cases he : k = key
  · subst he
    exact ⟨f row, by simp [hk], h row hk⟩
  · exact ⟨row, by simp [hk, he], IntentKept.refl row⟩

theorem uniqueSlots_updateIntent {key : String} {f : ExitActionIntent → ExitActionIntent}
    (hf : ∀ r, (f r).idempotencyKey = r.idempotencyKey) (hs : ∀ r, (f r).slot = r.slot)
    {db : ExitDb} (h : UniqueSlots db) : UniqueSlots (updateIntent key f hf db) := by
  intro a ha b hb hab
  obtain ⟨x, hx, rfl⟩ := (Table.mem_update_iff _ _ _ hf _).mp ha
  obtain ⟨y, hy, rfl⟩ := (Table.mem_update_iff _ _ _ hf _).mp hb
  have hxy : x = y := h x hx y hy (by split_ifs at hab <;> simpa only [hs] using hab)
  rw [hxy]

/-- A successful preparation inserts a row in a free slot, or repeats the one that is there. -/
theorem prepareActionIntentSync_ok {intent : ExitActionIntent} {now : String} {db db' : ExitDb}
    (h : Tx.run (prepareActionIntentSync intent now) db = (.ok (), db')) :
    db'.policies = db.policies ∧ db'.runtime = db.runtime ∧
      (db'.intents = db.intents ∨
        ∃ hfree : db.intents.get? intent.idempotencyKey = none,
          (∀ r ∈ db.intents.rows, r.slot ≠ intent.slot) ∧
            db'.intents = db.intents.insert (intent.preparedRow now) hfree) := by
  obtain ⟨c, hb, rfl⟩ := Tx.run_eq_ok_iff.mp h
  simp only [Tx.bind_eq_ok_iff, Tx.raiseIf_eq_ok_iff, Tx.query_eq_ok_iff,
    Tx.orRaise_eq_ok_iff, Tx.tryCatch_eq_ok_iff, Tx.statement_eq_error_iff] at hb
  obtain ⟨_, _, ⟨-, rfl⟩, _, _, ⟨rfl, rfl⟩, runtime, _, ⟨-, rfl⟩, _, _, ⟨-, rfl⟩, _, _,
    ⟨-, rfl⟩, hins | ⟨_, _, ⟨-, rfl⟩, _, _, ⟨-, rfl⟩, -, rfl⟩⟩ := hb
  · obtain ⟨d, hd, rfl⟩ := Tx.statement_eq_ok_iff.mp hins
    unfold insertIntent at hd
    split at hd
    · next hfree =>
      obtain rfl := congrArg Prod.snd (Except.ok.inj hd)
      exact ⟨rfl, rfl, Or.inr ⟨hfree.1, hfree.2, rfl⟩⟩
    · cases hd
  · exact ⟨rfl, rfl, Or.inl rfl⟩

theorem updateActionHandoffSync_ok {codec : Codec V} {key stage now : String}
    {restore : Option String} {payload : Option (JsonObject V)} {db db' : ExitDb}
    (h : Tx.run (updateActionHandoffSync codec key stage restore payload now) db = (.ok (), db')) :
    ∃ row, db.intents.get? key = some row ∧ ¬row.status.IsTerminal ∧
      db' = updateIntent key (ExitActionIntent.advanceHandoff stage restore
        (payload.map codec.dumpsPayload) now) (fun _ => rfl) db := by
  obtain ⟨c, hb, rfl⟩ := Tx.run_eq_ok_iff.mp h
  simp only [Tx.bind_eq_ok_iff, Tx.raiseIf_eq_ok_iff, Tx.query_eq_ok_iff,
    Tx.orRaise_eq_ok_iff, ← IntentStatus.isTerminal_iff] at hb
  obtain ⟨_, _, ⟨-, rfl⟩, _, _, ⟨rfl, rfl⟩, row, _, ⟨hrow, rfl⟩, _, _, ⟨ht, rfl⟩, _, _,
    ⟨-, rfl⟩, he⟩ := hb
  obtain ⟨d, hd, rfl⟩ := Tx.statement_eq_ok_iff.mp he
  exact ⟨row, hrow, ht, (congrArg Prod.snd (Except.ok.inj hd)).symm⟩

theorem bindActionOrderSync_ok {codec : Codec V} {key order now : String}
    {payload : Option (JsonObject V)} {db db' : ExitDb}
    (h : Tx.run (bindActionOrderSync codec key order payload now) db = (.ok (), db')) :
    ∃ row, db.intents.get? key = some row ∧ ¬row.status.IsTerminal ∧
      (row.brokerOrderId = none ∨ row.brokerOrderId = some order) ∧
      db' = updateIntent key (ExitActionIntent.bindOrder order
        (payload.map codec.dumpsPayload) now) (fun _ => rfl) db := by
  obtain ⟨c, hb, rfl⟩ := Tx.run_eq_ok_iff.mp h
  simp only [Tx.bind_eq_ok_iff, Tx.raiseIf_eq_ok_iff, Tx.query_eq_ok_iff,
    Tx.orRaise_eq_ok_iff, ← IntentStatus.isTerminal_iff] at hb
  obtain ⟨_, _, ⟨rfl, rfl⟩, row, _, ⟨hrow, rfl⟩, _, _, ⟨hid, rfl⟩, _, _, ⟨ht, rfl⟩, he⟩ := hb
  obtain ⟨d, hd, rfl⟩ := Tx.statement_eq_ok_iff.mp he
  exact ⟨row, hrow, ht, by tauto, (congrArg Prod.snd (Except.ok.inj hd)).symm⟩

theorem resolveActionIntentSync_ok {codec : Codec V} {key status now : String}
    {payload : Option (JsonObject V)} {db db' : ExitDb}
    (h : Tx.run (resolveActionIntentSync codec key status payload now) db = (.ok (), db')) :
    ∃ s, terminalStatus? status = some s ∧
      db' = updateIntent key (ExitActionIntent.resolve s (payload.map codec.dumpsPayload) now)
        (fun _ => rfl) db := by
  obtain ⟨c, hb, rfl⟩ := Tx.run_eq_ok_iff.mp h
  simp only [Tx.bind_eq_ok_iff, Tx.raiseIf_eq_ok_iff, Tx.orRaise_eq_ok_iff,
    Tx.statement_eq_ok_iff] at hb
  obtain ⟨s, _, ⟨hs, rfl⟩, count, _, ⟨d, hd, rfl⟩, -, rfl⟩ := hb
  exact ⟨s, hs, (congrArg Prod.snd (Except.ok.inj hd)).symm⟩

end Bhiksha
