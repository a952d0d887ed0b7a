import Bhiksha.Persistence.RuntimeState

/-! What a freeze and a transition do to the tables when they succeed. -/

namespace Bhiksha

open Library

variable {V : Type}

/-- A later version of the same runtime row. -/
structure Advances (row row' : ExitRuntimeState) : Prop extends NonRegression row row' where
  policyHash : row'.policyHash = row.policyHash
  seedEntryPremium : row'.seedEntryPremium = row.seedEntryPremium
  seedQuantity : row'.seedQuantity = row.seedQuantity
  initialRisk : row'.initialRiskPerContract = row.initialRiskPerContract
  version : row.stateVersion ≤ row'.stateVersion

theorem Advances.refl (row : ExitRuntimeState) : Advances row row :=
  ⟨NonRegression.refl row, rfl, rfl, rfl, rfl, le_rfl⟩

theorem Advances.trans {a b c : ExitRuntimeState} (h : Advances a b) (h' : Advances b c) :
    Advances a c where
  toNonRegression := h.toNonRegression.trans h'.toNonRegression
  policyHash := h'.policyHash.trans h.policyHash
  seedEntryPremium := h'.seedEntryPremium.trans h.seedEntryPremium
  seedQuantity := h'.seedQuantity.trans h.seedQuantity
  initialRisk := h'.initialRisk.trans h.initialRisk
  version := h.version.trans h'.version

/-- The tables of `db'` continue those of `db`: frozen policies stay, runtime rows advance. -/
structure Later (db db' : ExitDb) : Prop where
  policies : ∀ t row, db.policies.get? t = some row → db'.policies.get? t = some row
  runtime : ∀ t row, db.runtime.get? t = some row →
    ∃ row', db'.runtime.get? t = some row' ∧ Advances row.toExitRuntimeState row'.toExitRuntimeState

theorem Later.refl (db : ExitDb) : Later db db :=
  ⟨fun _ _ h => h, fun _ row h => ⟨row, h, Advances.refl _⟩⟩

theorem Later.trans {a b c : ExitDb} (h : Later a b) (h' : Later b c) : Later a c where
  policies t row ha := h'.policies t row (h.policies t row ha)
  runtime t row ha := by
    obtain ⟨row', hb, hr⟩ := h.runtime t row ha
    obtain ⟨row'', hc, hr'⟩ := h'.runtime t row' hb
    exact ⟨row'', hc, hr.trans hr'⟩

theorem later_of_same {db db' : ExitDb} (hp : db'.policies = db.policies)
    (hr : db'.runtime = db.runtime) : Later db db' where
  policies _ _ h := by rwa [hp]
  runtime _ row h := ⟨row, by rwa [hr], Advances.refl _⟩

def ExitDb.WellFormed (db : ExitDb) : Prop :=
  ∀ t row, db.runtime.get? t = some row → row.toExitRuntimeState.Valid

theorem ExitDb.wellFormed_empty : ExitDb.empty.WellFormed := by
  intro t row h
  cases h

/-- The policy half of a successful freeze. -/
theorem freezePolicy_ok {tradeId frozenAt : String} {proposed : PolicyIdentity}
    {c c' : Conn ExitDb} (h : freezePolicy tradeId proposed frozenAt c = (.ok (), c')) :
    c'.pending.runtime = c.pending.runtime ∧ c'.pending.intents = c.pending.intents ∧
      (∀ t row, c.pending.policies.get? t = some row → c'.pending.policies.get? t = some row) ∧
      ∃ row, c'.pending.policies.get? tradeId = some row ∧ row.toPolicyIdentity = proposed := by
  simp only [freezePolicy, Tx.bind_eq_ok_iff, Tx.query_eq_ok_iff,
    Tx.rollbackRaiseIf_eq_ok_iff] at h
  obtain ⟨existing, _, ⟨hq, rfl⟩, _, _, ⟨hsame, rfl⟩, h⟩ := h
  split at h
  · next hnone =>
    rw [hnone] at hq
    obtain ⟨d, hd, rfl⟩ := Tx.statement_eq_ok_iff.mp h
    have hfree : c.pending.policies.get? tradeId = none := hq
    rw [insertPolicy, dif_pos hfree] at hd
    obtain rfl := congrArg Prod.snd (Except.ok.inj hd)
    refine ⟨rfl, rfl, fun t row hrow => ?_, { proposed with tradeId, frozenAt }, ?_, rfl⟩
    · have hne : tradeId ≠ t := fun he => by
        rw [he, hrow] at hfree
        cases hfree
      simpa [Table.get?_insert, hne] using hrow
    · simp [Table.get?_insert]
  · next hsome =>
    obtain ⟨-, rfl⟩ := Tx.pure_eq_ok_iff.mp h
    obtain ⟨row, hrow⟩ := Option.ne_none_iff_exists'.mp hsome
    refine ⟨rfl, rfl, fun _ _ h => h, row, hq.trans hrow, ?_⟩
    by_contra hne
    exact hsame ⟨row, hrow, hne⟩

/-- The runtime half of a successful freeze: a valid first row, or the row that is there. -/
theorem initializeState_ok {state : ExitRuntimeState} {now : String} {c c' : Conn ExitDb}
    (h : initializeState state now c = (.ok (), c')) :
    c'.pending.policies = c.pending.policies ∧ c'.pending.intents = c.pending.intents ∧
      (c'.pending.runtime = c.pending.runtime ∨
        state.Valid ∧ c.pending.runtime.get? state.tradeId = none ∧
          ∀ t, c'.pending.runtime.get? t =
            if state.tradeId = t then some { state with updatedAt := now }
            else c.pending.runtime.get? t) := by
  simp only [initializeState, Tx.bind_eq_ok_iff, Tx.query_eq_ok_iff,
    Tx.rollbackRaiseIf_eq_ok_iff] at h
  obtain ⟨existing, _, ⟨hq, rfl⟩, _, _, ⟨-, rfl⟩, h⟩ := h
  split at h
  · next hnone =>
    rw [hnone] at hq
    simp only [insertState, Tx.bind_eq_ok_iff, Tx.lift_eq_ok_iff] at h
    obtain ⟨_, _, ⟨hv, rfl⟩, h⟩ := h
    obtain ⟨d, hd, rfl⟩ := Tx.statement_eq_ok_iff.mp h
    have hfree : c.pending.runtime.get? (RuntimeRow.key { state with updatedAt := now }) = none :=
      hq
    rw [insertRuntimeRow, dif_pos hfree] at hd
    obtain rfl := congrArg Prod.snd (Except.ok.inj hd)
    exact ⟨rfl, rfl, Or.inr ⟨(validateRuntimeState_eq_ok_iff state).mp hv, hfree,
      fun t => Table.get?_insert _ _ hfree t⟩⟩
  · obtain ⟨-, rfl⟩ := Tx.pure_eq_ok_iff.mp h
    exact ⟨rfl, rfl, Or.inl rfl⟩

/-- What a successful freeze leaves behind. -/
structure Froze (state : ExitRuntimeState) (now : String) (db db' : ExitDb) : Prop where
  intents : db'.intents = db.intents
  policies : ∀ t row, db.policies.get? t = some row → db'.policies.get? t = some row
  runtime : db'.runtime = db.runtime ∨
    state.Valid ∧ db.runtime.get? state.tradeId = none ∧
      ∀ t, db'.runtime.get? t =
        if state.tradeId = t then some { state with updatedAt := now } else db.runtime.get? t

theorem freezePolicyAndInitializeStateSync_ok {codec : Codec V}
    {snapshot : TradeExitPolicySnapshot V} {state : ExitRuntimeState} {now : String}
    {db db' : ExitDb}
    (h : Tx.run (freezePolicyAndInitializeStateSync codec snapshot state now) db = (.ok (), db')) :
    Froze state now db db' := by
  obtain ⟨c, hb, rfl⟩ := Tx.run_eq_ok_iff.mp h
  simp only [Tx.bind_eq_ok_iff, Tx.lift_eq_ok_iff, Tx.raiseIf_eq_ok_iff] at hb
  obtain ⟨_, _, ⟨-, rfl⟩, _, _, ⟨-, rfl⟩, _, _, ⟨-, rfl⟩, _, _, ⟨-, rfl⟩, _, _, ⟨-, rfl⟩, _, c₁,
    hp, hs⟩ := hb
  obtain ⟨hpr, hpi, hpp, -⟩ := freezePolicy_ok hp
  obtain ⟨hsp, hsi, hsr⟩ := initializeState_ok hs
  refine ⟨hsi.trans hpi, fun t row ht => ?_, ?_⟩
  · rw [hsp]
    exact hpp t row ht
  · simpa only [hpr] using hsr

/-- What a successful transition leaves behind. -/
structure Transitioned (state : ExitRuntimeState) (expectedVersion : ℤ) (now : String)
    (db db' : ExitDb) (current : RuntimeRow) : Prop where
  found : db.runtime.get? state.tradeId = some current
  expected : current.stateVersion = expectedVersion
  next : state.stateVersion = expectedVersion + 1
  valid : state.Valid
  policyHash : current.policyHash = state.policyHash
  seedEntryPremium : current.seedEntryPremium = state.seedEntryPremium
  seedQuantity : current.seedQuantity = state.seedQuantity
  nonRegression : NonRegression current.toExitRuntimeState state
  policies : db'.policies = db.policies
  intents : db'.intents = db.intents
  runtime : ∀ t, db'.runtime.get? t =
    if state.tradeId = t then some (current.assign state now) else db.runtime.get? t

theorem get?_updateRuntimeRow {state : ExitRuntimeState} {v : ℤ} {now : String} {db : ExitDb}
    {current : RuntimeRow} (hf : db.runtime.get? state.tradeId = some current)
    (hv : current.stateVersion = v) (t : String) :
    (updateRuntimeRow state v now db).2.runtime.get? t =
      if state.tradeId = t then some (current.assign state now) else db.runtime.get? t := by
  have hkey (row : RuntimeRow) : RuntimeRow.key (row.assign state now) = RuntimeRow.key row := rfl
  refine (Table.get?_update db.runtime _ _ hkey t).trans ?_
  by_cases ht : state.tradeId = t
  · subst ht
    have hk : RuntimeRow.key current = state.tradeId := Table.key_of_get? hf
    have hk' : current.tradeId = state.tradeId := hk
    simp [hf, hk', hv]
  · cases hg : db.runtime.get? t with
    | none => simp [ht]
    | some row =>
      have hk : RuntimeRow.key row = t := Table.key_of_get? hg
      have hne : row.tradeId ≠ state.tradeId := fun he => ht (he.symm.trans hk)
      simp [ht, hne]

theorem transitionRuntimeStateSync_ok {state : ExitRuntimeState} {v : ℤ} {now : String}
    {db db' : ExitDb} (h : Tx.run (transitionRuntimeStateSync state v now) db = (.ok (), db')) :
    ∃ current, Transitioned state v now db db' current := by
  obtain ⟨c, hb, rfl⟩ := Tx.run_eq_ok_iff.mp h
  simp only [Tx.bind_eq_ok_iff, Tx.lift_eq_ok_iff, Tx.raiseIf_eq_ok_iff, Tx.query_eq_ok_iff,
    Tx.orRaise_eq_ok_iff, Tx.rollbackRaiseIf_eq_ok_iff, Tx.statement_eq_ok_iff, not_not,
    Prod.mk.injEq] at hb
  obtain ⟨_, _, ⟨hv, rfl⟩, _, _, ⟨hn, rfl⟩, _, _, ⟨rfl, rfl⟩, current, _, ⟨hf, rfl⟩, _, _,
    ⟨he, rfl⟩, _, _, ⟨hid, rfl⟩, _, _, ⟨hr, rfl⟩, count, _, ⟨d, hd, rfl⟩, -, rfl⟩ := hb
  obtain rfl : (updateRuntimeRow state v now db).2 = d :=
    (congrArg Prod.snd (Except.ok.inj hd))
  exact ⟨current, hf, he, hn, (validateRuntimeState_eq_ok_iff state).mp hv, hid.2.2.1,
    hid.2.2.2.1, hid.2.2.2.2, (requireNonRegression_eq_ok_iff _ _).mp hr, rfl, rfl,
    get?_updateRuntimeRow hf he⟩

theorem Transitioned.advances {state : ExitRuntimeState} {v : ℤ} {now : String}
    {db db' : ExitDb} {current : RuntimeRow} (h : Transitioned state v now db db' current) :
    Advances current.toExitRuntimeState (current.assign state now).toExitRuntimeState where
  toNonRegression := ⟨h.nonRegression.peak, h.nonRegression.peakR, h.nonRegression.floor,
    h.nonRegression.stop, h.nonRegression.target1, h.nonRegression.banked,
    h.nonRegression.breakeven⟩
  policyHash := rfl
  seedEntryPremium := rfl
  seedQuantity := rfl
  initialRisk := rfl
  version := by
    change current.stateVersion ≤ state.stateVersion
    have he := h.expected
    have hn := h.next
    omega

theorem Transitioned.valid_assign {state : ExitRuntimeState} {v : ℤ} {now : String}
    {db db' : ExitDb} {current : RuntimeRow} (h : Transitioned state v now db db' current)
    (hc : current.toExitRuntimeState.Valid) :
    (current.assign state now).toExitRuntimeState.Valid where
  version_pos := h.valid.version_pos
  premium_pos := hc.premium_pos
  quantity_pos := hc.quantity_pos
  risk_pos := hc.risk_pos
  seed_le_peak := h.seedEntryPremium.trans_le h.valid.seed_le_peak
  peakR_nonneg := h.valid.peakR_nonneg
  banked_nonneg := h.valid.banked_nonneg
  banked_le_seed := h.valid.banked_le_seed.trans_eq h.seedQuantity.symm

/-- A freeze leaves the runtime rows that exist alone. -/
theorem Froze.get?_runtime {state : ExitRuntimeState} {now : String} {db db' : ExitDb}
    (h : Froze state now db db') {t : String} {row : RuntimeRow}
    (ht : db.runtime.get? t = some row) : db'.runtime.get? t = some row := by
  rcases h.runtime with hr | ⟨-, hfree, hr⟩
  · rwa [hr]
  · have hne : state.tradeId ≠ t := fun he => by
      rw [he, ht] at hfree
      cases hfree
    rw [hr t, if_neg hne, ht]

theorem Froze.later {state : ExitRuntimeState} {now : String} {db db' : ExitDb}
    (h : Froze state now db db') : Later db db' where
  policies := h.policies
  runtime _ row ht := ⟨row, h.get?_runtime ht, Advances.refl _⟩

theorem Transitioned.later {state : ExitRuntimeState} {v : ℤ} {now : String} {db db' : ExitDb}
    {current : RuntimeRow} (h : Transitioned state v now db db' current) : Later db db' where
  policies t row ht := by rwa [h.policies]
  runtime t row ht := by
    by_cases he : state.tradeId = t
    · subst he
      obtain rfl : current = row := Option.some.inj (h.found.symm.trans ht)
      exact ⟨_, by rw [h.runtime, if_pos rfl], h.advances⟩
    · exact ⟨row, by rw [h.runtime, if_neg he, ht], Advances.refl _⟩

theorem Froze.wellFormed {state : ExitRuntimeState} {now : String} {db db' : ExitDb}
    (h : Froze state now db db') (hdb : db.WellFormed) : db'.WellFormed := by
  intro t row ht
  rcases h.runtime with hr | ⟨hv, -, hr⟩
  · exact hdb t row (by rwa [hr] at ht)
  · rw [hr t] at ht
    split at ht
    · obtain rfl := Option.some.inj ht
      exact hv
    · exact hdb t row ht

theorem Transitioned.wellFormed {state : ExitRuntimeState} {v : ℤ} {now : String}
    {db db' : ExitDb} {current : RuntimeRow} (h : Transitioned state v now db db' current)
    (hdb : db.WellFormed) : db'.WellFormed := by
  intro t row ht
  rw [h.runtime t] at ht
  split at ht
  · obtain rfl := Option.some.inj ht
    exact h.valid_assign (hdb _ _ h.found)
  · exact hdb t row ht

end Bhiksha
