import Mathlib.Algebra.Group.Submonoid.BigOperators
import Mathlib.Tactic.Linarith
import Bhiksha.Risk.CashGuard

/-! The settled-cash budget of a day over every interleaving of guard calls. -/

namespace Bhiksha

open Library

/-- What a reservation takes from the budget of a day. -/
def CashBudgetReservation.contribution (tradeDate : ℤ) (r : CashBudgetReservation) : ℚ :=
  if r.tradeDate = tradeDate ∧ r.status ≠ .released then r.amount else 0

/-- The sum of the active reservations of a day. -/
def CashState.activeTotal (s : CashState) (tradeDate : ℤ) : ℚ :=
  s.reservations.total (CashBudgetReservation.contribution tradeDate)

/-- The row of a trade that holds nothing: there is none, or it is released. -/
def Idle (row : Option CashBudgetReservation) : Prop := ∀ r ∈ row, r.status = .released

/-- The row of a trade, if there is one, is active. -/
def NotReleased (row : Option CashBudgetReservation) : Prop := ∀ r ∈ row, r.status ≠ .released

/-- The day row is there as created, amounts are whole cents and the active ones fit the budget. -/
structure WithinBudget (day : CashBudgetDay) (s : CashState) : Prop where
  row : s.days.get? day.tradeDate = some day
  amounts : ∀ r ∈ s.reservations.rows, 0 ≤ r.amount ∧ r.amount ∈ Python.decimalGrid 2
  bound : s.activeTotal day.tradeDate ≤ day.usableBudget

section Discipline

variable (synthetic : String → Bool)

/-- The calls that may overlap: a trade is not finalized next to a release of it, by its own call or
by the sweep of a reservation, and is not reserved twice at a time. -/
def CashCall.Compatible : CashCall → CashCall → Prop
  | .finalizeEntry t, .releaseEntry t' | .releaseEntry t, .finalizeEntry t' => t ≠ t'
  | .finalizeEntry t, .reserveEntry .. | .reserveEntry .., .finalizeEntry t => synthetic t = false
  | .reserveEntry t _ _ reserve, .reserveEntry t' _ _ reserve' => reserve → reserve' → t ≠ t'
  | _, _ => True

/-- A trade is not finalized after its release and is reserved only while it holds nothing. -/
def CashCall.Ready (s : CashState) : CashCall → Prop
  | .reserveEntry t _ _ reserve => reserve → Idle (s.reservations.get? t)
  | .finalizeEntry t => NotReleased (s.reservations.get? t)
  | .releaseEntry _ => True

/-- The discipline of the callers: what may start in a configuration. -/
def CashCall.MayStart {α : Type} (call : CashCall)
    (cfg : Config CashState CashCall cashInterface α) : Prop :=
  call.Ready cfg.state ∧
    ∀ t ∈ cfg.threads, t.rest.running → call.Compatible synthetic t.call

theorem CashCall.Compatible.symm {c c' : CashCall} (h : c.Compatible synthetic c') :
    c'.Compatible synthetic c := by
  cases c with
  | reserveEntry t cash time reserve =>
    cases c' with
    | reserveEntry t' cash' time' reserve' => exact fun hr' hr heq => h hr hr' heq.symm
    | finalizeEntry t' => exact h
    | releaseEntry t' => trivial
  | finalizeEntry t =>
    cases c' with
    | reserveEntry t' cash' time' reserve' => exact h
    | finalizeEntry t' => trivial
    | releaseEntry t' => exact Ne.symm h
  | releaseEntry t =>
    cases c' with
    | reserveEntry t' cash' time' reserve' => trivial
    | finalizeEntry t' => exact Ne.symm h
    | releaseEntry t' => trivial

/-- What an operation of a call may do to the row of a trade. -/
inductive RowStep (call : CashCall) (op : CashOp) (t : String) :
    Option CashBudgetReservation → Option CashBudgetReservation → Prop where
  | same (row : Option CashBudgetReservation) : RowStep call op t row row
  | consume (r : CashBudgetReservation) (hcall : call = .finalizeEntry t)
      (hactive : r.status ≠ .released) :
    RowStep call op t (some r) (some { r with status := .consumed })
  | release (r : CashBudgetReservation) (hcall : call = .releaseEntry t)
      (hop : op = .markReservationStatus t .released) :
    RowStep call op t (some r) (some { r with status := .released })
  | sweep (r : CashBudgetReservation) (id : String) (cash time : ℚ) (reserve : Bool)
      (hcall : call = .reserveEntry id cash time reserve) (hsynthetic : synthetic t)
      (hop : op = .releaseSyntheticReservations r.tradeDate) :
    RowStep call op t (some r) (some { r with status := .released })
  | reserve (row : Option CashBudgetReservation) (r : CashBudgetReservation) (cash time : ℚ)
      (hcall : call = .reserveEntry t cash time true) (hidle : Idle row)
      (hreserved : r.status = .reserved) :
    RowStep call op t row (some r)

/-- What every operation of a call guarantees. -/
structure CashGuarantee (day : CashBudgetDay) (call : CashCall) (i : ℕ) (op : CashOp)
    (s s' : CashState) : Prop where
  budget : WithinBudget day s → WithinBudget day s'
  lock : ∀ k, k ≠ i → s.lock = some k →
    s'.lock = some k ∧ s'.activeTotal day.tradeDate ≤ s.activeTotal day.tradeDate
  rows : ∀ t, RowStep synthetic call op t (s.reservations.get? t) (s'.reservations.get? t)

/-- What a call relies on while others run. -/
structure CashRely (day : CashBudgetDay) (call : CashCall) (i : ℕ) (s s' : CashState) : Prop where
  budget : WithinBudget day s → WithinBudget day s'
  lock : s.lock = some i →
    s'.lock = some i ∧ s'.activeTotal day.tradeDate ≤ s.activeTotal day.tradeDate
  idle : ∀ t cash time, call = .reserveEntry t cash time true →
    Idle (s.reservations.get? t) → Idle (s'.reservations.get? t)
  active : ∀ t, call = .finalizeEntry t →
    NotReleased (s.reservations.get? t) → NotReleased (s'.reservations.get? t)

end Discipline

section Rows

variable {synthetic : String → Bool} {day : CashBudgetDay} {s : CashState}

theorem contribution_nonneg {tradeDate : ℤ} {r : CashBudgetReservation} (h : 0 ≤ r.amount) :
    0 ≤ r.contribution tradeDate := by
  unfold CashBudgetReservation.contribution
  split
  · exact h
  · exact le_refl _

theorem contribution_released (tradeDate : ℤ) (r : CashBudgetReservation) :
    ({ r with status := .released } : CashBudgetReservation).contribution tradeDate = 0 := by
  simp [CashBudgetReservation.contribution]

/-- The two totals that the guard reads add up to the active sum. -/
theorem totals_eq_activeTotal (tradeDate : ℤ) :
    (s.totals tradeDate).reserved + (s.totals tradeDate).consumed = s.activeTotal tradeDate := by
  simp only [CashState.totals, CashState.activeTotal, Table.total]
  induction s.reservations.rows with
  | nil => simp
  | cons r rows ih =>
    simp only [List.map_cons, List.sum_cons, ← ih]
    have hr : ((if r.tradeDate = tradeDate ∧ r.status = .reserved then r.amount else 0) +
        if r.tradeDate = tradeDate ∧ r.status = .consumed then r.amount else 0) =
        r.contribution tradeDate := by
      cases hstatus : r.status <;> simp [CashBudgetReservation.contribution, hstatus]
    rw [← hr]
    ring

theorem activeTotal_mem (h : ∀ r ∈ s.reservations.rows, r.amount ∈ Python.decimalGrid 2)
    (tradeDate : ℤ) : s.activeTotal tradeDate ∈ Python.decimalGrid 2 := by
  apply list_sum_mem
  intro x hx
  obtain ⟨r, hr, rfl⟩ := List.mem_map.mp hx
  unfold CashBudgetReservation.contribution
  split
  · exact h r hr
  · exact zero_mem _

theorem get?_markReservationStatus (t : String) (status : ReservationStatus) (t' : String) :
    (s.markReservationStatus t status).reservations.get? t' =
      if t' = t then (s.reservations.get? t').map fun r => { r with status := status }
      else s.reservations.get? t' := by
  rw [CashState.markReservationStatus, Table.get?_update]
  cases hget : s.reservations.get? t' with
  | none => simp
  | some r =>
    have hkey : r.tradeId = t' := Table.key_of_get? hget
    by_cases ht : t' = t <;> simp [hkey, ht]

theorem get?_releaseSynthetic (tradeDate : ℤ) (t : String) :
    (s.releaseSynthetic synthetic tradeDate).reservations.get? t =
      (s.reservations.get? t).map fun r =>
        if r.tradeDate = tradeDate && r.status ≠ .released && synthetic r.tradeId then
          { r with status := .released }
        else r := by
  rw [CashState.releaseSynthetic, Table.get?_update]

theorem get?_upsertReservation (r : CashBudgetReservation) (t : String) :
    (s.upsertReservation r).reservations.get? t =
      if r.tradeId = t then some r else s.reservations.get? t := by
  rw [CashState.upsertReservation, Table.get?_upsert]
  split
  · next ht =>
    cases hget : s.reservations.get? t with
    | none => rfl
    | some old =>
      have hkey : old.tradeId = t := Table.key_of_get? hget
      simp [hkey, ← ht]
  · rfl

theorem activeTotal_mark_released (t : String) (tradeDate : ℤ) :
    (s.markReservationStatus t .released).activeTotal tradeDate +
        (s.reservations.get? t).elim 0 (CashBudgetReservation.contribution tradeDate) =
      s.activeTotal tradeDate := by
  unfold CashState.activeTotal CashState.markReservationStatus
  rw [Table.total_update_key s.reservations t, s.reservations.total_eq_add_rest t]
  cases s.reservations.get? t with
  | none => simp
  | some r =>
    simp only [Option.elim_some, contribution_released]
    ring

theorem activeTotal_mark_consumed {t : String} (h : NotReleased (s.reservations.get? t))
    (tradeDate : ℤ) :
    (s.markReservationStatus t .consumed).activeTotal tradeDate = s.activeTotal tradeDate := by
  unfold CashState.activeTotal CashState.markReservationStatus
  rw [Table.total_update_key s.reservations t, s.reservations.total_eq_add_rest t]
  cases hget : s.reservations.get? t with
  | none => rfl
  | some r =>
    have hactive := h r hget
    simp [CashBudgetReservation.contribution, hactive]

theorem activeTotal_releaseSynthetic_le (hs : WithinBudget day s) (tradeDate tradeDate' : ℤ) :
    (s.releaseSynthetic synthetic tradeDate').activeTotal tradeDate ≤ s.activeTotal tradeDate := by
  unfold CashState.activeTotal CashState.releaseSynthetic
  refine Table.total_update_le s.reservations _ _ ?_ _ ?_
  · exact fun _ => rfl
  · intro r hr _
    rw [contribution_released]
    exact contribution_nonneg (hs.amounts r hr).1

theorem activeTotal_upsert_le (hs : WithinBudget day s) (r : CashBudgetReservation)
    (tradeDate : ℤ) :
    (s.upsertReservation r).activeTotal tradeDate ≤
      r.contribution tradeDate + s.activeTotal tradeDate := by
  unfold CashState.activeTotal CashState.upsertReservation
  rw [Table.total_upsert, s.reservations.total_eq_add_rest r.tradeId]
  cases hget : s.reservations.get? r.tradeId with
  | none => simp
  | some old =>
    have hkey : old.tradeId = r.tradeId := Table.key_of_get? hget
    have hold := @contribution_nonneg tradeDate old
      (hs.amounts old (Table.mem_of_get? hget)).1
    simp only [Option.map_some, Option.getD_some, Option.elim_some, hkey]
    linarith

theorem WithinBudget.of_le (hs : WithinBudget day s) (s' : CashState)
    (hday : s'.days.get? day.tradeDate = s.days.get? day.tradeDate)
    (hamounts : ∀ r ∈ s'.reservations.rows, ∃ r₀ ∈ s.reservations.rows, r₀.amount = r.amount)
    (hle : s'.activeTotal day.tradeDate ≤ s.activeTotal day.tradeDate) : WithinBudget day s' where
  row := hday.trans hs.row
  amounts := by
    intro r hr
    obtain ⟨r₀, hr₀, heq⟩ := hamounts r hr
    rw [← heq]
    exact hs.amounts r₀ hr₀
  bound := hle.trans hs.bound

theorem amounts_mark (t : String) (status : ReservationStatus) :
    ∀ r ∈ (s.markReservationStatus t status).reservations.rows,
      ∃ r₀ ∈ s.reservations.rows, r₀.amount = r.amount := by
  intro r hr
  unfold CashState.markReservationStatus at hr
  rw [Table.mem_update_iff] at hr
  obtain ⟨r₀, hr₀, rfl⟩ := hr
  exact ⟨r₀, hr₀, by split <;> rfl⟩

theorem amounts_releaseSynthetic (tradeDate : ℤ) :
    ∀ r ∈ (s.releaseSynthetic synthetic tradeDate).reservations.rows,
      ∃ r₀ ∈ s.reservations.rows, r₀.amount = r.amount := by
  intro r hr
  unfold CashState.releaseSynthetic at hr
  rw [Table.mem_update_iff] at hr
  obtain ⟨r₀, hr₀, rfl⟩ := hr
  exact ⟨r₀, hr₀, by split <;> rfl⟩

theorem activeTotal_mark_released_le (hs : WithinBudget day s) (t : String) (tradeDate : ℤ) :
    (s.markReservationStatus t .released).activeTotal tradeDate ≤ s.activeTotal tradeDate := by
  have htotal := activeTotal_mark_released (s := s) t tradeDate
  have hheld : 0 ≤ (s.reservations.get? t).elim 0
      (CashBudgetReservation.contribution tradeDate) := by
    cases hget : s.reservations.get? t with
    | none => exact le_refl _
    | some r => exact contribution_nonneg (hs.amounts r (Table.mem_of_get? hget)).1
  linarith

theorem withinBudget_mark_released (hs : WithinBudget day s) (t : String) :
    WithinBudget day (s.markReservationStatus t .released) :=
  hs.of_le (s.markReservationStatus t .released) rfl (amounts_mark t .released)
    (activeTotal_mark_released_le hs t day.tradeDate)

theorem withinBudget_mark_consumed (hs : WithinBudget day s) {t : String}
    (h : NotReleased (s.reservations.get? t)) :
    WithinBudget day (s.markReservationStatus t .consumed) :=
  hs.of_le (s.markReservationStatus t .consumed) rfl (amounts_mark t .consumed)
    (activeTotal_mark_consumed h day.tradeDate).le

theorem withinBudget_releaseSynthetic (hs : WithinBudget day s) (tradeDate : ℤ) :
    WithinBudget day (s.releaseSynthetic synthetic tradeDate) :=
  hs.of_le (s.releaseSynthetic synthetic tradeDate) rfl (amounts_releaseSynthetic tradeDate)
    (activeTotal_releaseSynthetic_le hs day.tradeDate tradeDate)

/-- A day row that the guard creates is one of another date. -/
theorem withinBudget_upsertDay (hs : WithinBudget day s) {day' : CashBudgetDay}
    (hdate : day'.tradeDate ≠ day.tradeDate) : WithinBudget day (s.upsertDay day') := by
  refine hs.of_le (s.upsertDay day') ?_ (fun r hr => ⟨r, hr, rfl⟩) (le_refl _)
  rw [CashState.upsertDay, Table.get?_upsert, if_neg hdate]

/-- A reservation that fits what the active ones leave. -/
theorem withinBudget_upsertReservation (hs : WithinBudget day s) {r : CashBudgetReservation}
    (hamount : 0 ≤ r.amount ∧ r.amount ∈ Python.decimalGrid 2)
    (hfits : r.contribution day.tradeDate + s.activeTotal day.tradeDate ≤ day.usableBudget) :
    WithinBudget day (s.upsertReservation r) where
  row := hs.row
  amounts := by
    intro r' hr'
    have hget := (Table.get?_eq_some_iff _ r'.tradeId r').mpr ⟨hr', rfl⟩
    rw [get?_upsertReservation] at hget
    split at hget
    · obtain rfl := Option.some.inj hget
      exact hamount
    · exact hs.amounts r' (Table.mem_of_get? hget)
  bound := (activeTotal_upsert_le hs r day.tradeDate).trans hfits

end Rows

section Calls

variable {newYorkDate : ℚ → ℤ} {getenv : String → Option String} {synthetic : String → Bool}
  {day : CashBudgetDay} {s : CashState}

theorem guarantee_same (call : CashCall) (i : ℕ) (op : CashOp) (s : CashState) :
    CashGuarantee synthetic day call i op s s where
  budget := id
  lock := fun _ _ hk => ⟨hk, le_refl _⟩
  rows := fun _ => .same _

theorem guarantee_release (hs : WithinBudget day s) (t : String) (i : ℕ) :
    CashGuarantee synthetic day (.releaseEntry t) i (.markReservationStatus t .released) s
      (s.markReservationStatus t .released) where
  budget := fun _ => withinBudget_mark_released hs t
  lock := fun _ _ hk => ⟨hk, activeTotal_mark_released_le hs t day.tradeDate⟩
  rows := by
    intro t'
    rw [get?_markReservationStatus]
    split
    · next ht =>
      subst ht
      cases s.reservations.get? t' with
      | none => exact .same none
      | some r => exact .release r rfl rfl
    · exact .same _

theorem guarantee_finalize (hs : WithinBudget day s) {t : String}
    (hactive : NotReleased (s.reservations.get? t)) (i : ℕ) :
    CashGuarantee synthetic day (.finalizeEntry t) i (.markReservationStatus t .consumed) s
      (s.markReservationStatus t .consumed) where
  budget := fun _ => withinBudget_mark_consumed hs hactive
  lock := fun _ _ hk => ⟨hk, (activeTotal_mark_consumed hactive day.tradeDate).le⟩
  rows := by
    intro t'
    rw [get?_markReservationStatus]
    split
    · next ht =>
      subst ht
      cases hget : s.reservations.get? t' with
      | none => exact .same none
      | some r => exact .consume r rfl (hactive r hget)
    · exact .same _

theorem guarantee_sweep (hs : WithinBudget day s) (id : String) (cash time : ℚ) (reserve : Bool)
    (tradeDate : ℤ) (i : ℕ) :
    CashGuarantee synthetic day (.reserveEntry id cash time reserve) i
      (.releaseSyntheticReservations tradeDate) s (s.releaseSynthetic synthetic tradeDate) where
  budget := fun _ => withinBudget_releaseSynthetic hs tradeDate
  lock := fun _ _ hk => ⟨hk, activeTotal_releaseSynthetic_le hs day.tradeDate tradeDate⟩
  rows := by
    intro t
    rw [get?_releaseSynthetic]
    cases hget : s.reservations.get? t with
    | none => exact .same none
    | some r =>
      have hkey : r.tradeId = t := Table.key_of_get? hget
      simp only [Option.map_some]
      split
      · next hswept =>
        simp only [Bool.and_eq_true, decide_eq_true_eq, hkey] at hswept
        exact .sweep r id cash time reserve rfl hswept.2 (by rw [hswept.1.1])
      · exact .same _

/-- Under the lock a reservation that fits the remaining budget keeps within it. -/
theorem guarantee_upsert (hs : WithinBudget day s) {t : String} {cash time required : ℚ}
    (hidle : Idle (s.reservations.get? t)) {i : ℕ} (hlock : s.lock = some i) {tradeDate : ℤ}
    (hrequired : 0 ≤ required ∧ required ∈ Python.decimalGrid 2)
    (hfits : tradeDate = day.tradeDate →
      required + s.activeTotal day.tradeDate ≤ day.usableBudget) :
    CashGuarantee synthetic day (.reserveEntry t cash time true) i
      (.upsertReservation ⟨t, tradeDate, required, .reserved⟩) s
      (s.upsertReservation ⟨t, tradeDate, required, .reserved⟩) where
  budget := by
    intro _
    apply withinBudget_upsertReservation hs hrequired
    unfold CashBudgetReservation.contribution
    split
    · next hcond => exact hfits hcond.1
    · rw [zero_add]
      exact hs.bound
  lock := by
    intro k hk hheld
    rw [hlock] at hheld
    exact absurd (Option.some.inj hheld).symm hk
  rows := by
    intro t'
    rw [get?_upsertReservation]
    split
    · next ht =>
      subst ht
      exact .reserve _ _ cash time rfl hidle rfl
    · exact .same _

theorem meets_releaseEntry (t : String) (i : ℕ) (hs : WithinBudget day s) :
    ((CashCall.releaseEntry t).body newYorkDate getenv).Meets (CashState.Exec synthetic i)
      (CashRely day (.releaseEntry t) i) (CashGuarantee synthetic day (.releaseEntry t) i)
      (fun _ _ => True) s := by
  have hkeep (a b : CashState) (h : CashRely day (.releaseEntry t) i a b) :
      WithinBudget day a → WithinBudget day b := h.budget
  unfold CashCall.body CashGuard.releaseEntry
  simp only [Program.perform, Program.call_bind, Program.pure_bind]
  refine Program.meets_call hkeep hs ?_
  rintro s₁ hs₁ ans s₂ ⟨rfl, rfl⟩
  refine ⟨guarantee_same _ _ _ _, ?_⟩
  split
  · exact fun _ _ => trivial
  split
  · exact fun _ _ => trivial
  refine Program.meets_call hkeep hs₁ ?_
  rintro s₃ hs₃ ans' s₄ rfl
  exact ⟨guarantee_release hs₃ t i, fun _ _ => trivial⟩

theorem meets_finalizeEntry (t : String) (i : ℕ) (hs : WithinBudget day s)
    (hactive : NotReleased (s.reservations.get? t)) :
    ((CashCall.finalizeEntry t).body newYorkDate getenv).Meets (CashState.Exec synthetic i)
      (CashRely day (.finalizeEntry t) i) (CashGuarantee synthetic day (.finalizeEntry t) i)
      (fun _ _ => True) s := by
  have hkeep (a b : CashState) (h : CashRely day (.finalizeEntry t) i a b)
      (ha : WithinBudget day a ∧ NotReleased (a.reservations.get? t)) :
      WithinBudget day b ∧ NotReleased (b.reservations.get? t) :=
    ⟨h.budget ha.1, h.active t rfl ha.2⟩
  unfold CashCall.body CashGuard.finalizeEntry
  simp only [Program.perform, Program.call_bind, Program.pure_bind]
  refine Program.meets_call hkeep ⟨hs, hactive⟩ ?_
  rintro s₁ hs₁ ans s₂ ⟨rfl, rfl⟩
  refine ⟨guarantee_same _ _ _ _, ?_⟩
  split
  · exact fun _ _ => trivial
  split
  · exact fun _ _ => trivial
  refine Program.meets_call hkeep hs₁ ?_
  rintro s₃ hs₃ ans' s₄ rfl
  exact ⟨guarantee_finalize hs₃.1 hs₃.2 i, fun _ _ => trivial⟩

/-- What a reservation knows while it holds the lock. -/
structure HoldsLock (day : CashBudgetDay) (t : String) (reserve : Bool) (i : ℕ) (s : CashState) :
    Prop where
  budget : WithinBudget day s
  lock : s.lock = some i
  idle : reserve → Idle (s.reservations.get? t)

section Reserve

variable {t : String} {cash time required : ℚ} {reserve : Bool} {i : ℕ}

theorem HoldsLock.of_rely (a b : CashState)
    (h : CashRely day (.reserveEntry t cash time reserve) i a b) (ha : HoldsLock day t reserve i a) :
    HoldsLock day t reserve i b where
  budget := h.budget ha.budget
  lock := (h.lock ha.lock).1
  idle := by
    rintro rfl
    exact h.idle t cash time rfl (ha.idle rfl)

/-- What fits the remaining budget as it was read still fits, since the active sum only fell. -/
theorem fits_of_le_remaining (hcents : day.usableBudget ∈ Python.decimalGrid 2)
    {totals : ReservationTotals}
    (htotals : totals.reserved + totals.consumed ∈ Python.decimalGrid 2)
    (hfell : s.activeTotal day.tradeDate ≤ totals.reserved + totals.consumed)
    (hs : WithinBudget day s) (hrequired : required ≤ CashGuard.remainingBudget day totals) :
    required + s.activeTotal day.tradeDate ≤ day.usableBudget := by
  have hmem : max 0 (day.usableBudget - (totals.reserved + totals.consumed)) ∈
      Python.decimalGrid 2 := Python.max_mem (zero_mem _) (sub_mem hcents htotals)
  rw [CashGuard.remainingBudget, Python.roundTo_of_mem hmem] at hrequired
  rcases le_total 0 (day.usableBudget - (totals.reserved + totals.consumed)) with hleft | hover
  · rw [max_eq_right hleft] at hrequired
    linarith
  · rw [max_eq_left hover] at hrequired
    have hbound := hs.bound
    linarith

theorem HoldsLock.releaseSynthetic (h : HoldsLock day t reserve i s) (tradeDate : ℤ) :
    HoldsLock day t reserve i (s.releaseSynthetic synthetic tradeDate) where
  budget := withinBudget_releaseSynthetic h.budget tradeDate
  lock := h.lock
  idle := by
    intro hreserve r hr
    rw [get?_releaseSynthetic] at hr
    obtain ⟨old, hold, rfl⟩ := Option.map_eq_some_iff.mp hr
    have hreleased := h.idle hreserve old hold
    split
    · rfl
    · exact hreleased

theorem meets_reserveOnDay (hcents : day.usableBudget ∈ Python.decimalGrid 2)
    (hrequired : 0 ≤ required ∧ required ∈ Python.decimalGrid 2) {tradeDate : ℤ}
    {accountType : Option String} {day' : CashBudgetDay}
    (hday : tradeDate = day.tradeDate → day' = day) (hs : HoldsLock day t reserve i s) :
    (CashGuard.reserveOnDay getenv t required reserve tradeDate accountType day').Meets
      (CashState.Exec synthetic i) (CashRely day (.reserveEntry t cash time reserve) i)
      (CashGuarantee synthetic day (.reserveEntry t cash time reserve) i)
      (fun _ s => WithinBudget day s ∧ s.lock = some i) s := by
  have hkeep := @HoldsLock.of_rely day t cash time reserve i
  have hdone {result : CashGuardResult} {s : CashState} (h : HoldsLock day t reserve i s) :
      (Pure.pure result : Program cashInterface CashGuardResult).Meets (CashState.Exec synthetic i)
        (CashRely day (.reserveEntry t cash time reserve) i)
        (CashGuarantee synthetic day (.reserveEntry t cash time reserve) i)
        (fun _ s => WithinBudget day s ∧ s.lock = some i) s :=
    fun s₁ hr => ⟨hr.budget h.budget, (hr.lock h.lock).1⟩
  unfold CashGuard.reserveOnDay
  simp only [Program.perform, Program.call_bind, Program.pure_bind]
  refine Program.meets_call hkeep hs ?_
  rintro s₁ hs₁ - s₂ rfl
  refine ⟨guarantee_sweep hs₁.budget t cash time reserve tradeDate i, ?_⟩
  refine Program.meets_call hkeep (hs₁.releaseSynthetic tradeDate) ?_
  rintro _ hs₃ totals s₃ ⟨rfl, rfl⟩
  refine ⟨guarantee_same _ _ _ _, ?_⟩
  split
  · exact hdone hs₃
  next hfits =>
  split
  · exact hdone hs₃
  next hreserve =>
  obtain rfl : reserve = true := by simpa using hreserve
  -- until the write, the active sum stays below the totals that were read
  have hread := totals_eq_activeTotal (s := s₃) tradeDate
  have hamounts := fun r hr => (hs₃.budget.amounts r hr).2
  have htotals : (s₃.totals tradeDate).reserved + (s₃.totals tradeDate).consumed ∈
      Python.decimalGrid 2 := by
    rw [hread]
    exact activeTotal_mem hamounts tradeDate
  refine Program.meets_call (P := fun s => HoldsLock day t true i s ∧
    s.activeTotal day.tradeDate ≤ s₃.activeTotal day.tradeDate) ?_ ⟨hs₃, le_refl _⟩ ?_
  · intro a b hr ha
    exact ⟨hkeep a b hr ha.1, (hr.lock ha.1.lock).2.trans ha.2⟩
  rintro s₅ ⟨hs₅, hfell⟩ - s₆ rfl
  have hleft : tradeDate = day.tradeDate →
      required + s₅.activeTotal day.tradeDate ≤ day.usableBudget := by
    intro hdate
    obtain rfl := hday hdate
    subst hdate
    exact fits_of_le_remaining hcents htotals (hread ▸ hfell) hs₅.budget (not_lt.mp hfits)
  have hguar : CashGuarantee synthetic day (.reserveEntry t cash time true) i _ s₅ _ :=
    guarantee_upsert hs₅.budget (hs₅.idle rfl) hs₅.lock hrequired hleft
  refine ⟨hguar, ?_⟩
  intro s₇ hr
  exact ⟨hr.budget (hguar.budget hs₅.budget), (hr.lock hs₅.lock).1⟩

theorem guarantee_upsertDay (hs : HoldsLock day t reserve i s) {day' : CashBudgetDay}
    (hdate : day'.tradeDate ≠ day.tradeDate) :
    CashGuarantee synthetic day (.reserveEntry t cash time reserve) i (.upsertDay day') s
      (s.upsertDay day') where
  budget := fun h => withinBudget_upsertDay h hdate
  lock := fun _ hk hheld => absurd (Option.some.inj (hheld.symm.trans hs.lock)) hk
  rows := fun _ => .same _

theorem meets_reserveLocked (hcents : day.usableBudget ∈ Python.decimalGrid 2)
    (hrequired : 0 ≤ required ∧ required ∈ Python.decimalGrid 2) {tradeDate : ℤ}
    {accountType : Option String} (hs : HoldsLock day t reserve i s) :
    (CashGuard.reserveLocked getenv t required reserve tradeDate accountType).Meets
      (CashState.Exec synthetic i) (CashRely day (.reserveEntry t cash time reserve) i)
      (CashGuarantee synthetic day (.reserveEntry t cash time reserve) i)
      (fun _ s => WithinBudget day s ∧ s.lock = some i) s := by
  have hkeep := @HoldsLock.of_rely day t cash time reserve i
  unfold CashGuard.reserveLocked
  simp only [Program.perform, Program.call_bind, Program.pure_bind]
  refine Program.meets_call hkeep hs ?_
  rintro _ hs₁ found s₁ ⟨hfound, rfl⟩
  refine ⟨guarantee_same _ _ _ _, ?_⟩
  split
  · next day' =>
    apply meets_reserveOnDay hcents hrequired _ hs₁
    rintro rfl
    exact Option.some.inj (hfound.trans hs₁.budget.row)
  -- no row for the date: it is not the day whose budget is followed
  have hdate : tradeDate ≠ day.tradeDate := by
    rintro rfl
    have hrow := hs₁.budget.row
    rw [← hfound] at hrow
    cases hrow
  refine Program.meets_call hkeep hs₁ ?_
  rintro s₂ hs₂ answer s₃ rfl
  refine ⟨guarantee_same _ _ _ _, ?_⟩
  split
  · exact fun s₁ hr => ⟨hr.budget hs₂.budget, (hr.lock hs₂.lock).1⟩
  · exact fun s₁ hr => ⟨hr.budget hs₂.budget, (hr.lock hs₂.lock).1⟩
  next brokerCash =>
  refine Program.meets_call hkeep hs₂ ?_
  rintro s₄ hs₄ - s₅ rfl
  refine ⟨guarantee_upsertDay hs₄ hdate, ?_⟩
  have hheld : HoldsLock day t reserve i
      (s₄.upsertDay (CashGuard.newDay getenv tradeDate accountType brokerCash)) :=
    ⟨withinBudget_upsertDay hs₄.budget hdate, hs₄.lock, hs₄.idle⟩
  exact meets_reserveOnDay hcents hrequired (fun h => absurd h hdate) hheld

theorem meets_reserveEntry (hcents : day.usableBudget ∈ Python.decimalGrid 2)
    (hs : WithinBudget day s) (hidle : reserve → Idle (s.reservations.get? t)) :
    ((CashCall.reserveEntry t cash time reserve).body newYorkDate getenv).Meets
      (CashState.Exec synthetic i) (CashRely day (.reserveEntry t cash time reserve) i)
      (CashGuarantee synthetic day (.reserveEntry t cash time reserve) i) (fun _ _ => True) s := by
  have hkeep (a b : CashState) (h : CashRely day (.reserveEntry t cash time reserve) i a b)
      (ha : WithinBudget day a ∧ (reserve → Idle (a.reservations.get? t))) :
      WithinBudget day b ∧ (reserve → Idle (b.reservations.get? t)) := by
    refine ⟨h.budget ha.1, ?_⟩
    rintro rfl
    exact h.idle t cash time rfl (ha.2 rfl)
  have hrefl (s : CashState) : CashRely day (.reserveEntry t cash time reserve) i s s :=
    ⟨id, fun h => ⟨h, le_refl _⟩, fun _ _ _ _ => id, fun _ _ => id⟩
  unfold CashCall.body CashGuard.reserveEntry
  simp only
  split
  · exact fun _ _ => trivial
  simp only [Program.perform, Program.call_bind, Program.pure_bind]
  refine Program.meets_call hkeep ⟨hs, hidle⟩ ?_
  rintro s₁ hs₁ account s₂ rfl
  refine ⟨guarantee_same _ _ _ _, ?_⟩
  split
  · exact fun _ _ => trivial
  simp only [Program.call_bind, Program.pure_bind, Program.bind_assoc]
  refine Program.meets_call hkeep hs₁ ?_
  rintro s₃ ⟨hs₃, hidle₃⟩ - s₄ ⟨hfree, rfl⟩
  have hbudget : WithinBudget day { s₃ with lock := some i } := ⟨hs₃.row, hs₃.amounts, hs₃.bound⟩
  constructor
  · refine ⟨fun _ => hbudget, ?_, fun _ => .same _⟩
    intro k _ hheld
    rw [hfree] at hheld
    cases hheld
  have hrequired : 0 ≤ Python.roundTo 2 (max cash 0) :=
    Python.roundTo_nonneg (le_max_right cash 0)
  apply Program.Meets.bind hrefl
  refine (meets_reserveLocked hcents ⟨hrequired, Python.roundTo_mem _ _⟩
    ⟨hbudget, rfl, hidle₃⟩).imp ?_
  rintro result s₅ ⟨hs₅, hlock⟩
  refine Program.meets_call (P := fun s => WithinBudget day s ∧ s.lock = some i) ?_ ⟨hs₅, hlock⟩ ?_
  · exact fun a b hr ha => ⟨hr.budget ha.1, (hr.lock ha.2).1⟩
  rintro s₆ ⟨hs₆, hlock₆⟩ - s₇ rfl
  refine ⟨⟨fun _ => ⟨hs₆.row, hs₆.amounts, hs₆.bound⟩, ?_, fun _ => .same _⟩, fun _ _ => trivial⟩
  exact fun k hk hheld => absurd (Option.some.inj (hheld.symm.trans hlock₆)) hk

end Reserve

end Calls

section Interleaving

variable {newYorkDate : ℚ → ℤ} {getenv : String → Option String} {synthetic : String → Bool}
  {day : CashBudgetDay}

theorem idle_of_rowStep {call : CashCall} {op : CashOp} {t : String}
    {row row' : Option CashBudgetReservation} (h : RowStep synthetic call op t row row')
    (hother : ∀ cash time, call ≠ .reserveEntry t cash time true) (hidle : Idle row) : Idle row' := by
  cases h with
  | same => exact hidle
  | consume r hcall hactive => exact absurd (hidle r rfl) hactive
  | release r hcall hop =>
    rintro _ ⟨⟩
    rfl
  | sweep r id cash time reserve hcall hsynthetic hop =>
    rintro _ ⟨⟩
    rfl
  | reserve _ r cash time hcall => exact absurd hcall (hother cash time)

theorem notReleased_of_rowStep {call : CashCall} {op : CashOp} {t : String}
    {row row' : Option CashBudgetReservation} (h : RowStep synthetic call op t row row')
    (hcompat : call.Compatible synthetic (.finalizeEntry t)) (hactive : NotReleased row) :
    NotReleased row' := by
  cases h with
  | same => exact hactive
  | consume r hcall hold =>
    rintro _ ⟨⟩ hreleased
    cases hreleased
  | release r hcall hop =>
    subst hcall
    exact absurd rfl hcompat
  | sweep r id cash time reserve hcall hsynthetic hop =>
    subst hcall
    have hlive : synthetic t = false := hcompat
    rw [hsynthetic] at hlive
    cases hlive
  | reserve _ r cash time hcall hidle hreserved =>
    rintro _ ⟨⟩
    rw [hreserved]
    decide

/-- What a call guarantees is what the calls that may overlap with it rely on. -/
theorem rely_of_guarantee {c c' : CashCall} {i j : ℕ} {op : CashOp} {s s' : CashState} (hij : i ≠ j)
    (hcompat : c.Compatible synthetic c') (h : CashGuarantee synthetic day c i op s s') :
    CashRely day c' j s s' where
  budget := h.budget
  lock := h.lock j hij.symm
  idle := by
    rintro t cash time rfl hidle
    apply idle_of_rowStep (h.rows t) _ hidle
    rintro cash' time' rfl
    exact absurd rfl (hcompat rfl rfl)
  active := by
    rintro t rfl hactive
    exact notReleased_of_rowStep (h.rows t) hcompat hactive

theorem cashCalls_compose (hcents : day.usableBudget ∈ Python.decimalGrid 2) :
    Composes (CashState.Exec synthetic) (CashCall.body newYorkDate getenv)
      (CashCall.MayStart synthetic) (WithinBudget day) (CashRely day)
      (CashGuarantee synthetic day) (CashCall.Compatible synthetic) where
  refl := fun _ _ _ => ⟨id, fun h => ⟨h, le_refl _⟩, fun _ _ _ _ => id, fun _ _ => id⟩
  trans := fun h h' =>
    ⟨h'.budget ∘ h.budget,
      fun hl => ⟨(h'.lock (h.lock hl).1).1, (h'.lock (h.lock hl).1).2.trans (h.lock hl).2⟩,
      fun t cash time hc => h'.idle t cash time hc ∘ h.idle t cash time hc,
      fun t hc => h'.active t hc ∘ h.active t hc⟩
  inv_of_guar := fun h => h.budget
  rely_of_guar := fun hij hcompat _ h => rely_of_guarantee hij hcompat h
  compat_of_may := fun hmay t ht hrun => ⟨hmay.2 t ht hrun, (hmay.2 t ht hrun).symm⟩
  meets_of_may := by
    intro c cfg i hmay hs
    cases c with
    | reserveEntry t cash time reserve => exact meets_reserveEntry hcents hs hmay.1
    | finalizeEntry t => exact meets_finalizeEntry t i hs hmay.1
    | releaseEntry t => exact meets_releaseEntry t i hs

/-- The step releases a reservation: `release_entry` of its trade marks it, or the sweep of a
reservation of its day does. -/
def Releases (synthetic : String → Bool) (r : CashBudgetReservation) : Action CashCall cashInterface → Prop
  | .run (.releaseEntry t) op => t = r.tradeId ∧ op = .markReservationStatus t .released
  | .run (.reserveEntry ..) op =>
    synthetic r.tradeId ∧ op = .releaseSyntheticReservations r.tradeDate
  | _ => False

/-- A consumed reservation stays as it is until it is itself released. -/
theorem consumed_of_rowStep {call : CashCall} {op : CashOp} {t : String}
    {r : CashBudgetReservation} {row : Option CashBudgetReservation} (hkey : r.tradeId = t)
    (h : RowStep synthetic call op t (some r) row) (hconsumed : r.status = .consumed) :
    row = some r ∨ Releases synthetic r (.run call op) := by
  cases h with
  | same => exact Or.inl rfl
  | consume _ hcall hactive =>
    left
    rw [← hconsumed]
  | release _ hcall hop =>
    subst hcall
    exact Or.inr ⟨hkey.symm, hop⟩
  | sweep _ id cash time reserve hcall hsynthetic hop =>
    subst hcall
    rw [← hkey] at hsynthetic
    exact Or.inr ⟨hsynthetic, hop⟩
  | reserve _ _ cash time hcall hidle hreserved =>
    have hreleased := hidle r rfl
    rw [hconsumed] at hreleased
    cases hreleased

/-- Over every disciplined interleaving the active reservations of a day stay within its budget; a
release takes what the trade held off the active sum at once; and a consumed reservation counts until
it is itself released. -/
theorem settled_cash_never_overcommitted (newYorkDate : ℚ → ℤ) (getenv : String → Option String)
    (synthetic : String → Bool) {day : CashBudgetDay} {s : CashState}
    (hcents : day.usableBudget ∈ Python.decimalGrid 2) (hs : WithinBudget day s)
    {cfg : Config CashState CashCall cashInterface (Option CashGuardResult)}
    (hreach : Reachable (CashState.Exec synthetic) (CashCall.body newYorkDate getenv)
      (CashCall.MayStart synthetic) ⟨s, []⟩ cfg) :
    cfg.state.days.get? day.tradeDate = some day ∧
    cfg.state.activeTotal day.tradeDate ≤ day.usableBudget ∧
    ∀ act next, Step (CashState.Exec synthetic) (CashCall.body newYorkDate getenv)
        (CashCall.MayStart synthetic) cfg act next →
      (∀ call t, act = .run call (.markReservationStatus t .released) →
        next.state.activeTotal day.tradeDate +
            (cfg.state.reservations.get? t).elim 0
              (CashBudgetReservation.contribution day.tradeDate) =
          cfg.state.activeTotal day.tradeDate) ∧
      ∀ t r, cfg.state.reservations.get? t = some r → r.status = .consumed →
        next.state.reservations.get? t = some r ∨ Releases synthetic r act := by
  have hcompose := @cashCalls_compose newYorkDate getenv synthetic day hcents
  have hsound := sound_of_reachable hcompose hs hreach
  refine ⟨hsound.inv.row, hsound.inv.bound, ?_⟩
  intro act next hstep
  cases hstep with
  | start c hmay => exact ⟨fun _ _ h => (nomatch h), fun t r hget _ => Or.inl hget⟩
  | run i c op rest ans s' hthread hexec =>
    constructor
    · rintro call t ⟨⟩
      obtain rfl : s' = _ := hexec
      exact activeTotal_mark_released t day.tradeDate
    · intro t r hget hconsumed
      have hrow := (guar_of_run hcompose hsound hthread hexec).1.rows t
      rw [hget] at hrow
      exact consumed_of_rowStep (Table.key_of_get? hget) hrow hconsumed

end Interleaving

namespace ConsumedThenReleased

/-- Today's budget of a hundred dollars. -/
def day : CashBudgetDay := ⟨0, none, 100, 100, 0⟩

def consumed : CashBudgetReservation := ⟨"t", 0, 40, .consumed⟩

/-- A trade has consumed forty dollars of the budget. -/
def start : CashState := ⟨Table.empty.insert day rfl, Table.empty.insert consumed rfl, none⟩

theorem start_withinBudget : WithinBudget day start where
  row := rfl
  amounts := by
    intro r hr
    obtain rfl := List.mem_singleton.mp hr
    refine ⟨by decide, Python.mem_decimalGrid_iff.mpr ⟨4000, ?_⟩⟩
    norm_num [consumed]
  bound := by decide +kernel

theorem day_mem : day.usableBudget ∈ Python.decimalGrid 2 :=
  Python.mem_decimalGrid_iff.mpr ⟨10000, by norm_num [day]⟩

def release : CashCall := .releaseEntry "t"

/-- The configurations of `release_entry` as it starts, before its write, and after its end. -/
def started : Config CashState CashCall cashInterface (Option CashGuardResult) :=
  ⟨start, [⟨release, release.body (fun _ => 0) fun _ => none⟩]⟩

def released : Config CashState CashCall cashInterface (Option CashGuardResult) :=
  ⟨start.markReservationStatus "t" .released, [⟨release, .pure none⟩]⟩

/-- A broker that tells no account type and no cash, and the tables as they are. -/
def answers (i : ℕ) (s : CashState) : (op : CashOp) → Option (op.Answer × CashState)
  | .getAccountInfo => some (.ok none, s)
  | .acquireLock => if s.lock = none then some ((), { s with lock := some i }) else none
  | .releaseLock => some ((), { s with lock := none })
  | .getDay tradeDate => some (s.days.get? tradeDate, s)
  | .getPortfolio => some (.ok none, s)
  | .upsertDay day => some ((), s.upsertDay day)
  | .releaseSyntheticReservations tradeDate => some ((), s.releaseSynthetic (fun _ => false) tradeDate)
  | .reservationTotals tradeDate => some (s.totals tradeDate, s)
  | .upsertReservation reservation => some ((), s.upsertReservation reservation)
  | .getReservation tradeId => some (s.reservations.get? tradeId, s)
  | .markReservationStatus tradeId status => some ((), s.markReservationStatus tradeId status)

theorem exec_answers (i : ℕ) (s : CashState) (op : CashOp) (ans : op.Answer × CashState)
    (h : answers i s op = some ans) : CashState.Exec (fun _ => false) i s op ans.1 ans.2 := by
  cases op with
  | acquireLock =>
    simp only [answers] at h
    split_ifs at h with hfree
    obtain rfl := Option.some.inj h
    exact ⟨hfree, rfl⟩
  | getDay tradeDate =>
    obtain rfl := Option.some.inj h
    exact ⟨rfl, rfl⟩
  | reservationTotals tradeDate =>
    obtain rfl := Option.some.inj h
    exact ⟨rfl, rfl⟩
  | getReservation tradeId =>
    obtain rfl := Option.some.inj h
    exact ⟨rfl, rfl⟩
  | _ =>
    obtain rfl := Option.some.inj h
    rfl

theorem started_reachable : Reachable (CashState.Exec fun _ => false)
    (CashCall.body (fun _ => 0) fun _ => none) (CashCall.MayStart fun _ => false)
    ⟨start, []⟩ started := by
  have hnothing : Reachable (CashState.Exec fun _ => false)
      (CashCall.body (fun _ => 0) fun _ => none) (CashCall.MayStart fun _ => false)
      ⟨start, []⟩ ⟨start, []⟩ := Relation.ReflTransGen.refl
  apply hnothing.step
  exact .start release ⟨trivial, fun t ht => absurd ht List.not_mem_nil⟩

/-- A disciplined run of the release. -/
theorem released_reachable : Reachable (CashState.Exec fun _ => false)
    (CashCall.body (fun _ => 0) fun _ => none) (CashCall.MayStart fun _ => false)
    ⟨start, []⟩ released := by
  have hturns : [0, 0].foldlM (Config.turn answers) started = some released := rfl
  exact started_reachable.turns exec_answers hturns

/-- Sixty dollars are reserved while the forty of the other trade are being released. -/
def reserve : CashCall := .reserveEntry "u" 60 0 true

def both : Config CashState CashCall cashInterface (Option CashGuardResult) :=
  ⟨start, started.threads ++ [⟨reserve, reserve.body (fun _ => 0) fun _ => none⟩]⟩

theorem both_reachable : Reachable (CashState.Exec fun _ => false)
    (CashCall.body (fun _ => 0) fun _ => none) (CashCall.MayStart fun _ => false)
    ⟨start, []⟩ both := by
  apply started_reachable.step
  refine .start reserve ⟨fun _ r hr => ?_, fun t ht _ => ?_⟩
  · cases hr
  · obtain rfl := List.mem_singleton.mp ht
    trivial

/-- The release has read its row when the reservation counts the active cash; it writes before the
reservation does. -/
def overlap : List ℕ := [0, 1, 1, 1, 1, 1, 0, 1, 1]

end ConsumedThenReleased

open ConsumedThenReleased in
theorem settled_cash_never_overcommitted_overlap :
    ∃ cfg, overlap.foldlM (Config.turn answers) both = some cfg ∧
      cfg.state.reservations.get? "u" = some ⟨"u", 0, 60, .reserved⟩ ∧
      cfg.state.activeTotal 0 ≤ 100 := by
  have hends : (overlap.foldlM (Config.turn answers) both).any fun cfg =>
      cfg.state.reservations.get? "u" = some ⟨"u", 0, 60, .reserved⟩ := by decide +kernel
  obtain ⟨cfg, hcfg, hreserved⟩ := (Option.any_eq_true _ _).mp hends
  refine ⟨cfg, hcfg, of_decide_eq_true hreserved, ?_⟩
  exact (settled_cash_never_overcommitted (fun _ => 0) (fun _ => none) (fun _ => false) day_mem
    start_withinBudget (both_reachable.turns exec_answers hcfg)).2.1

open ConsumedThenReleased in
/-- A disciplined release takes a consumed reservation off the active sum of its day. -/
theorem consumed_cash_released_same_day :
    WithinBudget day start ∧ start.reservations.get? "t" = some consumed ∧
      Reachable (CashState.Exec fun _ => false) (CashCall.body (fun _ => 0) fun _ => none)
        (CashCall.MayStart fun _ => false) ⟨start, []⟩ released ∧
      start.activeTotal 0 = 40 ∧ released.state.activeTotal 0 = 0 :=
  ⟨start_withinBudget, rfl, released_reachable, by decide +kernel, by decide +kernel⟩

end Bhiksha
