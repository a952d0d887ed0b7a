import Bhiksha.Library.Trace
import Bhiksha.Persistence.TradeSession

/-! What a run of writes keeps of a trade row: frozen columns, exit facts, a working exit, and the
close. -/

namespace Bhiksha.TradeStore

open Library

variable {V : Type}

abbrev TradeEvent (V : Type) := Event TradeDb (TradeWrite V) (Option Bool)

/-- The runs of writes. -/
def tradeTrace (codec : Codec V) (db : TradeDb) (writes : List (TradeWrite V)) :
    List (TradeEvent V) :=
  trace (runTradeWrite codec) db writes

/-- A column of a trade, if the trade has a row and the row has a value. -/
def frozenColumn (db : TradeDb) (tradeId : String) (column : FrozenColumn) : Option SqlValue :=
  (db.get? tradeId).bind fun row => row.frozen column

def exitFact (db : TradeDb) (tradeId : String) (fact : ExitFact) : Option SqlValue :=
  (db.get? tradeId).bind fun row => row.facts fact

def closed (db : TradeDb) (tradeId : String) : Bool :=
  (db.get? tradeId).any TradeSession.isClosed

/-- The value that a write brings for a column of a trade. -/
def TradeWrite.brings (tradeId : String) (column : FrozenColumn) :
    TradeWrite V → Option SqlValue
  | .upsertTrade record _ => if record.tradeId = tradeId then record.frozen column else none
  | _ => none

/-- The record has an open status and carries no working exit. -/
def TradeRecord.OpenWithoutExit (record : TradeRecord V) : Prop :=
  record.status ∈ ["open_protected", "open_unprotected", "target_active"]
    ∧ record.exitOrderId = none ∧ record.exitSubmittedAt = none ∧ record.exitMode = none

/-- The order, the time and the mode of a working exit. -/
def PendingExit.identity (pending : PendingExit) : Option String × Option String × Option ExitMode :=
  (pending.exitOrderId, pending.exitSubmittedAt, pending.exitMode)

/-- What a run keeps of the trade. -/
structure TruthKept (codec : Codec V) (db : TradeDb) (writes : List (TradeWrite V))
    (tradeId : String) : Prop where
  /-- Every frozen column holds the first value that was written to it. -/
  frozen : ∀ n column, frozenColumn (finish (runTradeWrite codec) db (writes.take n)) tradeId column =
    (frozenColumn db tradeId column).or ((writes.take n).findSome? (·.brings tradeId column))
  facts : ∀ e ∈ tradeTrace codec db writes, ∀ fact,
    (exitFact e.before tradeId fact).isSome → (exitFact e.after tradeId fact).isSome
  /-- No open record without an exit clears a working exit. -/
  pending : ∀ e ∈ tradeTrace codec db writes, ∀ record now row row',
    e.call = .upsertTrade record now → record.tradeId = tradeId → record.OpenWithoutExit →
      e.before.get? tradeId = some row → row.status = "exit_pending" →
        e.after.get? tradeId = some row' → row'.pendingExit.identity = row.pendingExit.identity
  closes : ∀ e ∈ tradeTrace codec db writes, closed e.before tradeId → closed e.after tradeId
  /-- At most one call reports that it closed the trade. -/
  once : ((tradeTrace codec db writes).filter fun e =>
    e.call.tradeId = tradeId ∧ e.result = some true).length ≤ 1

/-- An upsert that gives a closed row a status that is not closed. -/
def Reopens (tradeId : String) (e : TradeEvent V) : Prop :=
  ∃ record now, e.call = .upsertTrade record now ∧ record.tradeId = tradeId ∧
    closed e.before tradeId ∧ record.status.toLower ≠ "closed"

/-- A `target_active` record without an exit over a row that has one. -/
def ForgetsExit (tradeId : String) (e : TradeEvent V) : Prop :=
  ∃ record now row, e.call = .upsertTrade record now ∧ record.tradeId = tradeId ∧
    record.status = "target_active" ∧ record.OpenWithoutExit ∧
    e.before.get? tradeId = some row ∧ row.status = "exit_pending" ∧
    row.pendingExit.identity ≠ (none, none, none)

theorem toLower_closed : "closed".toLower = "closed" := by decide +kernel

theorem keepsExit_of_isClosed {row : TradeSession} (hrow : row.isClosed) (excluded : TradeSession) :
    row.keepsExit excluded = false := by
  apply Bool.eq_false_iff.mpr
  intro hkeeps
  have hpending : row.status = "exit_pending" := (of_decide_eq_true hkeeps).1
  have hstatus : row.status.toLower = "closed" := of_decide_eq_true hrow
  rw [hpending] at hstatus
  exact absurd hstatus (by decide +kernel)

theorem status_onConflict {stored excluded : TradeSession}
    (hcase : stored.keepsExit excluded = false) :
    (stored.onConflict excluded).status = excluded.status := by
  simp [TradeSession.onConflict, hcase]

theorem pendingExit_onConflict_of_not {stored excluded : TradeSession}
    (hcase : stored.keepsExit excluded = false) :
    (stored.onConflict excluded).pendingExit = excluded.pendingExit := by
  simp [TradeSession.onConflict, hcase]

theorem TradeRecord.OpenWithoutExit.identity_row {record : TradeRecord V}
    (h : record.OpenWithoutExit) (codec : Codec V) (now : String) :
    (record.row codec now).pendingExit.identity = (none, none, none) := by
  obtain ⟨_, horder, hsubmitted, hmode⟩ := h
  simp [TradeRecord.row, PendingExit.identity, horder, hsubmitted, hmode]

/-- The `CASE` does not list `target_active`. -/
theorem keepsExit_of_targetActive {record : TradeRecord V} (htarget : record.status = "target_active")
    (stored : TradeSession) (codec : Codec V) (now : String) :
    stored.keepsExit (record.row codec now) = false := by
  simp [TradeSession.keepsExit, TradeRecord.row, htarget]

section Row

variable (codec : Codec V) (write : TradeWrite V) (stored : Option TradeSession) (tradeId : String)

theorem frozen_onRow (hnamed : write.tradeId = tradeId) (column : FrozenColumn) :
    ((write.onRow codec stored).bind fun row => row.frozen column) =
      (stored.bind fun row => row.frozen column).or (write.brings tradeId column) := by
  cases write with
  | upsertTrade record now =>
    have hbrings : (TradeWrite.upsertTrade record now).brings tradeId column =
        record.frozen column := if_pos hnamed
    rw [hbrings]
    cases stored with
    | none => rfl
    | some row => rfl
  | markClosed named truth now =>
    have hbrings : (TradeWrite.markClosed (V := V) named truth now).brings tradeId column = none := rfl
    rw [hbrings, Option.or_none]
    cases stored <;> rfl
  | markClosedIfOpen named truth now =>
    have hbrings :
        (TradeWrite.markClosedIfOpen (V := V) named truth now).brings tradeId column = none := rfl
    rw [hbrings, Option.or_none]
    cases stored with
    | none => rfl
    | some row =>
      simp only [TradeWrite.onRow, Option.map_some, Option.bind_some]
      split <;> rfl

theorem facts_onRow (fact : ExitFact) (h : (stored.bind fun row => row.facts fact).isSome) :
    ((write.onRow codec stored).bind fun row => row.facts fact).isSome := by
  cases stored with
  | none => cases h
  | some row =>
    have hfact : (row.facts fact).isSome := h
    cases write with
    | upsertTrade record now =>
      simp [TradeWrite.onRow, TradeSession.onConflict, hfact]
    | markClosed named truth now =>
      simp [TradeWrite.onRow, TradeSession.close, hfact]
    | markClosedIfOpen named truth now =>
      simp only [TradeWrite.onRow, Option.map_some, Option.bind_some]
      split
      · exact hfact
      · simp [TradeSession.close, hfact]

/-- A closed row stays closed unless an upsert brings it another status. -/
theorem isClosed_onRow {row : TradeSession} (hrow : row.isClosed)
    (hrecord : ∀ record now, write = .upsertTrade record now → record.status.toLower = "closed") :
    (write.onRow codec (some row)).any TradeSession.isClosed := by
  cases write with
  | upsertTrade record now =>
    have hcase := keepsExit_of_isClosed hrow (record.row codec now)
    have hstatus : (row.onConflict (record.row codec now)).status = record.status :=
      status_onConflict hcase
    apply decide_eq_true
    exact (congrArg String.toLower hstatus).trans (hrecord record now rfl)
  | markClosed named truth now => exact decide_eq_true toLower_closed
  | markClosedIfOpen named truth now =>
    simp only [TradeWrite.onRow, Option.map_some, Option.any_some, hrow, if_true]

/-- The `CASE` misses `target_active`, and only that. -/
theorem pendingExit_onConflict {row : TradeSession} {record : TradeRecord V} {now : String}
    (hpending : row.status = "exit_pending") (hopen : record.OpenWithoutExit)
    (hforgets : record.status = "target_active" → row.pendingExit.identity = (none, none, none)) :
    (row.onConflict (record.row codec now)).pendingExit.identity = row.pendingExit.identity := by
  by_cases htarget : record.status = "target_active"
  · have hcase := keepsExit_of_targetActive htarget row codec now
    rw [pendingExit_onConflict_of_not hcase, hopen.identity_row codec now, hforgets htarget]
  · obtain ⟨hstatus, horder, hsubmitted, hmode⟩ := hopen
    have hlisted : record.status ∈ ["open_protected", "open_unprotected"] := by
      simpa [htarget] using hstatus
    have hcase : row.keepsExit (record.row codec now) = true :=
      decide_eq_true ⟨hpending, hlisted, horder, hsubmitted, hmode⟩
    simp [TradeSession.onConflict, hcase]

end Row

section Run

variable {codec : Codec V} {db : TradeDb} {writes : List (TradeWrite V)} {tradeId : String}

theorem after_of_mem_tradeTrace {e : TradeEvent V} (he : e ∈ tradeTrace codec db writes)
    (tradeId : String) :
    e.after.get? tradeId =
      if e.call.tradeId = tradeId then e.call.onRow codec (e.before.get? tradeId)
      else e.before.get? tradeId := by
  have hevent := (eq_event_of_mem_trace (I := fun _ => True) (fun _ _ _ => trivial) trivial he).2
  have hafter : e.after = (runTradeWrite codec e.call e.before).2 := by
    rw [hevent]
    rfl
  rw [hafter]
  exact get?_runTradeWrite codec e.call e.before tradeId

theorem frozenColumn_runTradeWrite (write : TradeWrite V) (column : FrozenColumn) :
    frozenColumn (runTradeWrite codec write db).2 tradeId column =
      (frozenColumn db tradeId column).or (write.brings tradeId column) := by
  unfold frozenColumn
  rw [get?_runTradeWrite]
  by_cases hnamed : write.tradeId = tradeId
  · rw [if_pos hnamed]
    exact frozen_onRow codec write _ tradeId hnamed column
  · have hbrings : write.brings tradeId column = none := by
      cases write with
      | upsertTrade record now => exact if_neg hnamed
      | markClosed _ _ _ => rfl
      | markClosedIfOpen _ _ _ => rfl
    rw [if_neg hnamed, hbrings, Option.or_none]

/-- The first value written to a frozen column stays there. -/
theorem frozenColumn_finish (column : FrozenColumn) :
    frozenColumn (finish (runTradeWrite codec) db writes) tradeId column =
      (frozenColumn db tradeId column).or (writes.findSome? (·.brings tradeId column)) := by
  induction writes generalizing db with
  | nil => exact (Option.or_none).symm
  | cons write rest ih =>
    rw [finish, ih, frozenColumn_runTradeWrite, Option.or_assoc, List.findSome?_cons]
    cases write.brings tradeId column <;> rfl

theorem exitFact_of_mem {e : TradeEvent V} (he : e ∈ tradeTrace codec db writes) (fact : ExitFact)
    (h : (exitFact e.before tradeId fact).isSome) : (exitFact e.after tradeId fact).isSome := by
  unfold exitFact
  rw [after_of_mem_tradeTrace he tradeId]
  split
  · exact facts_onRow codec e.call _ fact h
  · exact h

theorem closed_of_mem {e : TradeEvent V} (he : e ∈ tradeTrace codec db writes)
    (hreopens : ¬Reopens tradeId e) (h : closed e.before tradeId) : closed e.after tradeId := by
  unfold closed
  rw [after_of_mem_tradeTrace he tradeId]
  split
  · rename_i hnamed
    cases hrow : e.before.get? tradeId with
    | none =>
      rw [closed, hrow] at h
      cases h
    | some row =>
      have hclosed : row.isClosed := by simpa [closed, hrow] using h
      apply isClosed_onRow codec e.call hclosed
      intro record now hcall
      apply by_contra
      intro hstatus
      have hrecord : record.tradeId = tradeId := by simpa [hcall, TradeWrite.tradeId] using hnamed
      exact hreopens ⟨record, now, hcall, hrecord, h, hstatus⟩
  · exact h

/-- `mark_closed_if_open` returns `True` only as it closes an open row. -/
theorem wins_of_mem {e : TradeEvent V} (he : e ∈ tradeTrace codec db writes)
    (hwins : e.call.tradeId = tradeId ∧ e.result = some true) :
    ¬closed e.before tradeId ∧ closed e.after tradeId := by
  have hevent := (eq_event_of_mem_trace (I := fun _ => True) (fun _ _ _ => trivial) trivial he).2
  have hresult : (runTradeWrite codec e.call e.before).1 = some true := by
    rw [← hwins.2, hevent]
    rfl
  have hafter := after_of_mem_tradeTrace he tradeId
  rw [if_pos hwins.1] at hafter
  cases hcall : e.call with
  | upsertTrade record now =>
    rw [hcall] at hresult
    cases hresult
  | markClosed named truth now =>
    rw [hcall] at hresult
    cases hresult
  | markClosedIfOpen named truth now =>
    have hnamed : named = tradeId := by simpa [hcall, TradeWrite.tradeId] using hwins.1
    rw [hcall] at hresult hafter
    obtain ⟨row, hrow, hopen⟩ := open_of_markClosedIfOpen hresult
    rw [hnamed] at hrow
    constructor
    · simp [closed, hrow, hopen]
    · rw [closed, hafter, hrow]
      simp only [TradeWrite.onRow, Option.map_some, Option.any_some, hopen]
      exact decide_eq_true toLower_closed

theorem pendingExit_of_mem {e : TradeEvent V} (he : e ∈ tradeTrace codec db writes)
    (hforgets : ¬ForgetsExit tradeId e) {record : TradeRecord V} {now : String}
    {row row' : TradeSession} (hcall : e.call = .upsertTrade record now)
    (hrecord : record.tradeId = tradeId) (hopen : record.OpenWithoutExit)
    (hrow : e.before.get? tradeId = some row) (hpending : row.status = "exit_pending")
    (hrow' : e.after.get? tradeId = some row') :
    row'.pendingExit.identity = row.pendingExit.identity := by
  have hnamed : e.call.tradeId = tradeId := by rw [hcall]; exact hrecord
  have hafter := after_of_mem_tradeTrace he tradeId
  rw [if_pos hnamed, hrow, hcall, hrow'] at hafter
  have hmerged : row' = row.onConflict (record.row codec now) := Option.some.inj hafter
  rw [hmerged]
  apply pendingExit_onConflict codec hpending hopen
  intro htarget
  apply by_contra
  intro hidentity
  exact hforgets ⟨record, now, row, hcall, hrecord, htarget, hopen, hrow, hpending, hidentity⟩

theorem not_reopens_of_closes {e : TradeEvent V} (he : e ∈ tradeTrace codec db writes)
    (hcloses : closed e.before tradeId → closed e.after tradeId) : ¬Reopens tradeId e := by
  intro ⟨record, now, hcall, hrecord, hclosed, hstatus⟩
  have hnamed : e.call.tradeId = tradeId := by rw [hcall]; exact hrecord
  have hafter := hcloses hclosed
  rw [closed, after_of_mem_tradeTrace he tradeId, if_pos hnamed, hcall] at hafter
  cases hrow : e.before.get? tradeId with
  | none =>
    rw [closed, hrow] at hclosed
    cases hclosed
  | some row =>
    have hrowclosed : row.isClosed := by simpa [closed, hrow] using hclosed
    have hcase := keepsExit_of_isClosed hrowclosed (record.row codec now)
    have hmerged : (row.onConflict (record.row codec now)).status = record.status :=
      status_onConflict hcase
    rw [hrow] at hafter
    apply hstatus
    exact (congrArg String.toLower hmerged).symm.trans (of_decide_eq_true hafter)

theorem not_forgetsExit_of_pending {e : TradeEvent V} (he : e ∈ tradeTrace codec db writes)
    (hpending : ∀ record now row row', e.call = .upsertTrade record now →
      record.tradeId = tradeId → record.OpenWithoutExit → e.before.get? tradeId = some row →
        row.status = "exit_pending" → e.after.get? tradeId = some row' →
          row'.pendingExit.identity = row.pendingExit.identity) : ¬ForgetsExit tradeId e := by
  intro ⟨record, now, row, hcall, hrecord, htarget, hopen, hrow, hstatus, hidentity⟩
  have hnamed : e.call.tradeId = tradeId := by rw [hcall]; exact hrecord
  have hafter := after_of_mem_tradeTrace he tradeId
  rw [if_pos hnamed, hrow, hcall] at hafter
  have hkept := hpending record now row (row.onConflict (record.row codec now)) hcall hrecord hopen
    hrow hstatus hafter
  have hcase := keepsExit_of_targetActive htarget row codec now
  apply hidentity
  rw [← hkept, pendingExit_onConflict_of_not hcase, hopen.identity_row codec now]

end Run

/-- The row keeps its truth over a run exactly when no upsert of the run reopens it and no
`target_active` upsert meets its working exit. -/
theorem trade_truth_kept_iff (codec : Codec V) (db : TradeDb) (writes : List (TradeWrite V))
    (tradeId : String) :
    TruthKept codec db writes tradeId ↔
      ∀ e ∈ tradeTrace codec db writes, ¬Reopens tradeId e ∧ ¬ForgetsExit tradeId e := by
  constructor
  · intro hkept e he
    exact ⟨not_reopens_of_closes he (hkept.closes e he),
      not_forgetsExit_of_pending he (hkept.pending e he)⟩
  · intro h
    refine
      { frozen := fun n column => frozenColumn_finish column
        facts := fun e he fact => exitFact_of_mem he fact
        pending := ?_
        closes := fun e he => closed_of_mem he (h e he).1
        once := ?_ }
    · intro e he record now row row' hcall hrecord hopen hrow hpending hrow'
      exact pendingExit_of_mem he (h e he).2 hcall hrecord hopen hrow hpending hrow'
    · apply length_fires_le_one (L := fun db => closed db tradeId)
      · exact fun e he => closed_of_mem he (h e he).1
      · intro e he hwins
        exact wins_of_mem he (of_decide_eq_true hwins)

namespace StaleRecord

def codec : Codec Unit := ⟨fun _ => .ok "{}", fun _ => "{}", fun _ => "h"⟩

/-- A record of the trade, as a caller builds it from its own copy. -/
def record (status : String) (exitOrderId : Option String) : TradeRecord Unit :=
  { tradeId := "T", deploymentId := "D", symbol := "SPY", status := status,
    exitOrderId := exitOrderId }

/-- The exit fills, a stale copy of the working exit is written back, and the trade is closed
again. -/
def zombie : List (TradeWrite Unit) :=
  [.upsertTrade (record "exit_pending" (some "X")) "0", .markClosedIfOpen "T" {} "1",
    .upsertTrade (record "exit_pending" (some "X")) "2", .markClosedIfOpen "T" {} "3"]

/-- A target is active when a record without the working exit is written. -/
def forgotten : List (TradeWrite Unit) :=
  [.upsertTrade (record "exit_pending" (some "X")) "0",
    .upsertTrade (record "target_active" none) "1"]

end StaleRecord

open StaleRecord in
/-- A stale record reopens a closed trade, and a `target_active` record forgets a working exit. -/
theorem stale_record_loses_trade_truth :
    ¬TruthKept codec Table.empty zombie "T" ∧ ¬TruthKept codec Table.empty forgotten "T" := by
  constructor
  · intro h
    have htwice : ((tradeTrace codec Table.empty zombie).filter fun e =>
        e.call.tradeId = "T" ∧ e.result = some true).length = 2 := by decide +kernel
    have honce := h.once
    omega
  · intro h
    let write : TradeWrite Unit := .upsertTrade (record "target_active" none) "1"
    let pending : TradeDb := finish (runTradeWrite codec) Table.empty (forgotten.take 1)
    have he : event (runTradeWrite codec) write pending ∈ tradeTrace codec Table.empty forgotten :=
      List.mem_cons_of_mem _ List.mem_cons_self
    apply not_forgetsExit_of_pending he (h.pending _ he)
    refine ⟨record "target_active" none, "1", (record "exit_pending" (some "X")).row codec "0", rfl,
      rfl, rfl, ?_, rfl, rfl, ?_⟩
    · exact ⟨by decide, rfl, rfl, rfl⟩
    · exact by decide

end Bhiksha.TradeStore
