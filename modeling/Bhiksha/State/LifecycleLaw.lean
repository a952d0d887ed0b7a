import Mathlib.Data.List.Induction
import Bhiksha.State.Lifecycle

/-! The transitions of the lifecycle store are a full account of its records, and a sync leaves every slot
with what the tracked positions say of it. -/

namespace Bhiksha.Lifecycle

open Live (LifecycleState)
open Library (Reporter)

section Write

variable {store : TradeLifecycleStore} {record : TradeLifecycle} {slot : Slot}

def TradeLifecycleStore.view (store : TradeLifecycleStore) (slot : Slot) : Option TradeLifecycle :=
  store.records.lookup slot

theorem slot_of_view (h : store.view slot = some record) : record.slot = slot :=
  store.named (slot, record) (Library.mem_of_lookup h)

theorem view_write (store : TradeLifecycleStore) (record : TradeLifecycle) :
    (store.write record).1.view = Function.update store.view record.slot (some record) := by
  funext slot
  rw [Function.update_apply]
  exact Library.lookup_put record.slot slot record

theorem transition_of_eq : transition (some record) record = none := by
  unfold transition
  rw [if_pos ⟨record, rfl, rfl, rfl, rfl⟩]

theorem transition_of_ne {previous : Option TradeLifecycle}
    (hslot : ∀ p, previous = some p → p.slot = record.slot) (hne : previous ≠ some record) :
    ∃ t, transition previous record = some t ∧ t.record = record ∧
      t.previousState = previous.map (·.state) := by
  have hchanged : ¬∃ p ∈ previous, p.state = record.state ∧ p.optionSymbol = record.optionSymbol ∧
      p.orderId = record.orderId := by
    intro hsame
    obtain ⟨p, hp, hstate, hoption, horder⟩ := hsame
    -- A record of the same slot that agrees in the three compared fields is the record itself.
    have hkey := hslot p hp
    obtain ⟨hsymbol, hdeployment⟩ := Slot.mk.inj hkey
    apply hne
    rw [hp]
    cases p with
    | mk base symbol deploymentId =>
      cases base
      cases record with
      | mk base' symbol' deploymentId' =>
        cases base'
        simp only at hstate hoption horder hsymbol hdeployment
        subst hstate hoption horder hsymbol hdeployment
        rfl
  refine ⟨_, if_neg hchanged, ?_, rfl⟩
  cases record
  rfl

/-- What a transition says: the slot, its record now, and the state that the slot had before. -/
def reporter : Reporter Slot TradeLifecycle LifecycleTransition where
  key := LifecycleTransition.slot
  value := LifecycleTransition.record
  saw before t := t.previousState = before.map (·.state)

theorem write_quiet (h : store.view record.slot = some record) :
    (store.write record).2 = none ∧ (store.write record).1.view = store.view := by
  constructor
  · have hnone : transition (some record) record = none := transition_of_eq
    rwa [← h] at hnone
  · rw [view_write, ← h, Function.update_eq_self]

theorem write_told (h : store.view record.slot ≠ some record) :
    ∃ t, (store.write record).2 = some t ∧ t.record = record ∧ reporter.Told store.view t := by
  obtain ⟨t, ht, hrecord, hprevious⟩ :=
    transition_of_ne (fun p (hp : store.view record.slot = some p) => slot_of_view hp) h
  have hslot : t.slot = record.slot := congrArg TradeLifecycle.slot hrecord
  refine ⟨t, ht, hrecord, ?_, ?_⟩
  · show t.previousState = (store.view t.slot).map (·.state)
    rw [hslot]
    exact hprevious
  · show store.view t.slot ≠ some t.record
    rw [hslot, hrecord]
    exact h

theorem account_write (store : TradeLifecycleStore) (record : TradeLifecycle) :
    reporter.Account store.view (store.write record).2.toList (store.write record).1.view := by
  by_cases h : store.view record.slot = some record
  · obtain ⟨hnone, hview⟩ := write_quiet h
    rw [hnone, hview]
    exact Reporter.Account.refl store.view
  · obtain ⟨t, ht, hrecord, htold⟩ := write_told h
    have happly : reporter.apply store.view t = (store.write record).1.view := by
      rw [view_write, ← hrecord]
      rfl
    rw [ht, ← happly]
    exact Reporter.Account.single htold

end Write

section Run

variable {start : TradeLifecycleStore} {account : Account}

/-- An account that is the whole story since `start`. -/
def Account.Full (start : TradeLifecycleStore) (account : Account) : Prop :=
  reporter.Account start.view account.transitions account.store.view

theorem Account.Full.write (h : account.Full start) (record : TradeLifecycle) :
    (account.note (·.write record)).Full start :=
  Reporter.Account.trans h (account_write account.store record)

/-- The record that a sync writes for a position. -/
def positionRecord (p : Live.TrackedPosition) : TradeLifecycle :=
  if p.exitMode ≠ none ∨ p.exitOrderId ≠ none then
    { symbol := p.symbol
      deploymentId := p.deploymentId
      state := .exitPending
      optionSymbol := p.optionSymbol
      orderId := orElse p.exitOrderId p.orderId }
  else if isNamed p.targetOrderId then
    { symbol := p.symbol
      deploymentId := p.deploymentId
      state := .targetActive
      optionSymbol := p.optionSymbol
      orderId := p.targetOrderId }
  else
    { symbol := p.symbol
      deploymentId := p.deploymentId
      state := if isNamed p.stopOrderId then .openProtected else .openUnprotected
      optionSymbol := p.optionSymbol
      orderId := p.orderId }

theorem markPosition_eq (p : Live.TrackedPosition) : markPosition p = (·.write (positionRecord p)) := by
  funext store
  unfold markPosition positionRecord
  by_cases hexit : p.exitMode ≠ none ∨ p.exitOrderId ≠ none
  · rw [if_pos hexit, if_pos hexit]
    rfl
  · rw [if_neg hexit, if_neg hexit]
    by_cases htarget : isNamed p.targetOrderId = true
    · rw [if_pos htarget, if_pos htarget, orElse, if_pos htarget]
      rfl
    · rw [if_neg htarget, if_neg htarget]
      rfl

theorem markAll_append (account : Account) (earlier later : List Live.TrackedPosition) :
    account.markAll (earlier ++ later) = (account.markAll earlier).markAll later :=
  List.foldl_append

theorem markAll_cons (account : Account) (p : Live.TrackedPosition) (rest : List Live.TrackedPosition) :
    account.markAll (p :: rest) = (account.note (·.write (positionRecord p))).markAll rest := by
  rw [← markPosition_eq]
  exact List.foldl_cons ..

@[simp] theorem slot_positionRecord (p : Live.TrackedPosition) :
    (positionRecord p).slot = positionSlot p := by
  unfold positionRecord
  split
  · rfl
  · split <;> rfl

theorem positionRecord_open (p : Live.TrackedPosition) : (positionRecord p).state ∈ openStates := by
  unfold positionRecord
  split
  · simp [openStates]
  · split
    · simp [openStates]
    · split <;> simp [openStates]

theorem Account.Full.marked (h : account.Full start) (positions : List Live.TrackedPosition) :
    (account.markAll positions).Full start := by
  induction positions generalizing account with
  | nil => exact h
  | cons p rest ih =>
    rw [markAll_cons]
    exact ih (h.write (positionRecord p))

theorem Account.Full.closed (h : account.Full start) (activeKeys : List Slot)
    (entries : List (Slot × TradeLifecycle)) :
    (entries.foldl (closeUntracked activeKeys) account).Full start := by
  induction entries generalizing account with
  | nil => exact h
  | cons entry rest ih =>
    rw [List.foldl_cons]
    apply ih
    unfold closeUntracked
    split
    · exact h.write _
    · exact h

theorem full_sync (store : TradeLifecycleStore) (positions : List Live.TrackedPosition) :
    (syncFromPositions store positions).Full store := by
  have hstart : Account.Full store { store } := Reporter.Account.refl store.view
  exact (hstart.marked positions).closed (positions.map positionSlot) _

theorem Account.Full.perform (h : account.Full start) (command : Command) :
    (command.perform account).Full start := by
  cases command with
  | syncFromPositions positions => exact Reporter.Account.trans h (full_sync account.store positions)
  | beginEntry => exact h.write _
  | markOpen => exact h.write _
  | markTargetActive => exact h.write _
  | markExitPending => exact h.write _
  | markClosed => exact h.write _
  | markReconciliationHold => exact h.write _

theorem full_perform (commands : List Command) : (perform commands).Full .empty := by
  have hrun (account : Account) (h : account.Full .empty) :
      (commands.foldl Command.perform account).Full .empty := by
    induction commands generalizing account with
    | nil => exact h
    | cons command rest ih => exact ih _ (h.perform command)
  exact hrun _ (Reporter.Account.refl _)

/-- The records as the transitions alone describe them. -/
def replay (transitions : List LifecycleTransition) : Slot → Option TradeLifecycle :=
  reporter.replay (fun _ => none) transitions

/-- Whatever calls the runtime makes, the transitions returned so far describe every record, each one says
the state that the slot had just before it, and none is about a record that did not change. -/
theorem transitions_account_for_records (commands : List Command) :
    (∀ symbol deploymentId, (perform commands).store.get symbol deploymentId =
      replay (perform commands).transitions ⟨symbol, deploymentId⟩) ∧
    ∀ before t after, (perform commands).transitions = before ++ t :: after →
      t.previousState = (replay before t.slot).map (·.state) ∧ replay before t.slot ≠ some t.record := by
  obtain ⟨hhonest, hcomplete⟩ := full_perform commands
  constructor
  · intro symbol deploymentId
    exact congrFun hcomplete ⟨symbol, deploymentId⟩
  · intro before t after hlog
    rw [hlog] at hhonest
    exact hhonest.told

end Run

section Sync

variable {store : TradeLifecycleStore} {account : Account} {positions : List Live.TrackedPosition}
  {slot : Slot}

def closeIfOpen (record : TradeLifecycle) : TradeLifecycle :=
  if record.state ∈ openStates then
    { symbol := record.symbol
      deploymentId := record.deploymentId
      state := .closed }
  else
    record

/-- The tracked position that a slot's record is written from. -/
def latest (positions : List Live.TrackedPosition) (slot : Slot) : Option Live.TrackedPosition :=
  (positions.filter fun p => positionSlot p = slot).getLast?

theorem latest_eq_none : latest positions slot = none ↔ slot ∉ positions.map positionSlot := by
  unfold latest
  rw [List.getLast?_eq_none_iff, List.filter_eq_nil_iff]
  simp

theorem mem_of_latest {p : Live.TrackedPosition} (h : latest positions slot = some p) :
    p ∈ positions ∧ positionSlot p = slot := by
  have hmem := List.mem_filter.mp (List.mem_of_getLast? h)
  exact ⟨hmem.1, of_decide_eq_true hmem.2⟩

theorem view_marked (positions : List Live.TrackedPosition) (account : Account) :
    (account.markAll positions).store.view slot =
      ((latest positions slot).map positionRecord).or (account.store.view slot) := by
  induction positions using List.reverseRecOn with
  | nil => rfl
  | append_singleton earlier p ih =>
    rw [markAll_append, markAll_cons]
    show (TradeLifecycleStore.write _ (positionRecord p)).1.view slot = _
    rw [view_write, slot_positionRecord, Function.update_apply, ih]
    unfold latest
    rw [List.filter_append]
    by_cases hslot : slot = positionSlot p
    · rw [if_pos hslot, List.filter_cons_of_pos (by simpa using hslot.symm), List.filter_nil,
        List.getLast?_concat]
      rfl
    · rw [if_neg hslot, List.filter_cons_of_neg (by simpa using fun h => hslot h.symm), List.filter_nil,
        List.append_nil]

/-- The second loop closes what it finds open and untracked, whatever order the records stand in. -/
theorem view_closed {activeKeys : List Slot} {entries : List (Slot × TradeLifecycle)}
    (hnodup : (entries.map Prod.fst).Nodup) (hnamed : ∀ entry ∈ entries, entry.2.slot = entry.1)
    (account : Account) (hview : ∀ record, entries.lookup slot = some record →
      account.store.view slot = some record) :
    (entries.foldl (closeUntracked activeKeys) account).store.view slot =
      if slot ∉ activeKeys ∧ slot ∈ entries.map Prod.fst then (account.store.view slot).map closeIfOpen
      else account.store.view slot := by
  induction entries generalizing account with
  | nil => simp
  | cons entry rest ih =>
    obtain ⟨key, record⟩ := entry
    have hkey : record.slot = key := hnamed _ List.mem_cons_self
    rw [List.map_cons, List.nodup_cons] at hnodup
    have hrest := ih hnodup.2 (fun entry h => hnamed entry (List.mem_cons_of_mem _ h))
    rw [List.foldl_cons, List.map_cons]
    by_cases hslot : slot = key
    · subst hslot
      have hfound : account.store.view slot = some record := by
        apply hview
        rw [List.lookup_cons, beq_self_eq_true]
      have hmissing (other : TradeLifecycle) (h : rest.lookup slot = some other) : False :=
        hnodup.1 (List.mem_map.mpr ⟨(slot, other), Library.mem_of_lookup h, rfl⟩)
      rw [hrest _ fun other h => (hmissing other h).elim, if_neg fun h => hnodup.1 h.2]
      unfold closeUntracked
      by_cases hactive : slot ∈ activeKeys
      · rw [if_neg (fun h => h.1 hactive), if_neg (fun h => h.1 hactive)]
      · have hhere : slot ∉ activeKeys ∧ slot ∈ slot :: rest.map Prod.fst := ⟨hactive, List.mem_cons_self⟩
        rw [if_pos hhere, hfound, Option.map_some, closeIfOpen]
        by_cases hopen : record.state ∈ openStates
        · rw [if_pos (⟨hactive, hopen⟩ : slot ∉ activeKeys ∧ record.state ∈ openStates), if_pos hopen]
          show (TradeLifecycleStore.write _ _).1.view slot = _
          rw [view_write, Function.update_apply]
          exact if_pos hkey.symm
        · rw [if_neg (fun h => hopen h.2), if_neg hopen, hfound]
    · -- Another slot's entry leaves this one alone.
      have hstep : (closeUntracked activeKeys account (key, record)).store.view slot =
          account.store.view slot := by
        unfold closeUntracked
        split
        · show (TradeLifecycleStore.write _ _).1.view slot = _
          rw [view_write, Function.update_apply]
          exact if_neg fun h => hslot (h.trans hkey)
        · rfl
      have hlookup : ((key, record) :: rest).lookup slot = rest.lookup slot := by
        rw [List.lookup_cons, show (slot == key) = false by simpa using hslot]
      rw [hlookup] at hview
      rw [hrest _ fun other h => hstep.trans (hview other h), hstep]
      simp only [List.mem_cons, or_iff_right hslot]

/-- After a sync, a tracked slot has the record of the last position in it, and any other slot is as it was
but for being closed. -/
theorem view_sync (store : TradeLifecycleStore) (positions : List Live.TrackedPosition) (slot : Slot) :
    (syncFromPositions store positions).store.view slot =
      ((latest positions slot).map positionRecord).or ((store.view slot).map closeIfOpen) := by
  have hmarked : (Account.markAll { store } positions).store.view slot =
      ((latest positions slot).map positionRecord).or (store.view slot) := view_marked positions { store }
  unfold syncFromPositions
  simp only
  generalize Account.markAll { store } positions = marked at hmarked ⊢
  rw [view_closed marked.store.nodup marked.store.named marked fun record h => h, hmarked]
  cases hlatest : latest positions slot with
  | some p =>
    obtain ⟨hp, hslot⟩ := mem_of_latest hlatest
    rw [if_neg fun h => h.1 (hslot ▸ List.mem_map_of_mem hp)]
    rfl
  | none =>
    have hactive := latest_eq_none.mp hlatest
    rw [hlatest, Option.map_none, Option.none_or] at hmarked
    rw [Option.map_none, Option.none_or, Option.none_or]
    by_cases hmem : slot ∈ marked.store.records.map Prod.fst
    · rw [if_pos ⟨hactive, hmem⟩]
    · have hnone : marked.store.view slot = none := Library.lookup_eq_none_of_notMem hmem
      rw [if_neg fun h => hmem h.2, ← hmarked, hnone, Option.map_none]

theorem canSubmitEntry_iff {symbol deploymentId : String} :
    store.canSubmitEntry symbol deploymentId = true ↔
      ∀ record, store.view ⟨symbol, deploymentId⟩ = some record → record.state = .closed := by
  unfold TradeLifecycleStore.canSubmitEntry TradeLifecycleStore.get TradeLifecycleStore.view
  cases store.records.lookup (⟨symbol, deploymentId⟩ : Slot) with
  | none => simp
  | some record => simp

theorem closeIfOpen_closed {record : TradeLifecycle} :
    (closeIfOpen record).state = .closed ↔
      record.state ≠ .pendingEntry ∧ record.state ≠ .reconciliationHold := by
  unfold closeIfOpen openStates
  cases hstate : record.state <;> simp [hstate]

/-- What a sync leaves in any slot, and so which entries it lets the runtime make: a slot is free exactly
when no tracked position is in it and its entry is neither pending nor held for reconciliation. -/
theorem sync_settles (store : TradeLifecycleStore) (positions : List Live.TrackedPosition)
    (symbol deploymentId : String) :
    (syncFromPositions store positions).store.get symbol deploymentId =
      ((latest positions ⟨symbol, deploymentId⟩).map positionRecord).or
        ((store.get symbol deploymentId).map closeIfOpen) ∧
    ((syncFromPositions store positions).store.canSubmitEntry symbol deploymentId = true ↔
      (∀ p ∈ positions, positionSlot p ≠ ⟨symbol, deploymentId⟩) ∧
        ∀ record, store.get symbol deploymentId = some record →
          record.state ≠ .pendingEntry ∧ record.state ≠ .reconciliationHold) := by
  have hview := view_sync store positions ⟨symbol, deploymentId⟩
  refine ⟨hview, ?_⟩
  rw [canSubmitEntry_iff, hview]
  cases hlatest : latest positions ⟨symbol, deploymentId⟩ with
  | some p =>
    obtain ⟨hp, hslot⟩ := mem_of_latest hlatest
    constructor
    · intro hclosed
      -- A tracked position is written as open or leaving, never as closed.
      have hopen := positionRecord_open p
      rw [hclosed (positionRecord p) rfl] at hopen
      exact absurd hopen (by decide)
    · intro hfree
      exact absurd hslot (hfree.1 p hp)
  | none =>
    have hactive : ∀ p ∈ positions, positionSlot p ≠ ⟨symbol, deploymentId⟩ := by
      intro p hp hslot
      exact latest_eq_none.mp hlatest (hslot ▸ List.mem_map_of_mem hp)
    rw [Option.map_none, Option.none_or]
    constructor
    · intro hclosed
      refine ⟨hactive, fun record hrecord => closeIfOpen_closed.mp ?_⟩
      exact hclosed (closeIfOpen record) (Option.map_eq_some_iff.mpr ⟨record, hrecord, rfl⟩)
    · intro hfree record hrecord
      obtain ⟨old, hold, rfl⟩ := Option.map_eq_some_iff.mp hrecord
      exact closeIfOpen_closed.mpr (hfree.2 old hold)

end Sync

section Quiet

variable {store : TradeLifecycleStore} {account : Account} {positions : List Live.TrackedPosition}
  {activeKeys : List Slot}

theorem note_write_quiet {record : TradeLifecycle} (h : account.store.view record.slot = some record) :
    (account.note (·.write record)).transitions = account.transitions ∧
      (account.note (·.write record)).store.view = account.store.view := by
  obtain ⟨hnone, hview⟩ := write_quiet h
  refine ⟨?_, hview⟩
  show account.transitions ++ (account.store.write record).2.toList = account.transitions
  rw [hnone]
  exact List.append_nil _

theorem marked_quiet (hsettled : ∀ p ∈ positions, account.store.view (positionSlot p) =
      some (positionRecord p)) :
    (account.markAll positions).transitions =
      account.transitions ∧
    (account.markAll positions).store.view =
      account.store.view := by
  induction positions generalizing account with
  | nil => exact ⟨rfl, rfl⟩
  | cons p rest ih =>
    rw [markAll_cons]
    have hp := hsettled p List.mem_cons_self
    rw [← slot_positionRecord] at hp
    obtain ⟨htransitions, hview⟩ := note_write_quiet hp
    have hrest : ∀ q ∈ rest, (account.note (·.write (positionRecord p))).store.view (positionSlot q) =
        some (positionRecord q) := by
      intro q hq
      rw [hview]
      exact hsettled q (List.mem_cons_of_mem p hq)
    obtain ⟨htail, hlast⟩ := ih hrest
    exact ⟨htail.trans htransitions, hlast.trans hview⟩

theorem closed_quiet {entries : List (Slot × TradeLifecycle)}
    (hsettled : ∀ entry ∈ entries, entry.1 ∈ activeKeys ∨ entry.2.state ∉ openStates) :
    entries.foldl (closeUntracked activeKeys) account = account := by
  induction entries with
  | nil => rfl
  | cons entry rest ih =>
    have hentry : closeUntracked activeKeys account entry = account := by
      unfold closeUntracked
      apply if_neg
      intro h
      exact (hsettled entry List.mem_cons_self).elim h.1 (fun hclosed => hclosed h.2)
    rw [List.foldl_cons, hentry]
    exact ih fun other h => hsettled other (List.mem_cons_of_mem entry h)

theorem quiet_of_settled
    (htracked : ∀ p ∈ positions, store.view (positionSlot p) = some (positionRecord p))
    (huntracked : ∀ slot ∉ positions.map positionSlot, ∀ record, store.view slot = some record →
      record.state ∉ openStates) :
    (syncFromPositions store positions).transitions = [] := by
  have hmarked : (Account.markAll { store } positions).transitions = [] ∧
      (Account.markAll { store } positions).store.view = store.view := marked_quiet htracked
  obtain ⟨htransitions, hview⟩ := hmarked
  unfold syncFromPositions
  simp only
  rw [closed_quiet]
  · exact htransitions
  · intro entry hentry
    by_cases hactive : entry.1 ∈ positions.map positionSlot
    · exact Or.inl hactive
    · refine Or.inr (huntracked entry.1 hactive entry.2 ?_)
      rw [← congrFun hview entry.1]
      exact Library.lookup_of_mem (TradeLifecycleStore.nodup _) hentry

theorem prefix_markAll (account : Account) (positions : List Live.TrackedPosition) :
    account.transitions <+: (account.markAll positions).transitions := by
  induction positions generalizing account with
  | nil => exact List.prefix_rfl
  | cons p rest ih =>
    have hnote : account.transitions <+: (account.note (markPosition p)).transitions :=
      List.prefix_append account.transitions _
    exact hnote.trans (ih (account.note (markPosition p)))

theorem prefix_closed (entries : List (Slot × TradeLifecycle)) (account : Account) :
    account.transitions <+: (entries.foldl (closeUntracked activeKeys) account).transitions := by
  induction entries generalizing account with
  | nil => exact List.prefix_rfl
  | cons entry rest ih =>
    have hentry : account.transitions <+: (closeUntracked activeKeys account entry).transitions := by
      unfold closeUntracked
      split
      · exact List.prefix_append account.transitions _
      · exact List.prefix_rfl
    exact hentry.trans (ih (closeUntracked activeKeys account entry))

/-- Transitions are only ever added, so a quiet sync was quiet at every position. -/
theorem settled_of_quiet (h : (syncFromPositions store positions).transitions = [])
    {p : Live.TrackedPosition} (hp : p ∈ positions) :
    store.view (positionSlot p) = some (positionRecord p) := by
  obtain ⟨earlier, later, rfl⟩ := List.append_of_mem hp
  have hmarked : (Account.markAll { store } (earlier ++ p :: later)).transitions = [] := by
    have hgrow : (Account.markAll { store } (earlier ++ p :: later)).transitions <+:
        (syncFromPositions store (earlier ++ p :: later)).transitions := prefix_closed _ _
    rwa [h, List.prefix_nil] at hgrow
  have hsplit : Account.markAll { store } (earlier ++ p :: later) =
      ((Account.markAll { store } earlier).note (·.write (positionRecord p))).markAll later := by
    rw [markAll_append, markAll_cons]
  have hstart : Account.Full store { store } := Reporter.Account.refl store.view
  have hfull := hstart.marked earlier
  generalize Account.markAll { store } earlier = account at hsplit hfull
  have hstep : account.transitions = [] ∧ (account.store.write (positionRecord p)).2.toList = [] := by
    have hgrow := prefix_markAll (account.note (·.write (positionRecord p))) later
    rw [← hsplit, hmarked, List.prefix_nil] at hgrow
    exact List.append_eq_nil_iff.mp hgrow
  have hview : account.store.view = store.view := by
    have hcomplete := hfull.complete
    rwa [hstep.1] at hcomplete
  by_contra hne
  rw [← hview, ← slot_positionRecord] at hne
  obtain ⟨t, ht, -, -⟩ := write_told hne
  have hnil := hstep.2
  rw [ht] at hnil
  cases hnil

/-- A second sync with the same positions reports nothing exactly when the positions that share a slot
agree on what it is: two that do not would be reported against each other at every sync. -/
theorem resync_quiet_iff (store : TradeLifecycleStore) (positions : List Live.TrackedPosition) :
    (syncFromPositions (syncFromPositions store positions).store positions).transitions = [] ↔
      ∀ p ∈ positions, ∀ q ∈ positions, positionSlot p = positionSlot q →
        positionRecord p = positionRecord q := by
  constructor
  · intro hquiet p hp q hq hslot
    have hpview := settled_of_quiet hquiet hp
    have hqview := settled_of_quiet hquiet hq
    rw [hslot, hqview] at hpview
    exact (Option.some.inj hpview).symm
  · intro hagree
    apply quiet_of_settled
    · intro p hp
      rw [view_sync]
      cases hlatest : latest positions (positionSlot p) with
      | none => exact absurd (List.mem_map_of_mem hp) (latest_eq_none.mp hlatest)
      | some q =>
        obtain ⟨hq, hslot⟩ := mem_of_latest hlatest
        exact congrArg some (hagree q hq p hp hslot)
    · intro slot hactive record hrecord
      rw [view_sync, latest_eq_none.mpr hactive, Option.map_none, Option.none_or] at hrecord
      obtain ⟨old, -, rfl⟩ := Option.map_eq_some_iff.mp hrecord
      unfold closeIfOpen
      split
      · simp [openStates]
      · assumption

end Quiet

end Bhiksha.Lifecycle
