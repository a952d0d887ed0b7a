import Mathlib.Tactic.Push
import Bhiksha.Library.Slot
import Bhiksha.Strategy.MarketImpulse

/-! The continuation state machine, read as a statement about the rows since the reclaim bar. -/

namespace Bhiksha.MarketImpulse

open Library

section Slots

variable (params : EntryParams) (asEtTime : ℚ → ℚ) (window : EntryWindow) (type : ConfirmationType)

/-- The reclaim bar that a row arms its side with. -/
def armsSide (side : SignalDirection) (index : ℕ) (row : ImpulseRow) : Option Reclaim :=
  if reclaims params side row then some ⟨index, row.high, row.low⟩ else none

/-- The row is too old for the reclaim bar, or out of its regime. -/
def dropsSide (side : SignalDirection) (reclaim : Reclaim) (index : ℕ) (row : ImpulseRow) : Prop :=
  params.confirmationWindowBars < (index - reclaim.index : ℕ) ∨ regimeOf side row = false

instance (side : SignalDirection) (reclaim : Reclaim) (index : ℕ) (row : ImpulseRow) :
    Decidable (dropsSide params side reclaim index row) :=
  inferInstanceAs (Decidable (_ ∨ _))

/-- The row confirms the reclaim bar in the entry window. -/
def confirmsSide (side : SignalDirection) (reclaim : Reclaim) (row : ImpulseRow) : Bool :=
  window.contains (asEtTime row.timestamp) && confirmsContinuation params type side row reclaim

/-- The reclaim bar still waits after the row. -/
def keepsSide (side : SignalDirection) (reclaim : Reclaim) (index : ℕ) (row : ImpulseRow) : Bool :=
  ¬dropsSide params side reclaim index row ∧
    (index - reclaim.index = 0 ∨ confirmsSide params asEtTime window type side reclaim row = false)

theorem agePending_fst (index : ℕ) (row : ImpulseRow) (side : SignalDirection)
    (state : Option Reclaim) :
    (agePending params asEtTime window type index row side state).1 =
      state.filter fun reclaim => keepsSide params asEtTime window type side reclaim index row := by
  cases state with
  | none => rfl
  | some reclaim =>
    rw [Option.filter_some]
    unfold agePending keepsSide dropsSide confirmsSide
    dsimp only
    split
    · next hdrops => simp [hdrops]
    next hstays =>
    split
    · next hzero => simpa [hzero] using hstays
    next hage =>
    split
    · next hconfirms => simp [hage, hconfirms]
    · next hwaits => simp [hstays, Bool.eq_false_of_not_eq_true hwaits]

theorem agePending_snd_eq_some_iff {index : ℕ} {row : ImpulseRow} {side : SignalDirection}
    {state : Option Reclaim} {confirmation : Confirmation} :
    (agePending params asEtTime window type index row side state).2 = some confirmation ↔
      ∃ reclaim, state = some reclaim ∧ ¬dropsSide params side reclaim index row ∧
        index - reclaim.index ≠ 0 ∧ confirmsSide params asEtTime window type side reclaim row ∧
        confirmation = ⟨side, reclaim, index - reclaim.index⟩ := by
  cases state with
  | none =>
    refine iff_of_false (fun h => nomatch h) ?_
    rintro ⟨reclaim, h, -⟩
    cases h
  | some reclaim =>
    simp only [Option.some.injEq, exists_eq_left']
    unfold agePending dropsSide confirmsSide
    dsimp only
    split
    · next hdrops => simp [hdrops]
    next hstays =>
    split
    · next hzero => simp [hzero]
    next hage =>
    split
    · next hconfirms =>
      rw [Option.some.injEq]
      exact ⟨fun h => ⟨hstays, hage, hconfirms, h.symm⟩, fun h => h.2.2.2.symm⟩
    · next hwaits =>
      refine iff_of_false (fun h => nomatch h) ?_
      rintro ⟨-, -, hconfirms, -⟩
      exact hwaits hconfirms

/-- The reclaim bar of a side that waits at the end of the rows. -/
def pendingSide (side : SignalDirection) (rows : List ImpulseRow) : Option Reclaim :=
  slotAfter (armsSide params side) (keepsSide params asEtTime window type side) rows

theorem continuationRow_pending (index : ℕ) (pending : Pending) (row : ImpulseRow)
    (side : SignalDirection) :
    (continuationRow params asEtTime window type index pending row).1.get side =
      slotStep (armsSide params side) (keepsSide params asEtTime window type side) index row
        (pending.get side) := by
  unfold slotStep armsSide
  cases side with
  | long =>
    unfold continuationRow Pending.get
    dsimp only
    rw [agePending_fst]
    split <;> rfl
  | short =>
    unfold continuationRow Pending.get
    dsimp only
    rw [agePending_fst]
    split <;> rfl

theorem continuationRows_append_singleton (rows : List ImpulseRow) (row : ImpulseRow) :
    continuationRows params asEtTime window type (rows ++ [row]) =
      continuationRow params asEtTime window type rows.length
        (continuationRows params asEtTime window type rows).1 row := by
  unfold continuationRows
  rw [List.zipIdx_append, List.foldl_append]
  simp

/-- Each side of the machine is a slot of its own. -/
theorem continuationRows_pending (rows : List ImpulseRow) (side : SignalDirection) :
    (continuationRows params asEtTime window type rows).1.get side =
      pendingSide params asEtTime window type side rows := by
  unfold pendingSide
  induction rows using List.reverseRecOn with
  | nil => cases side <;> rfl
  | append_singleton rows row ih =>
    rw [continuationRows_append_singleton, continuationRow_pending, ih, slotAfter_append_singleton]

/-- The sides share no regime, so at most one of them is confirmed on a row. -/
theorem continuationRow_confirmed_iff {index : ℕ} {pending : Pending} {row : ImpulseRow}
    {confirmation : Confirmation} :
    (continuationRow params asEtTime window type index pending row).2 = some confirmation ↔
      (agePending params asEtTime window type index row confirmation.side
        (pending.get confirmation.side)).2 = some confirmation := by
  have hside {side : SignalDirection} {state : Option Reclaim} {c : Confirmation}
      (h : (agePending params asEtTime window type index row side state).2 = some c) :
      c.side = side ∧ regimeOf side row = true := by
    obtain ⟨reclaim, -, hstays, -, -, rfl⟩ := (agePending_snd_eq_some_iff ..).mp h
    exact ⟨rfl, Bool.eq_true_of_not_eq_false fun hout => hstays (Or.inr hout)⟩
  have hexclusive (h : regimeOf .long row = true) : regimeOf .short row = false := by
    unfold regimeOf at h ⊢
    have hbullish : row.regime = some .bullish := by simpa using h
    rw [hbullish]
    rfl
  show (Option.or _ _) = _ ↔ _
  rw [Option.or_eq_some_iff]
  constructor
  · rintro (hshort | ⟨-, hlong⟩)
    · rw [(hside hshort).1]
      exact hshort
    · rw [(hside hlong).1]
      exact hlong
  · intro h
    cases hc : confirmation.side with
    | short =>
      rw [hc] at h
      exact Or.inl h
    | long =>
      rw [hc] at h
      refine Or.inr ⟨?_, h⟩
      rw [Option.eq_none_iff_forall_ne_some]
      intro other hother
      have hbearish := (hside hother).2
      rw [hexclusive (hside h).2] at hbearish
      cases hbearish

end Slots

section Reading

variable (params : EntryParams) (asEtTime : ℚ → ℚ) (window : EntryWindow) (type : ConfirmationType)
  (side : SignalDirection) (frame : List ImpulseRow)

/-- Row `i` is a reclaim bar of the side. -/
def ReclaimAt (i : ℕ) : Prop := ∃ row, frame[i]? = some row ∧ reclaims params side row

/-- Row `i` is in the regime of the side. -/
def InRegimeAt (i : ℕ) : Prop := ∃ row, frame[i]? = some row ∧ regimeOf side row

/-- Row `i` is in the entry window and confirms the reclaim bar `j`. -/
def ConfirmsAt (j i : ℕ) : Prop :=
  ∃ bar row, frame[j]? = some bar ∧ frame[i]? = some row ∧
    window.contains (asEtTime row.timestamp) ∧
    confirmsContinuation params type side row ⟨j, bar.high, bar.low⟩

/-- The row `t` is the first to confirm the last reclaim bar `j` of the side, in its regime all the way
and no more than the confirmation window later. -/
structure Continues (j t : ℕ) : Prop where
  earlier : j < t
  recent : (t : ℤ) - params.confirmationWindowBars ≤ j
  reclaim : ReclaimAt params side frame j
  last_reclaim : ∀ i, j < i → i < t → ¬ReclaimAt params side frame i
  regime : ∀ i, j < i → i ≤ t → InRegimeAt side frame i
  unconfirmed : ∀ i, j < i → i < t → ¬ConfirmsAt params asEtTime window type side frame j i
  confirms : ConfirmsAt params asEtTime window type side frame j t

end Reading

section Laws

variable {params : EntryParams} {asEtTime : ℚ → ℚ} {window : EntryWindow} {type : ConfirmationType}
  {side : SignalDirection}

theorem armsSide_eq_some_iff {index : ℕ} {row : ImpulseRow} {reclaim : Reclaim} :
    armsSide params side index row = some reclaim ↔
      reclaims params side row ∧ reclaim = ⟨index, row.high, row.low⟩ := by
  unfold armsSide
  split
  · next h => simp [h, eq_comm]
  · next h => simp [h]

/-- What waits is the last reclaim bar, unless a row since then was too late, left the regime or
confirmed it. -/
theorem pendingSide_eq_some_iff {rows : List ImpulseRow} {reclaim : Reclaim} :
    pendingSide params asEtTime window type side rows = some reclaim ↔
      ∃ bar, rows[reclaim.index]? = some bar ∧ reclaims params side bar ∧
        reclaim = ⟨reclaim.index, bar.high, bar.low⟩ ∧
        ∀ i row, reclaim.index < i → rows[i]? = some row →
          reclaims params side row = false ∧ ¬dropsSide params side reclaim i row ∧
            confirmsSide params asEtTime window type side reclaim row = false := by
  unfold pendingSide
  rw [slotAfter_eq_some_iff]
  constructor
  · rintro ⟨j, bar, h⟩
    obtain ⟨hreclaims, rfl⟩ := armsSide_eq_some_iff.mp h.armed
    refine ⟨bar, h.found, hreclaims, rfl, fun i row hi hrow => ?_⟩
    obtain ⟨hidle, hkeeps⟩ := h.kept i row hi hrow
    have hage : i - j ≠ 0 := Nat.sub_ne_zero_of_lt hi
    unfold keepsSide at hkeeps
    obtain ⟨hstays, hzero | hwaits⟩ := of_decide_eq_true hkeeps
    · exact absurd hzero hage
    · refine ⟨?_, hstays, hwaits⟩
      unfold armsSide at hidle
      by_contra hagain
      rw [if_pos (Bool.eq_true_of_not_eq_false hagain)] at hidle
      cases hidle
  · rintro ⟨bar, hbar, hreclaims, hreclaim, hkept⟩
    refine ⟨reclaim.index, bar, hbar, armsSide_eq_some_iff.mpr ⟨hreclaims, hreclaim⟩,
      fun i row hi hrow => ?_⟩
    obtain ⟨hidle, hstays, hwaits⟩ := hkept i row hi hrow
    refine ⟨if_neg (Bool.eq_false_iff.mp hidle), ?_⟩
    unfold keepsSide
    exact decide_eq_true ⟨hstays, Or.inr hwaits⟩

theorem not_dropsSide_iff {reclaim : Reclaim} {i : ℕ} {row : ImpulseRow} (hi : reclaim.index < i) :
    ¬dropsSide params side reclaim i row ↔
      (i : ℤ) - params.confirmationWindowBars ≤ reclaim.index ∧ regimeOf side row = true := by
  unfold dropsSide
  rw [not_or, Bool.not_eq_false]
  have hage : ((i - reclaim.index : ℕ) : ℤ) = i - reclaim.index := by omega
  rw [hage]
  constructor
  · rintro ⟨hrecent, hregime⟩
    exact ⟨by omega, hregime⟩
  · rintro ⟨hrecent, hregime⟩
    exact ⟨by omega, hregime⟩

/-- The confirmation on the last row, as the machine comes to it. -/
theorem confirmed_iff_continues {rows : List ImpulseRow} {latest : ImpulseRow}
    {confirmation : Confirmation} :
    (continuationRows params asEtTime window type (rows ++ [latest])).2 = some confirmation ↔
      ∃ bar, (rows ++ [latest])[confirmation.reclaim.index]? = some bar ∧
        confirmation.reclaim = ⟨confirmation.reclaim.index, bar.high, bar.low⟩ ∧
        confirmation.age = rows.length - confirmation.reclaim.index ∧
        Continues params asEtTime window type confirmation.side (rows ++ [latest])
          confirmation.reclaim.index rows.length := by
  rw [continuationRows_append_singleton, continuationRow_confirmed_iff, continuationRows_pending,
    agePending_snd_eq_some_iff]
  have hlatest : (rows ++ [latest])[rows.length]? = some latest := List.getElem?_concat_length
  constructor
  · rintro ⟨reclaim, hpending, hstays, hage, hconfirms, heq⟩
    obtain ⟨bar, hbar, hreclaims, hreclaim, hkept⟩ := pendingSide_eq_some_iff.mp hpending
    have hlt := (List.getElem?_eq_some_iff.mp hbar).1
    have hbar' : (rows ++ [latest])[reclaim.index]? = some bar := by
      rw [List.getElem?_append_left hlt]
      exact hbar
    obtain ⟨hrecent, hregime⟩ := (not_dropsSide_iff hlt).mp hstays
    -- what the rows before the last one have kept
    have hbetween {i : ℕ} (hi : reclaim.index < i) (hlti : i < rows.length) {row : ImpulseRow}
        (hrow : (rows ++ [latest])[i]? = some row) :
        reclaims params confirmation.side row = false ∧
          ¬dropsSide params confirmation.side reclaim i row ∧
          confirmsSide params asEtTime window type confirmation.side reclaim row = false := by
      rw [List.getElem?_append_left hlti] at hrow
      exact hkept i row hi hrow
    have hconfirms' := Bool.and_eq_true_iff.mp hconfirms
    rw [heq]
    refine ⟨bar, hbar', hreclaim, rfl, hlt, hrecent, ⟨bar, hbar', hreclaims⟩, ?_, ?_, ?_, ?_⟩
    · rintro i hi hlti ⟨row, hrow, hagain⟩
      exact nomatch (hbetween hi hlti hrow).1.symm.trans hagain
    · intro i hi hle
      rcases Nat.lt_or_eq_of_le hle with hlti | rfl
      · have hrow : (rows ++ [latest])[i]? = some rows[i] := by
          rw [List.getElem?_append_left hlti, List.getElem?_eq_getElem hlti]
        exact ⟨_, hrow, ((not_dropsSide_iff hi).mp (hbetween hi hlti hrow).2.1).2⟩
      · exact ⟨latest, hlatest, hregime⟩
    · rintro i hi hlti ⟨bar', row, hbar'', hrow, hwindow, hagain⟩
      obtain rfl := Option.some.inj (hbar'.symm.trans hbar'')
      have hwaits := (hbetween hi hlti hrow).2.2
      rw [hreclaim] at hwaits
      unfold confirmsSide at hwaits
      rw [Bool.and_eq_true_iff.mpr ⟨hwindow, hagain⟩] at hwaits
      cases hwaits
    · refine ⟨bar, latest, hbar', hlatest, hconfirms'.1, ?_⟩
      dsimp only
      rw [← hreclaim]
      exact hconfirms'.2
  · rintro ⟨bar, hbar, hreclaim, hage, h⟩
    obtain ⟨side, reclaim, age⟩ := confirmation
    dsimp only at hbar hreclaim hage h ⊢
    have hlt := h.earlier
    have hbar' : rows[reclaim.index]? = some bar := by
      rw [← hbar, List.getElem?_append_left hlt]
    have hregime {i : ℕ} (hi : reclaim.index < i) (hle : i ≤ rows.length) {row : ImpulseRow}
        (hrow : (rows ++ [latest])[i]? = some row) : regimeOf side row = true := by
      obtain ⟨row', hrow', hin⟩ := h.regime i hi hle
      obtain rfl := Option.some.inj (hrow.symm.trans hrow')
      exact hin
    have hrecent := h.recent
    obtain ⟨first, hfirst, hreclaims⟩ := h.reclaim
    obtain rfl := Option.some.inj (hbar.symm.trans hfirst)
    obtain ⟨bar', last, hbar'', hlast, hwindow, hconfirms⟩ := h.confirms
    obtain rfl := Option.some.inj (hbar.symm.trans hbar'')
    obtain rfl := Option.some.inj (hlatest.symm.trans hlast)
    rw [← hreclaim] at hconfirms
    refine ⟨reclaim, ?_, (not_dropsSide_iff hlt).mpr ⟨hrecent, hregime hlt le_rfl hlatest⟩, ?_,
      Bool.and_eq_true_iff.mpr ⟨hwindow, hconfirms⟩, by rw [hage]⟩
    · refine pendingSide_eq_some_iff.mpr ⟨bar, hbar', hreclaims, hreclaim, fun i row hi hrow => ?_⟩
      have hlti := (List.getElem?_eq_some_iff.mp hrow).1
      have hrow' : (rows ++ [latest])[i]? = some row := by
        rw [List.getElem?_append_left hlti]
        exact hrow
      refine ⟨?_, (not_dropsSide_iff hi).mpr ⟨by omega, hregime hi hlti.le hrow'⟩, ?_⟩
      · by_contra hagain
        exact h.last_reclaim i hi hlti ⟨row, hrow', Bool.eq_true_of_not_eq_false hagain⟩
      · by_contra hagain
        obtain ⟨hwin, hconf⟩ := Bool.and_eq_true_iff.mp (Bool.eq_true_of_not_eq_false hagain)
        rw [hreclaim] at hconf
        exact h.unconfirmed i hi hlti ⟨bar, row, hbar, hrow', hwin, hconf⟩
    · omega

/-- A row cannot be in the regime of both sides, so the direction is the side of the confirmation. -/
theorem chooseSide_confirmed_iff {confirmed : Option Confirmation} :
    chooseSide params (fun side => confirmed.any fun confirmation => confirmation.side = side) =
        some side ↔
      allows (directionFilter params) side ∧ ∃ confirmation ∈ confirmed, confirmation.side = side := by
  unfold chooseSide
  cases confirmed with
  | none => simp
  | some confirmation =>
    simp only [Option.any_some, decide_eq_true_eq, Option.mem_def, Option.some.injEq, exists_eq_left']
    cases hside : confirmation.side <;> cases side <;> simp

/-- The direction of the decision on the last row is the one whose reclaim bar it confirms. -/
theorem continuation_direction_iff (deploymentId : String) {rows : List ImpulseRow}
    {latest : ImpulseRow} :
    (evaluateContinuationConfirmationEntry params asEtTime deploymentId window type
        (rows ++ [latest]) latest).direction = some side ↔
      allows (directionFilter params) side ∧
        ∃ j, Continues params asEtTime window type side (rows ++ [latest]) j rows.length := by
  show chooseSide params (fun side => (continuationRows params asEtTime window type
    (rows ++ [latest])).2.any fun confirmation => confirmation.side = side) = some side ↔ _
  rw [chooseSide_confirmed_iff]
  refine and_congr_right fun _ => ?_
  constructor
  · rintro ⟨confirmation, hconfirmed, rfl⟩
    obtain ⟨bar, -, -, -, h⟩ := confirmed_iff_continues.mp hconfirmed
    exact ⟨confirmation.reclaim.index, h⟩
  · rintro ⟨j, h⟩
    obtain ⟨bar, hbar, -⟩ := h.reclaim
    exact ⟨⟨side, ⟨j, bar.high, bar.low⟩, rows.length - j⟩,
      confirmed_iff_continues.mpr ⟨bar, hbar, rfl, rfl, h⟩, rfl⟩

section Window

variable (k : ℕ)

def Reclaim.shift (reclaim : Reclaim) : Reclaim := { reclaim with index := k + reclaim.index }

def Confirmation.shift (confirmation : Confirmation) : Confirmation :=
  { confirmation with reclaim := confirmation.reclaim.shift k }

end Window

/-- A waiting reclaim bar is one of the last rows, and only its index tells how many came before. -/
theorem pendingSide_append {before rows : List ImpulseRow}
    (hwidth : params.confirmationWindowBars.toNat < rows.length) :
    pendingSide params asEtTime window type side (before ++ rows) =
      (pendingSide params asEtTime window type side rows).map (Reclaim.shift before.length) := by
  refine slotAfter_append (fun i row => ?_) (fun reclaim i row => ?_)
    (fun j row reclaim i later harmed hlate => ?_) hwidth
  · unfold armsSide
    split <;> rfl
  · have hage : before.length + i - (reclaim.shift before.length).index = i - reclaim.index :=
      Nat.add_sub_add_left _ _ _
    have hconfirms : confirmsSide params asEtTime window type side (reclaim.shift before.length) row =
        confirmsSide params asEtTime window type side reclaim row := by
      cases type <;> cases side <;> rfl
    unfold keepsSide
    refine decide_eq_decide.mpr ?_
    unfold dropsSide
    rw [hage, hconfirms]
  · obtain ⟨-, rfl⟩ := armsSide_eq_some_iff.mp harmed
    have hdrops : dropsSide params side ⟨j, row.high, row.low⟩ i later := by
      refine Or.inl ?_
      show params.confirmationWindowBars < ((i - j : ℕ) : ℤ)
      omega
    unfold keepsSide
    exact decide_eq_false fun h => h.1 hdrops

section Shift

variable (before : List ImpulseRow) {frame : List ImpulseRow}

theorem getElem?_before (i : ℕ) : (before ++ frame)[before.length + i]? = frame[i]? := by
  rw [List.getElem?_append_right (Nat.le_add_right _ _), Nat.add_sub_cancel_left]

theorem reclaimAt_append_iff {i : ℕ} :
    ReclaimAt params side (before ++ frame) (before.length + i) ↔ ReclaimAt params side frame i := by
  unfold ReclaimAt
  rw [getElem?_before]

theorem inRegimeAt_append_iff {i : ℕ} :
    InRegimeAt side (before ++ frame) (before.length + i) ↔ InRegimeAt side frame i := by
  unfold InRegimeAt
  rw [getElem?_before]

theorem confirmsAt_append_iff {j i : ℕ} :
    ConfirmsAt params asEtTime window type side (before ++ frame) (before.length + j)
        (before.length + i) ↔
      ConfirmsAt params asEtTime window type side frame j i := by
  unfold ConfirmsAt
  rw [getElem?_before, getElem?_before]
  have hindex (row bar : ImpulseRow) :
      confirmsContinuation params type side row ⟨before.length + j, bar.high, bar.low⟩ =
        confirmsContinuation params type side row ⟨j, bar.high, bar.low⟩ := by
    cases type <;> cases side <;> rfl
  simp only [hindex]

/-- The reading speaks of the rows from the reclaim bar on and of nothing before it. -/
theorem continues_append_iff {j t : ℕ} :
    Continues params asEtTime window type side (before ++ frame) (before.length + j)
        (before.length + t) ↔
      Continues params asEtTime window type side frame j t := by
  constructor
  · intro h
    have hrecent := h.recent
    refine ⟨by have := h.earlier; omega, by push_cast at hrecent; omega,
      (reclaimAt_append_iff before).mp h.reclaim, fun i hi hlt => ?_, fun i hi hle => ?_, fun i hi hlt => ?_,
      (confirmsAt_append_iff before).mp h.confirms⟩
    · rw [← reclaimAt_append_iff before]
      exact h.last_reclaim _ (by omega) (by omega)
    · rw [← inRegimeAt_append_iff before]
      exact h.regime _ (by omega) (by omega)
    · rw [← confirmsAt_append_iff before]
      exact h.unconfirmed _ (by omega) (by omega)
  · intro h
    have hrecent := h.recent
    -- an index past the reclaim bar is an index of the frame
    have hindex {i : ℕ} (hi : before.length + j < i) : ∃ i', i = before.length + i' ∧ j < i' :=
      ⟨i - before.length, by omega, by omega⟩
    refine ⟨by have := h.earlier; omega, by push_cast; omega, (reclaimAt_append_iff before).mpr h.reclaim,
      fun i hi hlt => ?_, fun i hi hle => ?_, fun i hi hlt => ?_,
      (confirmsAt_append_iff before).mpr h.confirms⟩
    · obtain ⟨i, rfl, hi'⟩ := hindex hi
      rw [reclaimAt_append_iff before]
      exact h.last_reclaim i hi' (by omega)
    · obtain ⟨i, rfl, hi'⟩ := hindex hi
      rw [inRegimeAt_append_iff before]
      exact h.regime i hi' (by omega)
    · obtain ⟨i, rfl, hi'⟩ := hindex hi
      rw [confirmsAt_append_iff before]
      exact h.unconfirmed i hi' (by omega)

end Shift

/-- The confirmation on the last row is the one that its last `W + 1` rows give. -/
theorem confirmed_append {before rows : List ImpulseRow} {latest : ImpulseRow}
    (hwidth : params.confirmationWindowBars.toNat ≤ rows.length) :
    (continuationRows params asEtTime window type (before ++ (rows ++ [latest]))).2 =
      (continuationRows params asEtTime window type (rows ++ [latest])).2.map
        (Confirmation.shift before.length) := by
  ext confirmation
  rw [Option.map_eq_some_iff, ← List.append_assoc, confirmed_iff_continues, List.append_assoc,
    List.length_append]
  constructor
  · rintro ⟨bar, hbar, hreclaim, hage, h⟩
    have hrecent := h.recent
    have hindex : before.length ≤ confirmation.reclaim.index := by
      push_cast at hrecent
      omega
    obtain ⟨side, ⟨index, high, low⟩, age⟩ := confirmation
    dsimp only at hbar hreclaim hage h hindex
    obtain ⟨j, rfl⟩ := Nat.exists_eq_add_of_le hindex
    obtain ⟨-, rfl, rfl⟩ := Reclaim.mk.inj hreclaim
    refine ⟨⟨side, ⟨j, bar.high, bar.low⟩, age⟩, confirmed_iff_continues.mpr ⟨bar, ?_, rfl, ?_,
      (continues_append_iff before).mp h⟩, rfl⟩
    · rw [← getElem?_before before]
      exact hbar
    · show age = rows.length - j
      omega
  · rintro ⟨original, hconfirmed, rfl⟩
    obtain ⟨bar, hbar, hreclaim, hage, h⟩ := confirmed_iff_continues.mp hconfirmed
    refine ⟨bar, ?_, ?_, ?_, (continues_append_iff before).mpr h⟩
    · exact (getElem?_before before _).trans hbar
    · exact congrArg (Reclaim.shift before.length) hreclaim
    · show original.age = before.length + rows.length - (before.length + original.reclaim.index)
      omega

/-- The whole decision depends on the last `W + 1` rows only. -/
theorem evaluateContinuation_append (deploymentId : String) {before rows : List ImpulseRow}
    {latest : ImpulseRow} (hwidth : params.confirmationWindowBars.toNat ≤ rows.length) :
    evaluateContinuationConfirmationEntry params asEtTime deploymentId window type
        (before ++ (rows ++ [latest])) latest =
      evaluateContinuationConfirmationEntry params asEtTime deploymentId window type
        (rows ++ [latest]) latest := by
  have hlong : params.confirmationWindowBars.toNat < (rows ++ [latest]).length := by
    rw [List.length_append, List.length_singleton]
    omega
  have hwaits (side : SignalDirection) :
      ((continuationRows params asEtTime window type (before ++ (rows ++ [latest]))).1.get
          side).isSome =
        ((continuationRows params asEtTime window type (rows ++ [latest])).1.get side).isSome := by
    rw [continuationRows_pending, continuationRows_pending, pendingSide_append hlong,
      Option.isSome_map]
  have hconfirmed : (continuationRows params asEtTime window type
      (before ++ (rows ++ [latest]))).2 =
        (continuationRows params asEtTime window type (rows ++ [latest])).2.map
          (Confirmation.shift before.length) := confirmed_append hwidth
  unfold evaluateContinuationConfirmationEntry
  have hlongSide := hwaits .long
  have hshortSide := hwaits .short
  revert hconfirmed hlongSide hshortSide
  generalize continuationRows params asEtTime window type (before ++ (rows ++ [latest])) = whole
  generalize continuationRows params asEtTime window type (rows ++ [latest]) = recent
  intro hconfirmed hlongSide hshortSide
  obtain ⟨⟨wholeLong, wholeShort⟩, wholeConfirmed⟩ := whole
  obtain ⟨⟨recentLong, recentShort⟩, recentConfirmed⟩ := recent
  simp only [Pending.get] at hconfirmed hlongSide hshortSide
  subst hconfirmed
  dsimp only
  rw [hlongSide, hshortSide]
  cases recentConfirmed <;> rfl

end Laws

/-- The evaluation signals a side at the last row exactly when the row is the first to confirm the side's
last reclaim bar in time and in regime, and a window of `W + 1` rows decides as the whole frame does. -/
theorem continuation_is_declarative_and_local (params : EntryParams) (asEtTime : ℚ → ℚ)
    (deploymentId : String) (window : EntryWindow) (type : ConfirmationType)
    (rows : List ImpulseRow) (latest : ImpulseRow) :
    (∀ side,
      ((evaluateContinuationConfirmationEntry params asEtTime deploymentId window type
          (rows ++ [latest]) latest).signal = true ∧
        (evaluateContinuationConfirmationEntry params asEtTime deploymentId window type
          (rows ++ [latest]) latest).direction = some side) ↔
      allows (directionFilter params) side ∧
        ∃ j, Continues params asEtTime window type side (rows ++ [latest]) j rows.length) ∧
    ∀ before, params.confirmationWindowBars.toNat ≤ rows.length →
      evaluateContinuationConfirmationEntry params asEtTime deploymentId window type
          (before ++ (rows ++ [latest])) latest =
        evaluateContinuationConfirmationEntry params asEtTime deploymentId window type
          (rows ++ [latest]) latest := by
  refine ⟨fun side => ?_, fun before hwidth => evaluateContinuation_append deploymentId hwidth⟩
  rw [← continuation_direction_iff deploymentId]
  constructor
  · exact fun h => h.2
  · intro hdirection
    refine ⟨?_, hdirection⟩
    -- the decision signals just when it has a direction
    have hsignal : (evaluateContinuationConfirmationEntry params asEtTime deploymentId window type
        (rows ++ [latest]) latest).signal =
      (evaluateContinuationConfirmationEntry params asEtTime deploymentId window type
        (rows ++ [latest]) latest).direction.isSome := rfl
    rw [hsignal, hdirection]
    rfl

end Bhiksha.MarketImpulse
