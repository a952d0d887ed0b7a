import Mathlib.Algebra.Order.Field.Basic
import Mathlib.Data.Int.ConditionallyCompleteOrder
import Mathlib.Data.List.Chain
import Mathlib.Data.List.TakeWhile
import Mathlib.Tactic.Linarith
import Bhiksha.Library.Streak
import Bhiksha.Library.Timeline
import Bhiksha.Library.Trace
import Bhiksha.Strategy.WeeklyBars

/-! Weekly coverage over a sequence of observations, against the batch confirmations of the last one. -/

namespace Bhiksha.Weekly

open Library

/-- `confirmations`; the compiler admits counts from one on. -/
def confirmations (calendar : ExchangeCalendar) (frame : List MinuteBar) (condition : Condition)
    (now boundary : ℚ) : List ℚ :=
  let bars := completed calendar frame condition now boundary
  (List.range' (condition.count - 1) (bars.length - (condition.count - 1))).filterMap fun i =>
    if ((bars.drop (i + 1 - condition.count)).take condition.count).all fun bar =>
        boundary ≤ bar.start ∧ bar.price.any condition.matches then
      (bars[i]?).map CompletedBar.finish
    else none

/-- The New York clock goes forward, and a session lies within its date. -/
structure ExchangeCalendar.Lawful (calendar : ExchangeCalendar) : Prop where
  clock : Monotone calendar.newYorkDate
  opens : ∀ {day opening closing}, calendar.session day = some (opening, closing) →
    opening < closing
  within : ∀ {day opening closing t}, calendar.session day = some (opening, closing) →
    opening ≤ t → t ≤ closing → calendar.newYorkDate t = day

/-- `json.dumps` and `json.loads` on a checkpoint: strings, integers, floats and ISO times come back as
they were written. -/
structure CheckpointText (T : Type) where
  dumps : Checkpoint → T
  loads : T → Checkpoint
  loads_dumps : ∀ checkpoint, loads (dumps checkpoint) = checkpoint

structure Observation where
  frame : List MinuteBar
  now : ℚ

/-- Time goes forward, and a minute keeps its close once the frame has it. -/
def Observation.Gains (earlier later : Observation) : Prop :=
  earlier.now ≤ later.now ∧
    ∀ t price, minutePrice earlier.frame t = some price → minutePrice later.frame t = some price

section Runs

variable {T : Type} (calendar : ExchangeCalendar) (text : CheckpointText T) (condition : Condition)
  (boundary : ℚ)

/-- One call of `advance_coverage`, with the checkpoint written and read back after it. -/
def observe (observation : Observation) (checkpoint : Checkpoint) :
    (List ℚ × Option ℚ) × Checkpoint :=
  let coverage := advanceCoverage calendar observation.frame condition observation.now boundary
    checkpoint
  ((coverage.confirmed, coverage.gap), text.loads (text.dumps coverage.checkpoint))

/-- All that a sequence of observations has confirmed, call after call. -/
def observedConfirmations (observations : List Observation) : List ℚ :=
  (trace (observe calendar text condition boundary) {} observations).flatMap fun e => e.result.1

def observedCheckpoint (observations : List Observation) : Checkpoint :=
  finish (observe calendar text condition boundary) {} observations

end Runs

section Sessions

/-- All the bars of a session; the last is cut at the close. -/
def cutSession (opening closing width : ℚ) : List (ℚ × ℚ) :=
  (List.range ⌈(closing - opening) / width⌉₊).map fun (k : ℕ) =>
    (opening + k * width, min (opening + (k + 1) * width) closing)

theorem mem_cutSession {opening closing width : ℚ} {bar : ℚ × ℚ} (hwidth : 0 ≤ width)
    (h : bar ∈ cutSession opening closing width) :
    opening ≤ bar.1 ∧ bar.1 < bar.2 ∧ bar.2 ≤ closing := by
  obtain ⟨k, hk, rfl⟩ := List.mem_map.mp h
  have hlt : (k : ℚ) < (closing - opening) / width := Nat.lt_ceil.mp (List.mem_range.mp hk)
  have hpos : 0 < width := by
    rcases hwidth.lt_or_eq with hpos | hzero
    · exact hpos
    · rw [← hzero, div_zero] at hlt
      exact absurd hlt (Nat.cast_nonneg k).not_gt
  have hbefore : k * width < closing - opening := (lt_div_iff₀ hpos).mp hlt
  have hnonneg : 0 ≤ (k : ℚ) * width := mul_nonneg (Nat.cast_nonneg k) hwidth
  refine ⟨by linarith, lt_min ?_ (by linarith), min_le_right _ _⟩
  have hstep : (k + 1 : ℚ) * width = k * width + width := by ring
  rw [hstep]
  linarith

theorem cutSession_inOrder (opening closing : ℚ) {width : ℚ} (hwidth : 0 ≤ width) :
    InOrder Prod.fst Prod.snd (cutSession opening closing width) where
  lasts bar h := (mem_cutSession hwidth h).2.1
  after := by
    refine List.pairwise_map.mpr (List.pairwise_lt_range.imp fun {i j} hij => ?_)
    have hnext : (i + 1 : ℚ) ≤ j := by exact_mod_cast hij
    have hmul : (i + 1 : ℚ) * width ≤ j * width := mul_le_mul_of_nonneg_right hnext hwidth
    exact le_trans (min_le_left _ _) (by linarith)

theorem Timeframe.width_nonneg {opening closing : ℚ} (timeframe : Timeframe)
    (h : opening < closing) : 0 ≤ timeframe.width opening closing := by
  cases timeframe with
  | daily =>
    have hfloor : 0 ≤ ⌊(closing - opening) / 60⌋ := Int.floor_nonneg.mpr (by
      apply div_nonneg
      · linarith
      · norm_num)
    have hcast : (0 : ℚ) ≤ (⌊(closing - opening) / 60⌋ : ℚ) := by exact_mod_cast hfloor
    exact mul_nonneg hcast (by norm_num)
  | minutes width => exact mul_nonneg (Nat.cast_nonneg width) (by norm_num)

end Sessions

section Days

theorem mem_daysUntil {first today day : ℤ} :
    day ∈ daysUntil first today ↔ first ≤ day ∧ day ≤ today := by
  unfold daysUntil
  rw [List.mem_map]
  constructor
  · rintro ⟨k, hk, rfl⟩
    have hlt := List.mem_range.mp hk
    omega
  · rintro ⟨hfirst, htoday⟩
    refine ⟨(day - first).toNat, List.mem_range.mpr (by omega), by omega⟩

theorem daysUntil_pairwise (first today : ℤ) : (daysUntil first today).Pairwise (· < ·) := by
  refine List.pairwise_map.mpr (List.pairwise_lt_range.imp fun {i j} hij => ?_)
  omega

/-- Later days come after those up to today. -/
theorem daysUntil_extend (first : ℤ) {today later : ℤ} (hle : today ≤ later) :
    ∃ more, daysUntil first later = daysUntil first today ++ more ∧ ∀ day ∈ more, today < day := by
  have hcount : (later - first + 1).toNat =
      (today - first + 1).toNat + ((later - first + 1).toNat - (today - first + 1).toNat) := by omega
  refine ⟨(List.range ((later - first + 1).toNat - (today - first + 1).toNat)).map fun (k : ℕ) =>
    first + ((today - first + 1).toNat + k : ℕ), ?_, ?_⟩
  · unfold daysUntil
    rw [hcount, List.range_add, List.map_append, List.map_map, Nat.add_sub_cancel_left]
    rfl
  · intro day hday
    obtain ⟨k, hk, rfl⟩ := List.mem_map.mp hday
    omega

/-- The days from a later first one are the last of the days. -/
theorem daysUntil_resume {first resumed : ℤ} (hle : first ≤ resumed) (today : ℤ) :
    ∃ done, daysUntil first today = done ++ daysUntil resumed today ∧ ∀ day ∈ done, day < resumed := by
  rcases le_or_gt resumed (today + 1) with hnear | hfar
  · have hcount : (today - first + 1).toNat = (resumed - first).toNat + (today - resumed + 1).toNat := by
      omega
    refine ⟨(List.range (resumed - first).toNat).map fun (k : ℕ) => first + k, ?_, ?_⟩
    · unfold daysUntil
      rw [hcount, List.range_add, List.map_append, List.map_map]
      congr 1
      apply List.map_congr_left
      intro k _
      simp only [Function.comp_apply]
      omega
    · intro day hday
      obtain ⟨k, hk, rfl⟩ := List.mem_map.mp hday
      have hlt := List.mem_range.mp hk
      omega
  · have hnone : daysUntil resumed today = [] := by
      rw [List.eq_nil_iff_forall_not_mem]
      intro day hday
      obtain ⟨hge, hle'⟩ := mem_daysUntil.mp hday
      omega
    refine ⟨daysUntil first today, by rw [hnone, List.append_nil], fun day hday => ?_⟩
    have hle' := (mem_daysUntil.mp hday).2
    omega

end Days

section Slots

variable (calendar : ExchangeCalendar) (timeframe : Timeframe)

/-- All the bars of some days. -/
def daySlots (days : List ℤ) : List (ℚ × ℚ) :=
  days.flatMap fun day =>
    match calendar.session day with
    | none => []
    | some (opening, closing) => cutSession opening closing (timeframe.width opening closing)

/-- The bars that have ended by now, from the day of the boundary on. -/
def slots (now boundary : ℚ) : List (ℚ × ℚ) :=
  (daySlots calendar timeframe
    (daysUntil (calendar.newYorkDate boundary) (calendar.newYorkDate now))).filter fun slot =>
      slot.2 ≤ now

variable {calendar timeframe}

theorem daySlots_append (days more : List ℤ) :
    daySlots calendar timeframe (days ++ more) =
      daySlots calendar timeframe days ++ daySlots calendar timeframe more :=
  List.flatMap_append

/-- A bar lies within the session of its day. -/
theorem mem_daySlots (hcal : calendar.Lawful) {days : List ℤ} {slot : ℚ × ℚ}
    (h : slot ∈ daySlots calendar timeframe days) :
    ∃ day ∈ days, ∃ opening closing, calendar.session day = some (opening, closing) ∧
      opening ≤ slot.1 ∧ slot.1 < slot.2 ∧ slot.2 ≤ closing := by
  obtain ⟨day, hday, hslot⟩ := List.mem_flatMap.mp h
  cases hsession : calendar.session day with
  | none =>
    rw [hsession] at hslot
    cases hslot
  | some bounds =>
    obtain ⟨opening, closing⟩ := bounds
    rw [hsession] at hslot
    have hwidth := timeframe.width_nonneg (hcal.opens hsession)
    exact ⟨day, hday, opening, closing, hsession, mem_cutSession hwidth hslot⟩

theorem date_of_mem_daySlots (hcal : calendar.Lawful) {days : List ℤ} {slot : ℚ × ℚ}
    (h : slot ∈ daySlots calendar timeframe days) :
    calendar.newYorkDate slot.1 ∈ days ∧
      calendar.newYorkDate slot.2 = calendar.newYorkDate slot.1 := by
  obtain ⟨day, hday, opening, closing, hsession, hopen, hlt, hclose⟩ := mem_daySlots hcal h
  have hstart := hcal.within hsession hopen (hlt.le.trans hclose)
  have hfinish := hcal.within hsession (hopen.trans hlt.le) hclose
  exact ⟨hstart ▸ hday, hfinish.trans hstart.symm⟩

theorem daySlots_inOrder (hcal : calendar.Lawful) {days : List ℤ} (hdays : days.Pairwise (· < ·)) :
    InOrder Prod.fst Prod.snd (daySlots calendar timeframe days) := by
  induction days with
  | nil => exact .nil
  | cons day days ih =>
    obtain ⟨hlater, hrest⟩ := List.pairwise_cons.mp hdays
    have hhead : InOrder Prod.fst Prod.snd (daySlots calendar timeframe [day]) := by
      unfold daySlots
      rw [List.flatMap_singleton]
      cases hsession : calendar.session day with
      | none => exact .nil
      | some bounds =>
        exact cutSession_inOrder _ _ (timeframe.width_nonneg (hcal.opens hsession))
    have hsplit : daySlots calendar timeframe (day :: days) =
        daySlots calendar timeframe [day] ++ daySlots calendar timeframe days :=
      daySlots_append [day] days
    rw [hsplit]
    refine hhead.append (ih hrest) fun slot hslot other hother => ?_
    -- a bar of an earlier date ends before one of a later date begins
    obtain ⟨hdate, hsame⟩ := date_of_mem_daySlots hcal hslot
    obtain ⟨hdate', -⟩ := date_of_mem_daySlots hcal hother
    have hlt : calendar.newYorkDate slot.2 < calendar.newYorkDate other.1 := by
      rw [hsame, List.mem_singleton.mp hdate]
      exact hlater _ hdate'
    exact (hcal.clock.reflect_lt hlt).le

theorem slots_inOrder (hcal : calendar.Lawful) (now boundary : ℚ) :
    InOrder Prod.fst Prod.snd (slots calendar timeframe now boundary) :=
  (daySlots_inOrder hcal (daysUntil_pairwise _ _)).sublist List.filter_sublist

/-- As time goes on, bars are added at the end. -/
theorem slots_grow (hcal : calendar.Lawful) {now later : ℚ} (hle : now ≤ later) (boundary : ℚ) :
    slots calendar timeframe now boundary <+: slots calendar timeframe later boundary := by
  obtain ⟨more, hdays, hmore⟩ := daysUntil_extend (calendar.newYorkDate boundary) (hcal.clock hle)
  have hlate : (daySlots calendar timeframe more).filter (fun slot => slot.2 ≤ now) = [] := by
    rw [List.filter_eq_nil_iff]
    intro slot hslot hended
    obtain ⟨hdate, hsame⟩ := date_of_mem_daySlots hcal hslot
    have hclock := hcal.clock (of_decide_eq_true hended)
    have hday := hmore _ hdate
    rw [hsame] at hclock
    omega
  have hnow : slots calendar timeframe now boundary =
      (daySlots calendar timeframe (daysUntil (calendar.newYorkDate boundary)
        (calendar.newYorkDate later))).filter fun slot => slot.2 ≤ now := by
    rw [hdays, daySlots_append, List.filter_append, hlate, List.append_nil]
    rfl
  rw [hnow]
  exact (daySlots_inOrder hcal (daysUntil_pairwise _ _)).filter_finish_grow hle

/-- The bars that begin at a later instant are found from the day of that instant. -/
theorem slots_resume (hcal : calendar.Lawful) (now : ℚ) {boundary resumed : ℚ}
    (hle : boundary ≤ resumed) :
    (slots calendar timeframe now resumed).filter (fun slot => resumed ≤ slot.1) =
      (slots calendar timeframe now boundary).filter fun slot => resumed ≤ slot.1 := by
  obtain ⟨done, hdays, hdone⟩ := daysUntil_resume (hcal.clock hle) (calendar.newYorkDate now)
  have hearly : ((daySlots calendar timeframe done).filter fun slot => slot.2 ≤ now).filter
      (fun slot => resumed ≤ slot.1) = [] := by
    rw [List.filter_eq_nil_iff]
    intro slot hslot hbegins
    obtain ⟨hdate, -⟩ := date_of_mem_daySlots hcal (List.mem_of_mem_filter hslot)
    have hclock := hcal.clock (of_decide_eq_true hbegins)
    have hday := hdone _ hdate
    omega
  unfold slots
  rw [hdays, daySlots_append, List.filter_append, List.filter_append, hearly, List.nil_append]

end Slots

section Bars

/-- A bar of the calendar, with what the frame knows of its closing minute. -/
def priced (frame : List MinuteBar) (slot : ℚ × ℚ) : CompletedBar :=
  ⟨slot.1, slot.2, minutePrice frame (slot.2 - 60)⟩

/-- The bar's close follows the rule. -/
def closes (condition : Condition) (bar : CompletedBar) : Bool := bar.price.any condition.matches

variable {calendar : ExchangeCalendar} {condition : Condition}

theorem completed_eq (hcal : calendar.Lawful) (frame : List MinuteBar) (now boundary : ℚ) :
    completed calendar frame condition now boundary =
      (slots calendar condition.timeframe now boundary).map (priced frame) := by
  unfold completed slots daySlots
  rw [List.filter_flatMap, List.map_flatMap]
  apply List.flatMap_congr
  intro day _
  cases hsession : calendar.session day with
  | none => rfl
  | some bounds =>
    obtain ⟨opening, closing⟩ := bounds
    have hwidth := condition.timeframe.width_nonneg (hcal.opens hsession)
    have hbars : sessionBars opening closing (condition.timeframe.width opening closing) now =
        (cutSession opening closing (condition.timeframe.width opening closing)).filter
          fun slot => slot.2 ≤ now :=
      (cutSession_inOrder opening closing hwidth).takeWhile_eq_filter now
    show (sessionBars _ _ _ now).map _ = _
    rw [hbars]
    rfl

variable (calendar condition)

/-- The bars of an observation that begin at the boundary or later. -/
def barsFrom (boundary : ℚ) (observation : Observation) : List CompletedBar :=
  (completed calendar observation.frame condition observation.now boundary).filter fun bar =>
    boundary ≤ bar.start

/-- Those of them that come before the first bar whose closing minute is missing. -/
def provedBars (boundary : ℚ) (observation : Observation) : List CompletedBar :=
  (barsFrom calendar condition boundary observation).takeWhile fun bar => bar.price.isSome

variable {calendar condition}

theorem barsFrom_eq (hcal : calendar.Lawful) (boundary : ℚ) (observation : Observation) :
    barsFrom calendar condition boundary observation =
      ((slots calendar condition.timeframe observation.now boundary).filter fun slot =>
        boundary ≤ slot.1).map (priced observation.frame) := by
  unfold barsFrom
  rw [completed_eq hcal, List.filter_map]
  rfl

theorem completed_inOrder (condition : Condition) (hcal : calendar.Lawful) (frame : List MinuteBar)
    (now boundary : ℚ) :
    InOrder CompletedBar.start CompletedBar.finish
      (completed calendar frame condition now boundary) := by
  rw [completed_eq hcal]
  exact InOrder.map (slots_inOrder hcal now boundary)

theorem barsFrom_inOrder (hcal : calendar.Lawful) (boundary : ℚ) (observation : Observation) :
    InOrder CompletedBar.start CompletedBar.finish
      (barsFrom calendar condition boundary observation) :=
  (completed_inOrder condition hcal _ _ _).sublist List.filter_sublist

/-- The bars from a later instant on are those that a resumed call goes through. -/
theorem completed_resume (hcal : calendar.Lawful) (observation : Observation) {boundary resumed : ℚ}
    (hle : boundary ≤ resumed) :
    (completed calendar observation.frame condition observation.now resumed).filter
        (fun bar => resumed ≤ bar.start) =
      (barsFrom calendar condition boundary observation).filter fun bar => resumed ≤ bar.start := by
  have hresume : (slots calendar condition.timeframe observation.now resumed).filter
      (fun slot => resumed ≤ slot.1) =
        (slots calendar condition.timeframe observation.now boundary).filter fun slot =>
          resumed ≤ slot.1 := slots_resume hcal observation.now hle
  rw [barsFrom_eq hcal, completed_eq hcal, List.filter_map, List.filter_map, List.filter_filter]
  have hboth : ((slots calendar condition.timeframe observation.now boundary).filter fun slot =>
      (decide (resumed ≤ slot.1)) && decide (boundary ≤ slot.1)) =
        (slots calendar condition.timeframe observation.now boundary).filter fun slot =>
          resumed ≤ slot.1 := by
    apply List.filter_congr
    intro slot _
    by_cases hslot : resumed ≤ slot.1
    · simp [hslot, hle.trans hslot]
    · simp [hslot]
  have hgoal : (slots calendar condition.timeframe observation.now resumed).filter
      ((fun bar : CompletedBar => decide (resumed ≤ bar.start)) ∘ priced observation.frame) =
        (slots calendar condition.timeframe observation.now boundary).filter fun slot =>
          (decide (resumed ≤ slot.1)) && decide (boundary ≤ slot.1) := by
    rw [hboth]
    exact hresume
  rw [hgoal]
  rfl

/-- What has been proved stays proved as the history grows. -/
theorem prefix_barsFrom (hcal : calendar.Lawful) {boundary : ℚ} {earlier later : Observation}
    (hgains : earlier.Gains later) {bars : List CompletedBar}
    (hbegins : bars <+: barsFrom calendar condition boundary earlier)
    (hpriced : ∀ bar ∈ bars, bar.price.isSome) :
    bars <+: barsFrom calendar condition boundary later := by
  rw [barsFrom_eq hcal] at hbegins ⊢
  obtain ⟨kept, hkept, rfl⟩ := List.prefix_map_iff.mp hbegins
  have hsame : kept.map (priced earlier.frame) = kept.map (priced later.frame) := by
    apply List.map_congr_left
    intro slot hslot
    have hsome := hpriced _ (List.mem_map_of_mem hslot)
    obtain ⟨price, hprice⟩ := Option.isSome_iff_exists.mp hsome
    have hprice' : minutePrice earlier.frame (slot.2 - 60) = some price := hprice
    unfold priced
    rw [hprice', hgains.2 _ _ hprice']
  rw [hsame]
  apply List.IsPrefix.map
  exact hkept.trans ((slots_grow hcal hgains.1 boundary).filter _)

/-- What a pass over the bars covers: those from its start on, up to the first without a close. -/
def coveredBars (startAt : ℚ) (bars : List CompletedBar) : List CompletedBar :=
  (bars.filter fun bar => startAt ≤ bar.start).takeWhile fun bar => bar.price.isSome

theorem coverBars_spec (condition : Condition) (startAt : ℚ) (checkpoint : Checkpoint) (run : ℕ)
    (bars : List CompletedBar) :
    (coverBars condition startAt checkpoint run bars).confirmed =
        (streaks (closes condition) condition.count run (coveredBars startAt bars)).map
          CompletedBar.finish ∧
      (coverBars condition startAt checkpoint run bars).checkpoint =
        match through CompletedBar.finish (coveredBars startAt bars) with
        | none => checkpoint
        | some t =>
          { checkpoint with
            through := some t
            matchingCount :=
              min (streakAfter (closes condition) run (coveredBars startAt bars)) condition.count } := by
  induction bars generalizing checkpoint run with
  | nil => exact ⟨rfl, rfl⟩
  | cons bar bars ih =>
    by_cases hearly : bar.start < startAt
    · have hskip : coveredBars startAt (bar :: bars) = coveredBars startAt bars := by
        unfold coveredBars
        simp only [List.filter_cons, decide_eq_true_eq, if_neg (not_le_of_gt hearly)]
      have hcover : coverBars condition startAt checkpoint run (bar :: bars) =
          coverBars condition startAt checkpoint run bars := if_pos hearly
      rw [hskip, hcover]
      exact ih checkpoint run
    · have hlate : startAt ≤ bar.start := le_of_not_gt hearly
      cases hprice : bar.price with
      | none =>
        have hstop : coveredBars startAt (bar :: bars) = [] := by
          unfold coveredBars
          simp only [List.filter_cons, decide_eq_true_eq, if_pos hlate, List.takeWhile_cons, hprice,
            Option.isSome_none, Bool.false_eq_true, if_false]
        have hcover : coverBars condition startAt checkpoint run (bar :: bars) =
            ⟨checkpoint, [], some bar.start⟩ := by
          unfold coverBars
          rw [if_neg hearly, hprice]
        rw [hstop, hcover]
        exact ⟨rfl, rfl⟩
      | some price =>
        have hgo : coveredBars startAt (bar :: bars) = bar :: coveredBars startAt bars := by
          unfold coveredBars
          simp only [List.filter_cons, decide_eq_true_eq, if_pos hlate, List.takeWhile_cons, hprice,
            Option.isSome_some, if_true]
        have hcloses : closes condition bar = condition.matches price := by
          unfold closes
          rw [hprice]
          rfl
        obtain ⟨hconfirmed, hcheckpoint⟩ := ih
          { checkpoint with
            through := some bar.finish
            matchingCount := min (if condition.matches price then run + 1 else 0) condition.count }
          (if condition.matches price then run + 1 else 0)
        rw [hgo, through_cons]
        unfold coverBars
        rw [if_neg hearly, hprice]
        simp only [streaks, hcloses, streakAfter_cons]
        generalize (if condition.matches price then run + 1 else 0) = next at hconfirmed hcheckpoint ⊢
        constructor
        · split
          · rw [List.map_cons, ← hconfirmed]
          · exact hconfirmed
        · have hrest : (coverBars condition startAt
              { checkpoint with
                through := some bar.finish
                matchingCount := min next condition.count } next bars).checkpoint =
              { checkpoint with
                through := some ((through CompletedBar.finish (coveredBars startAt bars)).getD bar.finish)
                matchingCount :=
                  min (streakAfter (closes condition) next (coveredBars startAt bars))
                    condition.count } := by
            rw [hcheckpoint]
            cases hthrough : through CompletedBar.finish (coveredBars startAt bars) with
            | none =>
              rw [through_eq_none_iff.mp hthrough]
              rfl
            | some t => rfl
          split
          · exact hrest
          · exact hrest

end Bars

section Law

variable {T : Type} {calendar : ExchangeCalendar} {text : CheckpointText T} {condition : Condition}
  {boundary : ℚ}

/-- The checkpoint that a call works with. -/
def Checkpoint.of (condition : Condition) (checkpoint : Checkpoint) : Checkpoint :=
  if checkpoint.condition = some condition then checkpoint else { condition := some condition }

theorem Checkpoint.of_condition (checkpoint : Checkpoint) :
    (checkpoint.of condition).condition = some condition := by
  unfold Checkpoint.of
  split
  · assumption
  · rfl

/-- The checkpoint and the confirmations so far tell of the bars and of nothing else. -/
structure Covers (condition : Condition) (bars : List CompletedBar) (checkpoint : Checkpoint)
    (confirmed : List ℚ) : Prop where
  priced : ∀ bar ∈ bars, bar.price.isSome
  kept : (checkpoint.of condition).through = checkpoint.through
  through_eq : (checkpoint.of condition).through = through CompletedBar.finish bars
  matching : (checkpoint.of condition).matchingCount =
    min (streakAfter (closes condition) 0 bars) condition.count
  confirmed_eq : confirmed =
    (streaks (closes condition) condition.count 0 bars).map CompletedBar.finish

theorem covers_nil : Covers condition [] {} [] where
  priced _ h := nomatch h
  kept := rfl
  through_eq := rfl
  matching := (Nat.zero_min _).symm
  confirmed_eq := rfl

/-- One call covers what a checkpoint at the end of the covered bars leaves of the observation. -/
theorem Covers.advance (hcal : calendar.Lawful) {bars : List CompletedBar} {checkpoint : Checkpoint}
    {confirmed : List ℚ} (h : Covers condition bars checkpoint confirmed) {observation : Observation}
    (hbegins : bars <+: barsFrom calendar condition boundary observation) :
    Covers condition (provedBars calendar condition boundary observation)
      (advanceCoverage calendar observation.frame condition observation.now boundary
        checkpoint).checkpoint
      (confirmed ++ (advanceCoverage calendar observation.frame condition observation.now boundary
        checkpoint).confirmed) := by
  obtain ⟨rest, hrest⟩ := hbegins
  have horder : InOrder CompletedBar.start CompletedBar.finish (bars ++ rest) := by
    rw [hrest]
    exact barsFrom_inOrder hcal boundary observation
  set startAt := ((checkpoint.of condition).through).getD boundary with hstartAt
  have hle : boundary ≤ startAt := by
    rw [hstartAt, h.through_eq]
    cases hthrough : through CompletedBar.finish bars with
    | none => exact le_rfl
    | some t =>
      obtain ⟨bar, hlast, rfl⟩ := Option.map_eq_some_iff.mp hthrough
      have hmem := List.mem_of_getLast? hlast
      have hfrom : bar ∈ barsFrom calendar condition boundary observation := by
        rw [← hrest]
        exact List.mem_append_left rest hmem
      have hbegins : boundary ≤ bar.start := of_decide_eq_true (List.mem_filter.mp hfrom).2
      exact hbegins.trans (horder.lasts bar (List.mem_append_left rest hmem)).le
  -- the call goes through just the bars that are not covered yet
  have hleft : (completed calendar observation.frame condition observation.now startAt).filter
      (fun bar => startAt ≤ bar.start) = rest := by
    rw [completed_resume hcal observation hle, ← hrest]
    cases hthrough : through CompletedBar.finish bars with
    | none =>
      have hnil : bars = [] := through_eq_none_iff.mp hthrough
      have hstart : startAt = boundary := by
        rw [hstartAt, h.through_eq, hthrough]
        rfl
      subst hnil
      rw [hstart, List.nil_append]
      rw [List.nil_append] at hrest
      rw [List.filter_eq_self, hrest]
      intro bar hbar
      exact (List.mem_filter.mp hbar).2
    | some t =>
      have hstart : startAt = t := by
        rw [hstartAt, h.through_eq, hthrough]
        rfl
      rw [hstart]
      exact horder.filter_start_through hthrough
  have hcovered : coveredBars startAt
      (completed calendar observation.frame condition observation.now startAt) =
        rest.takeWhile fun bar => bar.price.isSome := by
    unfold coveredBars
    rw [hleft]
  set more := rest.takeWhile fun bar => bar.price.isSome with hmore
  have hproved : provedBars calendar condition boundary observation = bars ++ more := by
    unfold provedBars
    rw [← hrest, List.takeWhile_append_of_pos h.priced]
  rw [hproved]
  obtain ⟨hconfirmed, hcheckpoint⟩ := coverBars_spec condition startAt (checkpoint.of condition)
    (checkpoint.of condition).matchingCount
    (completed calendar observation.frame condition observation.now startAt)
  have hadvance : advanceCoverage calendar observation.frame condition observation.now boundary
      checkpoint = coverBars condition startAt (checkpoint.of condition)
        (checkpoint.of condition).matchingCount
        (completed calendar observation.frame condition observation.now startAt) := rfl
  rw [hcovered] at hconfirmed hcheckpoint
  rw [hadvance, hconfirmed, hcheckpoint]
  have hsaturated : min (checkpoint.of condition).matchingCount condition.count =
      min (streakAfter (closes condition) 0 bars) condition.count := by
    rw [h.matching, min_assoc, min_self]
  obtain ⟨hstreaks, hafter⟩ := streaks_saturate (p := closes condition) hsaturated more
  set after : Checkpoint := match through CompletedBar.finish more with
    | none => checkpoint.of condition
    | some t =>
      { checkpoint.of condition with
        through := some t
        matchingCount :=
          min (streakAfter (closes condition) (checkpoint.of condition).matchingCount more)
            condition.count } with hafterDef
  have hsame : after.of condition = after := by
    have hcondition : after.condition = some condition := by
      rw [hafterDef]
      split
      · exact checkpoint.of_condition
      · exact checkpoint.of_condition
    exact if_pos hcondition
  refine ⟨?_, by rw [hsame], ?_, ?_, ?_⟩
  · intro bar hbar
    rcases List.mem_append.mp hbar with hbar | hbar
    · exact h.priced bar hbar
    · exact List.mem_takeWhile_imp (p := fun bar : CompletedBar => bar.price.isSome) hbar
  · rw [hsame, through_append, hafterDef]
    cases through CompletedBar.finish more with
    | none => exact h.through_eq
    | some t => rfl
  · rw [hsame, streakAfter_append, hafterDef]
    cases hthrough : through CompletedBar.finish more with
    | none =>
      rw [through_eq_none_iff.mp hthrough]
      exact h.matching
    | some t => exact hafter
  · rw [h.confirmed_eq, streaks_append, List.map_append, hstreaks]

/-- What is reached after a sequence of observations. -/
theorem covers_observed (text : CheckpointText T) (condition : Condition) (boundary : ℚ)
    (hcal : calendar.Lawful) (observations : List Observation)
    (hgains : observations.IsChain Observation.Gains) :
    Covers condition (observations.getLast?.elim [] (provedBars calendar condition boundary))
      (observedCheckpoint calendar text condition boundary observations)
      (observedConfirmations calendar text condition boundary observations) := by
  induction observations using List.reverseRecOn with
  | nil => exact covers_nil
  | append_singleton earlier last ih =>
    obtain ⟨hearlier, -, hstep⟩ := List.isChain_append.mp hgains
    have hcovers := ih hearlier
    -- what the earlier observations proved is still there in the last one
    have hreached : earlier.getLast?.elim [] (provedBars calendar condition boundary) <+:
        barsFrom calendar condition boundary last := by
      cases hlast : earlier.getLast? with
      | none => exact List.nil_prefix
      | some before =>
        rw [hlast] at hcovers
        have hgain : before.Gains last := hstep before hlast last rfl
        exact prefix_barsFrom hcal hgain (List.takeWhile_prefix _) hcovers.priced
    have hadvanced := hcovers.advance hcal hreached
    rw [List.getLast?_concat, Option.elim_some]
    unfold observedCheckpoint observedConfirmations at hadvanced ⊢
    rw [finish_append, trace_append, List.flatMap_append]
    simp only [trace, finish, List.flatMap_cons, List.flatMap_nil, List.append_nil, event, observe,
      text.loads_dumps]
    exact hadvanced

/-- A bar that begins at the boundary or later and closes by the rule. -/
def closesFrom (condition : Condition) (boundary : ℚ) (bar : CompletedBar) : Bool :=
  boundary ≤ bar.start ∧ bar.price.any condition.matches

theorem confirmations_eq_windows (frame : List MinuteBar) (now : ℚ) :
    confirmations calendar frame condition now boundary =
      (windows (closesFrom condition boundary) condition.count
        (completed calendar frame condition now boundary)).map CompletedBar.finish := by
  unfold confirmations windows
  rw [List.map_filterMap]
  apply List.filterMap_congr
  intro i _
  unfold closesFrom
  split
  · rfl
  · rfl

/-- The batch runs a counter over the bars that begin at the boundary or later. -/
theorem confirmations_eq_streaks (hcal : calendar.Lawful) (hcount : 1 ≤ condition.count)
    (observation : Observation) :
    confirmations calendar observation.frame condition observation.now boundary =
      (streaks (closes condition) condition.count 0
        (barsFrom calendar condition boundary observation)).map CompletedBar.finish := by
  rw [confirmations_eq_windows, windows_eq_streaks hcount]
  congr 1
  have hsplit := (completed_inOrder condition hcal observation.frame observation.now
    boundary).split_at_start boundary
  have hearly : ∀ bar ∈ (completed calendar observation.frame condition observation.now
      boundary).filter (fun bar => bar.start < boundary), closesFrom condition boundary bar = false := by
    intro bar hbar
    have hlt : bar.start < boundary := of_decide_eq_true (List.mem_filter.mp hbar).2
    unfold closesFrom
    simp [not_le_of_gt hlt]
  have hlate : ∀ bar ∈ barsFrom calendar condition boundary observation,
      closesFrom condition boundary bar = closes condition bar := by
    intro bar hbar
    have hle : boundary ≤ bar.start := of_decide_eq_true (List.mem_filter.mp hbar).2
    unfold closesFrom closes
    simp [hle]
  obtain ⟨hnone, hzero⟩ := streaks_of_none hcount hearly
  rw [hsplit, streaks_append, hnone, hzero, List.nil_append]
  exact (streaks_congr hlate 0).1

/-- Splitting a history into observations neither creates nor loses nor moves a confirmation: the
checkpoint stands at the end of the last bar before the first that lacks its closing minute, whatever the
observations before the last, and the calls confirm, each bar once, what the batch confirms on the last
observation up to there. -/
theorem coverage_is_batch (calendar : ExchangeCalendar) (text : CheckpointText T)
    (condition : Condition) (boundary : ℚ) (observations : List Observation) (last : Observation)
    (hcal : calendar.Lawful) (hcount : 1 ≤ condition.count)
    (hgains : (observations ++ [last]).IsChain Observation.Gains) :
    (observedConfirmations calendar text condition boundary (observations ++ [last])).Nodup ∧
      observedConfirmations calendar text condition boundary (observations ++ [last]) =
        (confirmations calendar last.frame condition last.now boundary).filter (fun finish =>
          (observedCheckpoint calendar text condition boundary
            (observations ++ [last])).through.any fun t => finish ≤ t) ∧
      (observedCheckpoint calendar text condition boundary (observations ++ [last])).through =
        through CompletedBar.finish (provedBars calendar condition boundary last) ∧
      ∀ bar ∈ completed calendar last.frame condition last.now boundary, boundary ≤ bar.start →
        ((observedCheckpoint calendar text condition boundary
          (observations ++ [last])).through.any fun t => bar.finish ≤ t) →
        bar.price ≠ none := by
  have hcovers := covers_observed text condition boundary hcal (observations ++ [last]) hgains
  rw [List.getLast?_concat, Option.elim_some] at hcovers
  obtain ⟨rest, hrest⟩ : provedBars calendar condition boundary last <+:
      barsFrom calendar condition boundary last := List.takeWhile_prefix _
  set bars := provedBars calendar condition boundary last
  have horder : InOrder CompletedBar.start CompletedBar.finish (bars ++ rest) := by
    rw [hrest]
    exact barsFrom_inOrder hcal boundary last
  have hthrough := hcovers.kept.symm.trans hcovers.through_eq
  rw [hthrough, hcovers.confirmed_eq]
  have hsub : (streaks (closes condition) condition.count 0 bars).Sublist bars :=
    streaks_sublist 0 bars
  have hcovered := horder.sublist (List.sublist_append_left bars rest)
  refine ⟨hcovered.nodup_finish.sublist (hsub.map _), ?_, rfl, ?_⟩
  · rw [confirmations_eq_streaks hcal hcount, ← hrest, streaks_append, List.map_append,
      List.filter_append]
    have hdone : ((streaks (closes condition) condition.count 0 bars).map CompletedBar.finish).filter
        (fun finish => (through CompletedBar.finish bars).any fun t => finish ≤ t) =
          (streaks (closes condition) condition.count 0 bars).map CompletedBar.finish := by
      rw [List.filter_eq_self]
      intro finish hfinish
      obtain ⟨bar, hbar, rfl⟩ := List.mem_map.mp hfinish
      have hmem := hsub.subset hbar
      cases ht : through CompletedBar.finish bars with
      | none => exact nomatch (through_eq_none_iff.mp ht) ▸ hmem
      | some t => exact decide_eq_true (hcovered.mem_lt_through ht hmem).1
    have hrestNone : ((streaks (closes condition) condition.count
        (streakAfter (closes condition) 0 bars) rest).map CompletedBar.finish).filter
        (fun finish => (through CompletedBar.finish bars).any fun t => finish ≤ t) = [] := by
      rw [List.filter_eq_nil_iff]
      intro finish hfinish hle
      obtain ⟨bar, hbar, rfl⟩ := List.mem_map.mp hfinish
      have hmem := (streaks_sublist _ rest).subset hbar
      cases ht : through CompletedBar.finish bars with
      | none =>
        rw [ht] at hle
        cases hle
      | some t =>
        rw [ht] at hle
        exact absurd (of_decide_eq_true hle) (not_le_of_gt (horder.lt_finish_of_mem ht hmem))
    rw [hdone, hrestNone, List.append_nil]
  · intro bar hbar hbegins hended
    have hfrom : bar ∈ bars ++ rest := by
      rw [hrest]
      exact List.mem_filter.mpr ⟨hbar, decide_eq_true hbegins⟩
    rcases List.mem_append.mp hfrom with hmem | hmem
    · exact Option.isSome_iff_ne_none.mp (hcovers.priced bar hmem)
    · cases ht : through CompletedBar.finish bars with
      | none =>
        rw [ht] at hended
        cases hended
      | some t =>
        rw [ht] at hended
        exact absurd (of_decide_eq_true hended) (not_le_of_gt (horder.lt_finish_of_mem ht hmem))

end Law

namespace DaylightWeek

/-- Weekday sessions from 09:30 to 16:00 in New York daylight time; day 0 was a Thursday. -/
def calendar : ExchangeCalendar where
  newYorkDate t := ⌊(t - 14400) / 86400⌋
  session day :=
    if (day + 3) % 7 < 5 then some (day * 86400 + 48600, day * 86400 + 72000) else none
  nextSession day := if (day + 3) % 7 < 4 then day + 1 else day + (7 - (day + 3) % 7)
  newYorkTime day hour minute := day * 86400 + 14400 + hour * 3600 + minute * 60

theorem session_eq {day : ℤ} {opening closing : ℚ}
    (h : calendar.session day = some (opening, closing)) :
    opening = day * 86400 + 48600 ∧ closing = day * 86400 + 72000 := by
  unfold calendar at h
  dsimp only at h
  split at h
  · obtain ⟨hopen, hclose⟩ := Prod.mk.inj (Option.some.inj h)
    exact ⟨hopen.symm, hclose.symm⟩
  · cases h

theorem calendar_lawful : calendar.Lawful where
  clock s t h := by
    apply Int.floor_le_floor
    linarith
  opens h := by
    obtain ⟨rfl, rfl⟩ := session_eq h
    linarith
  within h hle hge := by
    obtain ⟨rfl, rfl⟩ := session_eq h
    refine Int.floor_eq_iff.mpr ⟨?_, ?_⟩
    · rw [le_div_iff₀ (by norm_num)]
      linarith
    · rw [div_lt_iff₀ (by norm_num)]
      linarith

/-- The text of a checkpoint is the checkpoint itself. -/
def text : CheckpointText Checkpoint := ⟨id, id, fun _ => rfl⟩

/-- Two closes above 100 in a row, on five-minute bars. -/
def condition : Condition := ⟨.minutes 5, .closeAbove, 100, 2⟩

/-- Monday at 09:30. -/
def opening : ℚ := 20619 * 86400 + 48600

def earlier : Observation := ⟨[⟨opening + 240, 101⟩], opening + 300⟩

def last : Observation := ⟨[⟨opening + 240, 101⟩, ⟨opening + 540, 102⟩], opening + 600⟩

/-- The second observation adds a minute to the first. -/
theorem earlier_gains_last : ([earlier] ++ [last]).IsChain Observation.Gains := by
  have hgains : earlier.Gains last := by
    refine ⟨by decide +kernel, fun t price hprice => ?_⟩
    have hfirst : minutePrice earlier.frame (opening + 240) = some 101 := by decide +kernel
    have hlast : minutePrice last.frame (opening + 240) = some 101 := by decide +kernel
    by_cases ht : t = opening + 240
    · rw [ht] at hprice ⊢
      rw [hlast, ← hfirst, hprice]
    · have hnone : minutePrice earlier.frame t = none := by
        unfold minutePrice earlier
        have hne : ¬opening + 240 = t := fun h => ht h.symm
        simp [hne]
      rw [hnone] at hprice
      cases hprice
  exact List.IsChain.cons_cons hgains (List.IsChain.singleton last)

end DaylightWeek

open DaylightWeek in
/-- The second close confirms at 09:40, in the second call. -/
theorem coverage_is_batch_second_close :
    (observedConfirmations calendar text condition opening ([earlier] ++ [last])).Nodup ∧
      observedConfirmations calendar text condition opening ([earlier] ++ [last]) =
        (confirmations calendar last.frame condition last.now opening).filter (fun finish =>
          (observedCheckpoint calendar text condition opening
            ([earlier] ++ [last])).through.any fun t => finish ≤ t) ∧
      (observedCheckpoint calendar text condition opening ([earlier] ++ [last])).through =
        through CompletedBar.finish (provedBars calendar condition opening last) ∧
      ∀ bar ∈ completed calendar last.frame condition last.now opening, opening ≤ bar.start →
        ((observedCheckpoint calendar text condition opening
          ([earlier] ++ [last])).through.any fun t => bar.finish ≤ t) →
        bar.price ≠ none :=
  coverage_is_batch calendar text condition opening [earlier] last calendar_lawful (by decide)
    earlier_gains_last

end Bhiksha.Weekly
