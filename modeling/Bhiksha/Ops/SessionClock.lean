import Mathlib.Algebra.Order.Interval.Finset.SuccPred
import Bhiksha.Execution.ProfileExit
import Bhiksha.Library.OpenTime

/-! The regular-session clock: the ladder's time stops and the lab's observation gaps run on it, each
with a loop of its own over the dates. -/

namespace Bhiksha

open Library MeasureTheory

/-- What is asked of the exchange calendar, day by day; instants are seconds. -/
structure ExchangeCalendar where
  isSession : ℤ → Bool
  sessionOpen : ℤ → ℚ
  sessionClose : ℤ → ℚ

/-- `regular_session_bounds`. -/
def regularSessionBounds (calendar : ExchangeCalendar) (day : ℤ) : Option (ℚ × ℚ) :=
  if calendar.isSession day then some (calendar.sessionOpen day, calendar.sessionClose day) else none

/-- The ladder's platform on this calendar. -/
def ExchangeCalendar.platform (calendar : ExchangeCalendar) (newYorkDate : ℚ → ℤ)
    (pow : ℚ → ℚ → ℚ) : Platform where
  pow := pow
  newYorkDate := newYorkDate
  session := regularSessionBounds calendar

/-- The sessions lie each within their own date. -/
def ExchangeCalendar.Sound (calendar : ExchangeCalendar) (newYorkDate : ℚ → ℤ) : Prop :=
  ∀ day, calendar.isSession day = true → ∀ t, calendar.sessionOpen day ≤ t →
    t ≤ calendar.sessionClose day → newYorkDate t = day

/-- The loop of `_observable_seconds`. -/
def observableFrom (calendar : ExchangeCalendar) (start stop : ℚ) (final current : ℤ) (total : ℚ) :
    ℚ :=
  if current ≤ final then
    observableFrom calendar start stop final (current + 1)
      (match regularSessionBounds calendar current with
      | some (opened, closed) => total + max 0 (min stop closed - max start opened)
      | none => total)
  else total
termination_by (final + 1 - current).toNat
decreasing_by omega

/-- `_observable_seconds`. -/
def observableSeconds (newYorkDate : ℚ → ℤ) (calendar : ExchangeCalendar) (start stop : ℚ) : ℚ :=
  if stop ≤ start then 0
  else observableFrom calendar start stop (newYorkDate stop) (newYorkDate start) 0

section Clock

variable {newYorkDate : ℚ → ℤ} {calendar : ExchangeCalendar} {start stop : ℚ}

theorem ExchangeCalendar.Sound.withinDates (h : calendar.Sound newYorkDate) :
    WithinDates newYorkDate (regularSessionBounds calendar) := by
  intro day opened closed hbounds t hopened hclosed
  unfold regularSessionBounds at hbounds
  split at hbounds
  next hsession =>
    obtain ⟨rfl, rfl⟩ := Prod.mk.inj (Option.some.inj hbounds)
    exact h day hsession t hopened hclosed
  next => cases hbounds

/-- What the loop has added up when it ends. -/
theorem observableFrom_eq (final current : ℤ) (total : ℚ) :
    observableFrom calendar start stop final current total =
      total + ∑ day ∈ Finset.Icc current final,
        openTimeOn (regularSessionBounds calendar) start stop day := by
  fun_induction observableFrom calendar start stop final current total with
  | case1 current total hle ih =>
    have hfirst : current ∉ Finset.Icc (current + 1) final := by
      rw [Finset.mem_Icc]
      omega
    rw [ih, ← Finset.insert_Icc_add_one_left_eq_Icc hle, Finset.sum_insert hfirst, ← add_assoc]
    congr 1
    unfold openTimeOn
    cases regularSessionBounds calendar current with
    | none => exact (add_zero total).symm
    | some bounds => rfl
  | case2 current total hlt =>
    rw [Finset.Icc_eq_empty hlt, Finset.sum_empty, add_zero]

theorem openTime_self (hdate : Monotone newYorkDate) (hsound : calendar.Sound newYorkDate) (a : ℚ) :
    openTime newYorkDate (regularSessionBounds calendar) a a = 0 := by
  have hadd := openTime_add hdate hsound.withinDates (le_refl a) (le_refl a)
  linarith

theorem observableSeconds_eq_openTime (hdate : Monotone newYorkDate)
    (hsound : calendar.Sound newYorkDate) (h : start ≤ stop) :
    observableSeconds newYorkDate calendar start stop =
      openTime newYorkDate (regularSessionBounds calendar) start stop := by
  unfold observableSeconds
  split
  next hle =>
    rw [le_antisymm hle h]
    exact (openTime_self hdate hsound start).symm
  next =>
    rw [observableFrom_eq, zero_add]
    rfl

/-- The dates that the ladder goes through are those between the two ends. -/
theorem sum_range_dates (first last : ℤ) (f : ℤ → ℚ) :
    ((List.range (last - first + 1).toNat).map fun n : ℕ => f (first + n)).sum =
      ∑ day ∈ Finset.Icc first last, f day := by
  rw [Int.Icc_eq_finset_map, Finset.sum_map, show last + 1 - first = last - first + 1 by ring]
  rfl

theorem elapsed_eq_openTime (pow : ℚ → ℚ → ℚ) (hdate : Monotone newYorkDate)
    (hsound : calendar.Sound newYorkDate) (h : start ≤ stop) :
    elapsedRegularSessionSeconds (calendar.platform newYorkDate pow) (some start) stop =
      some (openTime newYorkDate (regularSessionBounds calendar) start stop) := by
  unfold elapsedRegularSessionSeconds
  rw [Option.map_some]
  congr 1
  split
  next hle =>
    rw [le_antisymm hle h]
    exact (openTime_self hdate hsound start).symm
  next =>
    have hdays (first last : ℤ) : (do
        let n ← List.range (last - first + 1).toNat
        pure (n : ℤ)) = (List.range (last - first + 1).toNat).map fun n : ℕ => (n : ℤ) :=
      List.flatMap_pure_eq_map _ _
    dsimp only
    rw [hdays, List.map_map]
    exact sum_range_dates (newYorkDate start) (newYorkDate stop)
      (openTimeOn (regularSessionBounds calendar) start stop)

/-- The regular-session clock measures the open hours between two instants, on either implementation:
it is additive, does not run backwards, and runs no faster than the wall clock. -/
theorem session_clock_is_additive (calendar : ExchangeCalendar) (newYorkDate : ℚ → ℤ)
    (pow : ℚ → ℚ → ℚ) (hdate : Monotone newYorkDate) (hsound : calendar.Sound newYorkDate)
    (a b c : ℚ) (hab : a ≤ b) (hbc : b ≤ c) :
    let seconds := observableSeconds newYorkDate calendar
    elapsedRegularSessionSeconds (calendar.platform newYorkDate pow) (some a) b = some (seconds a b) ∧
      volume (Set.Icc (a : ℝ) b ∩ openHours (regularSessionBounds calendar)) =
        ENNReal.ofReal (seconds a b : ℚ) ∧
      seconds a c = seconds a b + seconds b c ∧ seconds a b ≤ seconds a c ∧
      0 ≤ seconds a b ∧ seconds a b ≤ b - a := by
  have hwithin := hsound.withinDates
  dsimp only
  rw [observableSeconds_eq_openTime hdate hsound hab, observableSeconds_eq_openTime hdate hsound hbc,
    observableSeconds_eq_openTime hdate hsound (hab.trans hbc)]
  refine ⟨elapsed_eq_openTime pow hdate hsound hab, volume_openHours hdate hwithin a b, ?_, ?_, ?_, ?_⟩
  · exact (openTime_add hdate hwithin hab hbc).symm
  · exact openTime_mono hdate hwithin hab hbc
  · exact openTime_nonneg
  · exact openTime_le hdate hwithin hab

end Clock

namespace DailySessions

/-- Days of 86400 seconds, open from 9:30 to 16:00 but for two days of seven. -/
def calendar : ExchangeCalendar where
  isSession := fun day => day % 7 < 5
  sessionOpen := fun day => day * 86400 + 34200
  sessionClose := fun day => day * 86400 + 57600

def date (t : ℚ) : ℤ := ⌊t / 86400⌋

theorem date_mono : Monotone date := by
  intro s t hle
  exact Int.floor_mono (by linarith)

theorem sound : calendar.Sound date := by
  intro day _ t hopened hclosed
  simp only [calendar] at hopened hclosed
  unfold date
  rw [Int.floor_eq_iff]
  constructor
  · linarith
  · linarith

end DailySessions

open DailySessions in
/-- Over a weekend, from a Friday noon to the Monday's open and on to its noon. -/
theorem session_clock_is_additive_weekend :
    let seconds := observableSeconds date calendar
    elapsedRegularSessionSeconds (calendar.platform date fun _ _ => 0) (some (4 * 86400 + 43200))
        (7 * 86400 + 34200) = some (seconds (4 * 86400 + 43200) (7 * 86400 + 34200)) ∧
      volume (Set.Icc ((4 * 86400 + 43200 : ℚ) : ℝ) (7 * 86400 + 34200 : ℚ) ∩
          openHours (regularSessionBounds calendar)) =
        ENNReal.ofReal (seconds (4 * 86400 + 43200) (7 * 86400 + 34200) : ℚ) ∧
      seconds (4 * 86400 + 43200) (7 * 86400 + 43200) =
        seconds (4 * 86400 + 43200) (7 * 86400 + 34200) +
          seconds (7 * 86400 + 34200) (7 * 86400 + 43200) ∧
      seconds (4 * 86400 + 43200) (7 * 86400 + 34200) ≤
        seconds (4 * 86400 + 43200) (7 * 86400 + 43200) ∧
      0 ≤ seconds (4 * 86400 + 43200) (7 * 86400 + 34200) ∧
      seconds (4 * 86400 + 43200) (7 * 86400 + 34200) ≤
        (7 * 86400 + 34200) - (4 * 86400 + 43200) :=
  session_clock_is_additive calendar date (fun _ _ => 0) date_mono sound (4 * 86400 + 43200)
    (7 * 86400 + 34200) (7 * 86400 + 43200) (by norm_num) (by norm_num)

end Bhiksha
