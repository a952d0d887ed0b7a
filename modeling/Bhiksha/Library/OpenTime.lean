import Mathlib.MeasureTheory.Measure.Lebesgue.Basic
import Mathlib.Order.Interval.Finset.Basic
import Mathlib.Data.Int.Interval
import Mathlib.Tactic.Linarith

/-! A clock that runs only while its calendar is open, with at most one open period to a date. -/

namespace Library

open MeasureTheory

section Overlap

variable {K : Type} [Field K] [LinearOrder K] [IsStrictOrderedRing K] {a b c opened closed : K}

/-- The length of `[a, b]` within `[opened, closed]`. -/
def overlap (a b opened closed : K) : K := max 0 (min b closed - max a opened)

omit [IsStrictOrderedRing K] in
theorem overlap_nonneg : 0 ≤ overlap a b opened closed := le_max_left _ _

theorem overlap_eq_zero (h : min b closed ≤ max a opened) : overlap a b opened closed = 0 :=
  max_eq_left (sub_nonpos.mpr h)

/-- How far into a period an instant has come. -/
def progress (opened closed x : K) : K := max opened (min x closed)

theorem overlap_eq_progress_sub (hopen : opened ≤ closed) (hab : a ≤ b) :
    overlap a b opened closed = progress opened closed b - progress opened closed a := by
  unfold progress
  rcases le_total closed a with hafter | hbefore
  · have hb : closed ≤ b := hafter.trans hab
    rw [min_eq_right hafter, min_eq_right hb, sub_self]
    apply overlap_eq_zero
    rw [min_eq_right hb]
    exact hafter.trans (le_max_left a opened)
  rcases le_total b opened with hearly | hlate
  · have ha : a ≤ opened := hab.trans hearly
    rw [min_eq_left hbefore, min_eq_left (hearly.trans hopen), max_eq_left hearly, max_eq_left ha,
      sub_self]
    apply overlap_eq_zero
    rw [max_eq_right ha]
    exact (min_le_left b closed).trans hearly
  · have hends : max a opened ≤ min b closed := le_min (max_le hab hlate) (max_le hbefore hopen)
    rw [min_eq_left hbefore, max_eq_right (le_min hlate hopen), max_comm opened a]
    exact max_eq_right (sub_nonneg.mpr hends)

theorem overlap_add (hab : a ≤ b) (hbc : b ≤ c) :
    overlap a b opened closed + overlap b c opened closed = overlap a c opened closed := by
  rcases le_total opened closed with hopen | hempty
  · rw [overlap_eq_progress_sub hopen hab, overlap_eq_progress_sub hopen hbc,
      overlap_eq_progress_sub hopen (hab.trans hbc)]
    ring
  · have hnone (x y : K) : overlap x y opened closed = 0 :=
      overlap_eq_zero ((min_le_right y closed).trans (hempty.trans (le_max_right x opened)))
    rw [hnone, hnone, hnone, add_zero]

end Overlap

theorem cast_overlap (a b opened closed : ℚ) :
    ((overlap a b opened closed : ℚ) : ℝ) = overlap (a : ℝ) b opened closed := by
  simp [overlap, Rat.cast_max, Rat.cast_min]

theorem volume_inter_Icc (a b opened closed : ℝ) :
    volume (Set.Icc a b ∩ Set.Icc opened closed) = ENNReal.ofReal (overlap a b opened closed) := by
  rw [Set.Icc_inter_Icc, Real.volume_Icc, overlap]
  exact (ENNReal.ofReal_max 0 _).trans (by simp) |>.symm

section OpenTime

variable {date : ℚ → ℤ} {period : ℤ → Option (ℚ × ℚ)} {a b c : ℚ} {day : ℤ}

/-- The period of a date lies within it. -/
def WithinDates (date : ℚ → ℤ) (period : ℤ → Option (ℚ × ℚ)) : Prop :=
  ∀ day opened closed, period day = some (opened, closed) →
    ∀ t, opened ≤ t → t ≤ closed → date t = day

/-- The open time of one date within `[a, b]`. -/
def openTimeOn (period : ℤ → Option (ℚ × ℚ)) (a b : ℚ) (day : ℤ) : ℚ :=
  match period day with
  | some (opened, closed) => overlap a b opened closed
  | none => 0

/-- The open time within `[a, b]`, date by date. -/
noncomputable def openTime (date : ℚ → ℤ) (period : ℤ → Option (ℚ × ℚ)) (a b : ℚ) : ℚ :=
  ∑ day ∈ Finset.Icc (date a) (date b), openTimeOn period a b day

/-- The instants at which the calendar is open. -/
def openHours (period : ℤ → Option (ℚ × ℚ)) : Set ℝ :=
  ⋃ day, {t | ∃ opened closed, period day = some (opened, closed) ∧ (opened : ℝ) ≤ t ∧ t ≤ closed}

theorem openTimeOn_nonneg : 0 ≤ openTimeOn period a b day := by
  unfold openTimeOn
  split
  · exact overlap_nonneg
  · exact le_rfl

theorem openTimeOn_add (hab : a ≤ b) (hbc : b ≤ c) :
    openTimeOn period a b day + openTimeOn period b c day = openTimeOn period a c day := by
  unfold openTimeOn
  split
  · exact overlap_add hab hbc
  · exact add_zero 0

/-- A date outside those of the ends has no open time between them. -/
theorem openTimeOn_eq_zero (hdate : Monotone date) (hwithin : WithinDates date period)
    (h : day < date a ∨ date b < day) : openTimeOn period a b day = 0 := by
  unfold openTimeOn
  split
  next opened closed hperiod =>
    apply overlap_eq_zero
    rcases le_total opened closed with hopen | hempty
    · rcases h with hbefore | hafter
      · have hdayclosed : date closed = day := hwithin day opened closed hperiod closed hopen le_rfl
        have hlt : closed < a := hdate.reflect_lt (hdayclosed ▸ hbefore)
        exact (min_le_right b closed).trans (hlt.le.trans (le_max_left a opened))
      · have hdayopened : date opened = day := hwithin day opened closed hperiod opened le_rfl hopen
        have hlt : b < opened := hdate.reflect_lt (hdayopened ▸ hafter)
        exact (min_le_left b closed).trans (hlt.le.trans (le_max_right a opened))
    · exact (min_le_right b closed).trans (hempty.trans (le_max_right a opened))
  · rfl

/-- The open time is the sum over any range of dates that covers those of the ends. -/
theorem openTime_eq_sum (hdate : Monotone date) (hwithin : WithinDates date period) {s : Finset ℤ}
    (hs : Finset.Icc (date a) (date b) ⊆ s) :
    openTime date period a b = ∑ day ∈ s, openTimeOn period a b day := by
  apply Finset.sum_subset hs
  intro day _ hout
  apply openTimeOn_eq_zero hdate hwithin
  rw [Finset.mem_Icc, not_and_or, not_le, not_le] at hout
  exact hout

theorem openTime_nonneg : 0 ≤ openTime date period a b :=
  Finset.sum_nonneg fun _ _ => openTimeOn_nonneg

theorem openTime_add (hdate : Monotone date) (hwithin : WithinDates date period) (hab : a ≤ b)
    (hbc : b ≤ c) :
    openTime date period a b + openTime date period b c = openTime date period a c := by
  have hleft : Finset.Icc (date a) (date b) ⊆ Finset.Icc (date a) (date c) :=
    Finset.Icc_subset_Icc le_rfl (hdate hbc)
  have hright : Finset.Icc (date b) (date c) ⊆ Finset.Icc (date a) (date c) :=
    Finset.Icc_subset_Icc (hdate hab) le_rfl
  rw [openTime_eq_sum hdate hwithin hleft, openTime_eq_sum hdate hwithin hright,
    ← Finset.sum_add_distrib]
  exact Finset.sum_congr rfl fun day _ => openTimeOn_add hab hbc

theorem openTime_mono (hdate : Monotone date) (hwithin : WithinDates date period) (hab : a ≤ b)
    (hbc : b ≤ c) : openTime date period a b ≤ openTime date period a c := by
  rw [← openTime_add hdate hwithin hab hbc]
  exact le_add_of_nonneg_right openTime_nonneg

/-- The open time is the length of the open hours within `[a, b]`. -/
theorem volume_openHours (hdate : Monotone date) (hwithin : WithinDates date period) (a b : ℚ) :
    volume (Set.Icc (a : ℝ) b ∩ openHours period) =
      ENNReal.ofReal ((openTime date period a b : ℚ) : ℝ) := by
  let hours (day : ℤ) : Set ℝ :=
    {t | ∃ opened closed, period day = some (opened, closed) ∧ (opened : ℝ) ≤ t ∧ t ≤ closed}
  have hnone {day : ℤ} (h : period day = none) : hours day = ∅ := by
    ext t
    simp [hours, h]
  have hsome {day : ℤ} {opened closed : ℚ} (h : period day = some (opened, closed)) :
      hours day = Set.Icc (opened : ℝ) closed := by
    ext t
    simp [hours, h]
  have hmeasurable (day : ℤ) : MeasurableSet (hours day) := by
    cases h : period day with
    | none =>
      rw [hnone h]
      exact MeasurableSet.empty
    | some ends =>
      rw [hsome h]
      exact measurableSet_Icc
  have hlength (day : ℤ) : volume (Set.Icc (a : ℝ) b ∩ hours day) =
      ENNReal.ofReal ((openTimeOn period a b day : ℚ) : ℝ) := by
    unfold openTimeOn
    cases h : period day with
    | none =>
      rw [hnone h, Set.inter_empty, measure_empty]
      simp
    | some ends =>
      rw [hsome h, volume_inter_Icc]
      dsimp only
      rw [cast_overlap]
  -- an instant of two periods is, between their later start and earlier end, one of two dates
  have hdisjoint : Pairwise (Function.onFun Disjoint hours) := by
    intro day other hne
    refine Set.disjoint_left.mpr ?_
    rintro t ⟨opened, closed, hday, hopened, hclosed⟩ ⟨opened', closed', hother, hopened', hclosed'⟩
    have hstart : max opened opened' ≤ min closed closed' := by
      have hreal : ((max opened opened' : ℚ) : ℝ) ≤ ((min closed closed' : ℚ) : ℝ) := by
        rw [Rat.cast_max, Rat.cast_min]
        exact (max_le hopened hopened').trans (le_min hclosed hclosed')
      exact_mod_cast hreal
    have hone := hwithin day opened closed hday _ (le_max_left opened opened')
      (hstart.trans (min_le_left closed closed'))
    have htwo := hwithin other opened' closed' hother _ (le_max_right opened opened')
      (hstart.trans (min_le_right closed closed'))
    exact hne (hone.symm.trans htwo)
  have hunion : Set.Icc (a : ℝ) b ∩ openHours period = ⋃ day, Set.Icc (a : ℝ) b ∩ hours day :=
    Set.inter_iUnion _ _
  calc
    volume (Set.Icc (a : ℝ) b ∩ openHours period)
      = tsum fun day => volume (Set.Icc (a : ℝ) b ∩ hours day) := by
        rw [hunion]
        apply measure_iUnion
        · intro day other hne
          exact (hdisjoint hne).mono Set.inter_subset_right Set.inter_subset_right
        · intro day
          exact measurableSet_Icc.inter (hmeasurable day)
    _ = ∑ day ∈ Finset.Icc (date a) (date b), volume (Set.Icc (a : ℝ) b ∩ hours day) := by
        apply tsum_eq_sum
        intro day hout
        rw [Finset.mem_Icc, not_and_or, not_le, not_le] at hout
        rw [hlength, openTimeOn_eq_zero hdate hwithin hout]
        simp
    _ = ∑ day ∈ Finset.Icc (date a) (date b),
          ENNReal.ofReal ((openTimeOn period a b day : ℚ) : ℝ) :=
        Finset.sum_congr rfl fun day _ => hlength day
    _ = ENNReal.ofReal ((openTime date period a b : ℚ) : ℝ) := by
        rw [openTime, Rat.cast_sum]
        symm
        apply ENNReal.ofReal_sum_of_nonneg
        intro day _
        exact_mod_cast openTimeOn_nonneg

theorem openTime_le (hdate : Monotone date) (hwithin : WithinDates date period) (hab : a ≤ b) :
    openTime date period a b ≤ b - a := by
  have hvolume : volume (Set.Icc (a : ℝ) b ∩ openHours period) ≤ volume (Set.Icc (a : ℝ) b) :=
    measure_mono Set.inter_subset_left
  have hlength : 0 ≤ (b : ℝ) - a := by
    have hcast : (a : ℝ) ≤ b := by exact_mod_cast hab
    linarith
  rw [volume_openHours hdate hwithin, Real.volume_Icc, ENNReal.ofReal_le_ofReal_iff hlength] at hvolume
  exact_mod_cast hvolume

end OpenTime

end Library
