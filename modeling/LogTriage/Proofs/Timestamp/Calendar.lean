import LogTriage.Timestamp
import Mathlib.Logic.Function.Iterate
import Mathlib.Order.Nat
import Mathlib.Tactic.IntervalCases
import Mathlib.Tactic.SplitIfs

/-! # The calendar

A day of the Gregorian calendar has one that follows it, and the number of a day counts the steps: one real
day is `n` days after another exactly when their numbers differ by `n`. How past leap years are summed up
enters through one equation only, the step from a year to the next.
-/

namespace LogTriage.Timestamp

set_option autoImplicit false

structure Date where
  year : Nat
  month : Nat
  day : Nat
  deriving DecidableEq

namespace Date

/-- The years that end a century are leap years only every fourth time. -/
def lengths (year : Nat) : List Nat :=
  [31, if 4 ∣ year ∧ (100 ∣ year → 400 ∣ year) then 29 else 28, 31, 30, 31, 30, 31, 31, 30, 31, 30, 31]

/-- A day of the Gregorian calendar, carried back to year 1. -/
structure IsReal (d : Date) : Prop where
  year : 1 ≤ d.year
  month_pos : 1 ≤ d.month
  month_le : d.month ≤ 12
  day_pos : 1 ≤ d.day
  day_le : d.day ≤ (lengths d.year).getD (d.month - 1) 0

def next (d : Date) : Date :=
  if d.day < monthLength d.year d.month then ⟨d.year, d.month, d.day + 1⟩
  else if d.month < 12 then ⟨d.year, d.month + 1, 1⟩
  else ⟨d.year + 1, 1, 1⟩

/-- `e` is `n` days after `d`; where `n` is negative, before. -/
def Apart (d e : Date) : Int → Prop
  | .ofNat n => next^[n] d = e
  | .negSucc n => next^[n + 1] e = d

def number (d : Date) : Int := dayNumber d.year d.month d.day

end Date

/-! ## Sums of lengths -/

theorem isLeap_iff (year : Nat) : isLeap year = true ↔ 4 ∣ year ∧ (100 ∣ year → 400 ∣ year) := by
  simp only [isLeap, Bool.and_eq_true, Bool.or_eq_true, beq_iff_eq, bne_iff_ne, Nat.dvd_iff_mod_eq_zero]
  omega

theorem getD_lengths {year month : Nat} (hMonth : 1 ≤ month) (hLe : month ≤ 12) :
    (Date.lengths year).getD (month - 1) 0 = monthLength year month := by
  interval_cases month <;> simp [Date.lengths, monthLength, isLeap_iff]

theorem monthLength_pos (year month : Nat) : 1 ≤ monthLength year month := by
  unfold monthLength
  split <;> first | omega | (split <;> omega)

theorem daysBeforeMonth_succ {year month : Nat} (hMonth : 1 ≤ month) :
    daysBeforeMonth year (month + 1) = daysBeforeMonth year month + monthLength year month := by
  obtain ⟨m, rfl⟩ : ∃ m, month = m + 1 := ⟨month - 1, by omega⟩
  simp only [daysBeforeMonth, Nat.add_sub_cancel, List.range_succ, List.foldl_append, List.foldl_cons,
    List.foldl_nil]

theorem daysBeforeMonth_thirteen (year : Nat) :
    daysBeforeMonth year 13 = 365 + if isLeap year then 1 else 0 := by
  simp only [daysBeforeMonth, Nat.reduceSub, List.range_succ, List.range_zero, List.nil_append,
    List.cons_append, List.foldl_cons, List.foldl_nil, monthLength]
  split <;> rfl

theorem daysBeforeYear_succ {year : Nat} (hYear : 1 ≤ year) :
    daysBeforeYear (year + 1) = daysBeforeYear year + daysBeforeMonth year 13 := by
  obtain ⟨y, rfl⟩ : ∃ y, year = y + 1 := ⟨year - 1, by omega⟩
  have hFour := @Nat.succ_div y 4
  have hHundred := @Nat.succ_div y 100
  have hFourHundred := @Nat.succ_div y 400
  have hFew : y / 100 ≤ y / 4 := Nat.div_le_div_left (by decide) (by decide)
  have hCentury : 100 ∣ y + 1 → 4 ∣ y + 1 := Nat.dvd_trans (by decide)
  have hFourth : 400 ∣ y + 1 → 100 ∣ y + 1 := Nat.dvd_trans (by decide)
  rw [daysBeforeMonth_thirteen]
  simp only [daysBeforeYear, Nat.add_sub_cancel, hFour, hHundred, hFourHundred, isLeap_iff]
  split_ifs <;> omega

namespace Date

theorem isReal_iff {d : Date} : d.IsReal ↔ 1 ≤ d.year ∧ 1 ≤ d.month ∧ d.month ≤ 12 ∧ 1 ≤ d.day ∧
    d.day ≤ monthLength d.year d.month := by
  constructor
  · rintro ⟨hYear, hMonth, hMonthLe, hDay, hDayLe⟩
    rw [getD_lengths hMonth hMonthLe] at hDayLe
    exact ⟨hYear, hMonth, hMonthLe, hDay, hDayLe⟩
  · rintro ⟨hYear, hMonth, hMonthLe, hDay, hDayLe⟩
    rw [← getD_lengths hMonth hMonthLe] at hDayLe
    exact ⟨hYear, hMonth, hMonthLe, hDay, hDayLe⟩

/-! ## One step -/

theorem next_isReal {d : Date} (hReal : d.IsReal) : d.next.IsReal := by
  obtain ⟨hYear, hMonth, hMonthLe, hDay, hDayLe⟩ := isReal_iff.mp hReal
  rw [isReal_iff, next]
  split
  · rename_i hInMonth
    exact ⟨hYear, hMonth, hMonthLe, Nat.le_add_left 1 _, hInMonth⟩
  · split
    · rename_i hInYear
      exact ⟨hYear, Nat.le_add_left 1 _, hInYear, Nat.le_refl 1, monthLength_pos _ _⟩
    · exact ⟨Nat.le_add_left 1 _, Nat.le_refl 1, Nat.le_add_left 1 11, Nat.le_refl 1, monthLength_pos _ _⟩

theorem number_next {d : Date} (hReal : d.IsReal) : d.next.number = d.number + 1 := by
  obtain ⟨hYear, hMonth, hMonthLe, hDay, hDayLe⟩ := isReal_iff.mp hReal
  have hMonthStep := @daysBeforeMonth_succ d.year d.month hMonth
  unfold next
  split
  · simp only [number, dayNumber]
    omega
  · rename_i hMonthEnd
    have hLast : d.day = monthLength d.year d.month := by omega
    split
    · simp only [number, dayNumber]
      omega
    · have hDecember : d.month = 12 := by omega
      have hYearStep := daysBeforeYear_succ hYear
      have hJanuary : daysBeforeMonth (d.year + 1) 1 = 0 := rfl
      rw [hDecember] at hMonthStep hLast
      rw [hMonthStep] at hYearStep
      simp only [number, dayNumber, hDecember]
      omega

/-! ## Many steps -/

theorem iterate_next {d : Date} (hReal : d.IsReal) (n : Nat) :
    (next^[n] d).IsReal ∧ (next^[n] d).number = d.number + n := by
  induction n with
  | zero => exact ⟨hReal, by simp⟩
  | succ n ih =>
    rw [Function.iterate_succ_apply']
    refine ⟨next_isReal ih.1, ?_⟩
    rw [number_next ih.1, ih.2]
    omega

/-- The day from which all others are reached. -/
def first : Date := ⟨1, 1, 1⟩

def Reached (d : Date) : Prop := ∃ n, next^[n] first = d

theorem Reached.next {d : Date} (h : d.Reached) : d.next.Reached := by
  obtain ⟨n, rfl⟩ := h
  exact ⟨n + 1, Function.iterate_succ_apply' Date.next n first⟩

theorem reached_day {year month : Nat} (hFirst : Reached ⟨year, month, 1⟩) {day : Nat} (hDay : 1 ≤ day)
    (hLe : day ≤ monthLength year month) : Reached ⟨year, month, day⟩ := by
  induction day, hDay using Nat.le_induction with
  | base => exact hFirst
  | succ day hDay ih =>
    have hNext : Date.next ⟨year, month, day⟩ = ⟨year, month, day + 1⟩ := if_pos hLe
    rw [← hNext]
    exact (ih (by omega)).next

theorem reached_month {year : Nat} (hFirst : Reached ⟨year, 1, 1⟩) {month : Nat} (hMonth : 1 ≤ month)
    (hLe : month ≤ 12) : Reached ⟨year, month, 1⟩ := by
  induction month, hMonth using Nat.le_induction with
  | base => exact hFirst
  | succ month hMonth ih =>
    have hLast := reached_day (ih (by omega)) (monthLength_pos year month) (Nat.le_refl _)
    have hNext : Date.next ⟨year, month, monthLength year month⟩ = ⟨year, month + 1, 1⟩ :=
      (if_neg (Nat.lt_irrefl (monthLength year month))).trans (if_pos hLe)
    rw [← hNext]
    exact hLast.next

theorem reached_year {year : Nat} (hYear : 1 ≤ year) : Reached ⟨year, 1, 1⟩ := by
  induction year, hYear using Nat.le_induction with
  | base => exact ⟨0, rfl⟩
  | succ year hYear ih =>
    have hDecember := reached_month ih (by decide : 1 ≤ 12) (by decide)
    have hLast := reached_day hDecember (by decide : 1 ≤ 31) (Nat.le_refl 31)
    have hNext : Date.next ⟨year, 12, 31⟩ = ⟨year + 1, 1, 1⟩ := rfl
    rw [← hNext]
    exact hLast.next

theorem reached {d : Date} (hReal : d.IsReal) : d.Reached := by
  obtain ⟨hYear, hMonth, hMonthLe, hDay, hDayLe⟩ := isReal_iff.mp hReal
  exact reached_day (reached_month (reached_year hYear) hMonth hMonthLe) hDay hDayLe

theorem first_isReal : first.IsReal := isReal_iff.mpr (by decide)

theorem eq_of_number_eq {d e : Date} (hd : d.IsReal) (he : e.IsReal) (h : d.number = e.number) :
    d = e := by
  obtain ⟨m, rfl⟩ := reached hd
  obtain ⟨n, rfl⟩ := reached he
  rw [(iterate_next first_isReal m).2, (iterate_next first_isReal n).2] at h
  obtain rfl : m = n := by omega
  rfl

theorem iterate_next_eq_iff {d e : Date} (hd : d.IsReal) (he : e.IsReal) (n : Nat) :
    next^[n] d = e ↔ e.number - d.number = n := by
  obtain ⟨hReal, hNumber⟩ := iterate_next hd n
  constructor
  · rintro rfl
    omega
  · intro h
    apply eq_of_number_eq hReal he
    omega

theorem apart_iff {d e : Date} (hd : d.IsReal) (he : e.IsReal) (n : Int) :
    d.Apart e n ↔ e.number - d.number = n := by
  cases n with
  | ofNat n => exact iterate_next_eq_iff hd he n
  | negSucc n =>
    rw [Apart, iterate_next_eq_iff he hd]
    omega

end Date

end LogTriage.Timestamp
