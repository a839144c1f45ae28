import ParamSql.Calendar.Date
import Mathlib.Algebra.BigOperators.Group.List.Basic
import Mathlib.Algebra.GroupWithZero.Nat
import Mathlib.Tactic.Common

/-!
# Numbers of days

The days of the calendar are counted from the first day of the year zero (`Date.dayNumber`), by
whole years, whole months and the day of the month. The count agrees with the calendar: the next day
has the next number and the day before has the one before (`dayNumber_next`, `dayNumber_previous`),
across the ends of months and years. A day that is earlier in the order of year, month and day has a
lower number (`dayNumber_lt_iff`), and so no two days have the same one.

Only two facts about the calendar are needed for all this: a month ends where the next one begins
(`daysBeforeMonth_succ`), and a year ends where the next one begins (`daysBeforeYear_succ`).
-/

namespace ParamSql

namespace Calendar

/-- How many days there are from the beginning of the year zero to that of a year: of each year 365,
and one more for each leap year. Before the year zero the number is negative. -/
def daysBeforeYear (year : Int) : Int :=
  365 * year + ((year + 3) / 4 - (year + 99) / 100 + (year + 399) / 400)

theorem monthLength_le (year : Int) (month : Nat) : monthLength year month ≤ 31 := by
  grind [monthLength]

/-- How many days of a year there are before a month. -/
def daysBeforeMonth (year : Int) (month : Nat) : Nat :=
  ((List.range month).map (monthLength year)).sum

/-- A month ends where the next one begins. -/
theorem daysBeforeMonth_succ (year : Int) (month : Nat) :
    daysBeforeMonth year (month + 1) = daysBeforeMonth year month + monthLength year month :=
  List.sum_range_succ _ _

theorem daysBeforeMonth_le {year : Int} {month other : Nat} (h : month ≤ other) :
    daysBeforeMonth year month ≤ daysBeforeMonth year other := by
  induction h with
  | refl => exact Nat.le_refl _
  | step _ ih =>
    rw [daysBeforeMonth_succ]
    exact Nat.le_add_right_of_le ih

/-- The days before a thirteenth month are those of the whole year. -/
theorem daysBeforeMonth_thirteen (year : Int) :
    daysBeforeMonth year 13 = if isLeapYear year then 366 else 365 := by
  rw [daysBeforeMonth]
  unfold monthLength
  cases isLeapYear year <;> rfl

/-- A year ends where the next one begins. -/
theorem daysBeforeYear_succ (year : Int) :
    daysBeforeYear (year + 1) = daysBeforeYear year + daysBeforeMonth year 13 := by
  have hleap : isLeapYear year = true ↔ year % 4 = 0 ∧ (year % 100 ≠ 0 ∨ year % 400 = 0) := by
    simp [isLeapYear]
  rw [daysBeforeMonth_thirteen, daysBeforeYear, daysBeforeYear]
  split
  · rename_i h
    rw [hleap] at h
    omega
  · rename_i h
    rw [hleap] at h
    omega

theorem daysBeforeYear_le {year other : Int} (h : year ≤ other) :
    daysBeforeYear year ≤ daysBeforeYear other := by
  unfold daysBeforeYear
  omega

end Calendar

namespace Date

open Calendar (daysBeforeYear daysBeforeMonth)

theorem month_le (d : Date) : d.month ≤ 12 :=
  (Calendar.month_bounds d.one_le_day d.day_le).2

theorem day_le_31 (d : Date) : d.day ≤ 31 :=
  Nat.le_trans d.day_le (Calendar.monthLength_le d.year d.month)

theorem eq_iff {d e : Date} :
    d = e ↔ d.year = e.year ∧ d.month = e.month ∧ d.day = e.day := by
  obtain ⟨y, m, n, _, _⟩ := d
  obtain ⟨y', m', n', _, _⟩ := e
  exact iff_of_eq (mk.injEq ..)

/-- The number of days from the first day of the year zero. -/
def dayNumber (d : Date) : Int :=
  daysBeforeYear d.year + daysBeforeMonth d.year d.month + (d.day - 1)

theorem dayNumber_next (d : Date) : d.next.dayNumber = d.dayNumber + 1 := by
  have hlast := d.day_le
  have hmonth := d.month_le
  unfold next
  split
  · simp only [dayNumber]
    omega
  · have hend := Calendar.daysBeforeMonth_succ d.year d.month
    split
    · simp only [dayNumber]
      omega
    · -- the last day of December
      have hyear := Calendar.daysBeforeYear_succ d.year
      have hmonth : d.month + 1 = 13 := by omega
      have hstart : daysBeforeMonth (d.year + 1) 1 = 0 := rfl
      rw [hmonth] at hend
      simp only [dayNumber]
      omega

theorem dayNumber_previous (d : Date) : d.previous.dayNumber = d.dayNumber - 1 := by
  have hfirst := d.one_le_day
  obtain ⟨hmonth, -⟩ := Calendar.month_bounds d.one_le_day d.day_le
  unfold previous
  split
  · simp only [dayNumber]
    omega
  · split
    · have hend := Calendar.daysBeforeMonth_succ d.year (d.month - 1)
      rw [Nat.sub_add_cancel hmonth] at hend
      simp only [dayNumber]
      omega
    · -- the first day of January
      have hyear := Calendar.daysBeforeYear_succ (d.year - 1)
      have hend : daysBeforeMonth (d.year - 1) 13 =
          daysBeforeMonth (d.year - 1) 12 + Calendar.monthLength (d.year - 1) 12 :=
        Calendar.daysBeforeMonth_succ (d.year - 1) 12
      have hstart : daysBeforeMonth d.year 1 = 0 := rfl
      have hmonth : d.month = 1 := by omega
      rw [Int.sub_add_cancel] at hyear
      simp only [dayNumber, hmonth]
      omega

/-- The order of year, month and day. -/
def IsBefore (d e : Date) : Prop :=
  d.year < e.year ∨
    d.year = e.year ∧ (d.month < e.month ∨ d.month = e.month ∧ d.day < e.day)

/-- Of two different days one is before the other. -/
theorem isBefore_or (d e : Date) : d.IsBefore e ∨ d = e ∨ e.IsBefore d := by
  rw [eq_iff, IsBefore, IsBefore]
  omega

theorem dayNumber_lt_of_isBefore {d e : Date} (h : d.IsBefore e) : d.dayNumber < e.dayNumber := by
  have hlast := d.day_le
  have hfirst := e.one_le_day
  have hmonth := d.month_le
  -- the month of the earlier day ends before the later one
  have hend := Calendar.daysBeforeMonth_succ d.year d.month
  unfold dayNumber
  rcases h with hyear | ⟨hyear, hmonths | ⟨hmonths, hday⟩⟩
  · have hwhole : daysBeforeMonth d.year (d.month + 1) ≤ daysBeforeMonth d.year 13 :=
      Calendar.daysBeforeMonth_le (Nat.succ_le_succ hmonth)
    have hnext := Calendar.daysBeforeYear_succ d.year
    have hle := Calendar.daysBeforeYear_le hyear
    omega
  · have hle : daysBeforeMonth d.year (d.month + 1) ≤ daysBeforeMonth d.year e.month :=
      Calendar.daysBeforeMonth_le hmonths
    rw [← hyear]
    omega
  · rw [hyear, hmonths]
    omega

/-- **Days come in the order of their numbers.** -/
theorem dayNumber_lt_iff {d e : Date} : d.dayNumber < e.dayNumber ↔ d.IsBefore e := by
  refine ⟨fun h ↦ ?_, dayNumber_lt_of_isBefore⟩
  rcases isBefore_or d e with hbefore | rfl | hbehind
  · exact hbefore
  · omega
  · have hgt := dayNumber_lt_of_isBefore hbehind
    omega

theorem dayNumber_inj {d e : Date} : d.dayNumber = e.dayNumber ↔ d = e := by
  refine ⟨fun h ↦ ?_, fun h ↦ h ▸ rfl⟩
  rcases isBefore_or d e with hbefore | heq | hbehind
  · have hlt := dayNumber_lt_of_isBefore hbefore
    omega
  · exact heq
  · have hlt := dayNumber_lt_of_isBefore hbehind
    omega

/-- The days up to the first of January 1970. -/
example : dayNumber ⟨1970, 1, 1, by decide, by decide⟩ = 719528 := by
  decide

end Date

end ParamSql
