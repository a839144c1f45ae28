/-!
# Days of the calendar

The Gregorian calendar, extended to all years before and after. A `Date` carries the proof that its
day exists, and the day before and after it are dates again.
-/

namespace ParamSql

namespace Calendar

/-- Every fourth year is a leap year; of the years that end a century, only every fourth. -/
def isLeapYear (year : Int) : Bool :=
  year % 4 == 0 && (year % 100 != 0 || year % 400 == 0)

/-- The number of days of a month, counted from one; no other month has any. -/
def monthLength (year : Int) (month : Nat) : Nat :=
  if month < 1 ∨ 12 < month then 0
  else if month = 2 then if isLeapYear year then 29 else 28
  else if month = 4 ∨ month = 6 ∨ month = 9 ∨ month = 11 then 30
  else 31

theorem monthLength_pos {year : Int} {month : Nat} (first : 1 ≤ month) (last : month ≤ 12) :
    1 ≤ monthLength year month := by
  grind [monthLength]

theorem month_bounds {year : Int} {month day : Nat} (first : 1 ≤ day)
    (last : day ≤ monthLength year month) : 1 ≤ month ∧ month ≤ 12 := by
  grind [monthLength]

end Calendar

/-- A day of the calendar. -/
structure Date where
  /-- The year; the year before year one is zero. -/
  year : Int
  /-- The month, from one to twelve. -/
  month : Nat
  /-- The day of the month, from one. -/
  day : Nat
  /-- No month has a day zero. -/
  one_le_day : 1 ≤ day
  /-- The month is long enough. -/
  day_le : day ≤ Calendar.monthLength year month
deriving DecidableEq

namespace Date

/-- The date with the given parts, if there is such a day. -/
def ofParts? (year : Int) (month day : Nat) : Option Date :=
  if h : 1 ≤ day ∧ day ≤ Calendar.monthLength year month then
    some ⟨year, month, day, h.1, h.2⟩
  else none

/-- The day after. -/
def next (d : Date) : Date :=
  if more_days : d.day < Calendar.monthLength d.year d.month then
    ⟨d.year, d.month, d.day + 1, by omega, more_days⟩
  else if more_months : d.month < 12 then
    ⟨d.year, d.month + 1, 1, Nat.le_refl 1,
      Calendar.monthLength_pos (by omega) (by omega)⟩
  else
    ⟨d.year + 1, 1, 1, Nat.le_refl 1, Calendar.monthLength_pos (Nat.le_refl 1) (by omega)⟩

/-- The day before. -/
def previous (d : Date) : Date :=
  if later_day : 1 < d.day then
    ⟨d.year, d.month, d.day - 1, by omega, Nat.le_trans (Nat.sub_le _ _) d.day_le⟩
  else if later_month : 1 < d.month then
    ⟨d.year, d.month - 1, Calendar.monthLength d.year (d.month - 1),
      Calendar.monthLength_pos (by omega)
        (by have := (Calendar.month_bounds d.one_le_day d.day_le).2; omega),
      Nat.le_refl _⟩
  else
    ⟨d.year - 1, 12, Calendar.monthLength (d.year - 1) 12,
      Calendar.monthLength_pos (by omega) (by omega), Nat.le_refl _⟩

end Date

end ParamSql
