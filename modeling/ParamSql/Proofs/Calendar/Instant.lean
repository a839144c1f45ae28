import ParamSql.Calendar.DateTime
import ParamSql.Proofs.Calendar.DayNumber

/-!
# Instants

A time with an offset denotes an instant: the nanoseconds that have passed since the year zero began
in UTC. Taking the offset off leaves the instant alone (`instant_toUtc`): the clock is set back or
forth by less than a day, and if that leads past midnight the day before or after has the number
before or after.

On one clock, the order of instants is that of days, seconds and nanoseconds, unless there is a leap
second, which ends after the next second has begun (`instant_lt_iff`, `instant_inj`).
-/

namespace ParamSql

namespace DateTime

/-- The nanoseconds from the beginning of the year zero to a time, both of them in one zone. -/
def instant (t : DateTime) : Int :=
  (t.date.dayNumber * 86400 + t.second) * 1000000000 + t.nanos

variable {t u : DateTime} (ht : t.nanos < 1000000000) (hu : u.nanos < 1000000000)
include ht hu

/-- Outside leap seconds, the earlier time is the one with the earlier day, second or nanosecond. -/
theorem instant_lt_iff :
    t.instant < u.instant ↔
      t.date.IsBefore u.date ∨
        t.date = u.date ∧ (t.second < u.second ∨ t.second = u.second ∧ t.nanos < u.nanos) := by
  have hsecond := t.second_lt
  have hsecond' := u.second_lt
  rw [← Date.dayNumber_lt_iff, ← Date.dayNumber_inj, instant, instant]
  omega

/-- Outside leap seconds, no two times are the same instant. -/
theorem instant_inj : t.instant = u.instant ↔ t = u := by
  refine ⟨fun h ↦ ?_, fun h ↦ h ▸ rfl⟩
  have hsecond := t.second_lt
  have hsecond' := u.second_lt
  obtain ⟨hday, hrest⟩ : t.date.dayNumber = u.date.dayNumber ∧
      t.second = u.second ∧ t.nanos = u.nanos := by
    rw [instant, instant] at h
    omega
  obtain ⟨d, s, n, _, _⟩ := t
  obtain ⟨d', s', n', _, _⟩ := u
  obtain rfl := Date.dayNumber_inj.1 hday
  obtain ⟨rfl, rfl⟩ := hrest
  rfl

end DateTime

namespace OffsetDateTime

/-- The nanoseconds from the beginning of the year zero in UTC to a time. -/
def instant (t : OffsetDateTime) : Int :=
  t.wall.instant - t.offset.seconds * 1000000000

theorem nanos_toUtc (t : OffsetDateTime) : t.toUtc.nanos = t.wall.nanos := by
  simp only [toUtc]
  split
  · rfl
  · split <;> rfl

/-- **Taking the offset off leaves the instant alone**, also where it leads to another day. -/
theorem instant_toUtc (t : OffsetDateTime) : t.toUtc.instant = t.instant := by
  have hlower := t.offset.lower
  have hupper := t.offset.upper
  have hsecond := t.wall.second_lt
  rw [instant, DateTime.instant, DateTime.instant, nanos_toUtc]
  simp only [toUtc]
  split
  · simp only [Date.dayNumber_previous]
    omega
  · split
    · simp only [Date.dayNumber_next]
      omega
    · simp only
      omega

end OffsetDateTime

end ParamSql
