import ParamSql.Calendar.Date

/-!
# Times of day and offsets from UTC

A `DateTime` is a day and a time on it, without a zone; an `OffsetDateTime` adds how far its clock
is ahead of UTC. A leap second is held as a second whose nanoseconds run on past `10 ^ 9`, so taking
the offset off moves whole seconds and leaves the nanoseconds alone.
-/

namespace ParamSql

/-- A day and a time of day. -/
structure DateTime where
  /-- The day. -/
  date : Date
  /-- Whole seconds since midnight. -/
  second : Nat
  /-- Nanoseconds after that second, from `10 ^ 9` on inside a leap second. -/
  nanos : Nat
  /-- A day ends at midnight. -/
  second_lt : second < 86400
  /-- A leap second is one second long. -/
  nanos_lt : nanos < 2000000000
deriving DecidableEq

namespace DateTime

/-- The time shown by a clock on a day, if there is such a time. -/
def ofClock? (date : Date) (hour minute second nanos : Nat) : Option DateTime :=
  if h : hour < 24 ∧ minute < 60 ∧ second < 60 ∧ nanos < 2000000000 then
    some ⟨date, hour * 3600 + minute * 60 + second, nanos, by omega, h.2.2.2⟩
  else none

end DateTime

/-- A distance from UTC of less than a day, in seconds, positive to the east. -/
structure UtcOffset where
  /-- How many seconds the local clock is ahead. -/
  seconds : Int
  /-- Less than a day behind. -/
  lower : -86400 < seconds
  /-- Less than a day ahead. -/
  upper : seconds < 86400
deriving DecidableEq

namespace UtcOffset

/-- The offset of the given number of seconds, if it is less than a day. -/
def ofSeconds? (seconds : Int) : Option UtcOffset :=
  if h : -86400 < seconds ∧ seconds < 86400 then some ⟨seconds, h.1, h.2⟩ else none

/-- UTC itself. -/
def utc : UtcOffset :=
  ⟨0, by decide, by decide⟩

end UtcOffset

/-- A local time together with its distance from UTC. -/
structure OffsetDateTime where
  /-- What the local clock and calendar show. -/
  wall : DateTime
  /-- How far they are ahead of UTC. -/
  offset : UtcOffset
deriving DecidableEq

namespace OffsetDateTime

/-- The same instant on the clock and calendar of UTC, at most a day away from the local ones. -/
def toUtc (t : OffsetDateTime) : DateTime :=
  let second : Int := t.wall.second - t.offset.seconds
  have lower := t.offset.lower
  have upper := t.offset.upper
  have second_lt := t.wall.second_lt
  if before : second < 0 then
    ⟨t.wall.date.previous, (second + 86400).toNat, t.wall.nanos, by omega, t.wall.nanos_lt⟩
  else if after : 86400 ≤ second then
    ⟨t.wall.date.next, (second - 86400).toNat, t.wall.nanos, by omega, t.wall.nanos_lt⟩
  else
    ⟨t.wall.date, second.toNat, t.wall.nanos, by omega, t.wall.nanos_lt⟩

end OffsetDateTime

end ParamSql
