import ParamSql.Calendar.DateTime
import ParamSql.Text.Padded

/-!
# Dates and times as MySQL reads them

Dates and times are written through a library for them, which is given a format string: a date as
`%Y-%m-%d`, and a time as `%Y-%m-%d %H:%M:%S%.f`. The library has the say on how the fields that the
directives stand for are written, and on what a time with an offset is in UTC
(`Calendar.Library`).

The library that is used unless another one is given writes a year in four digits, and with its sign
if that does not do, and as many decimals of a second as are needed, three at a time. A leap second
is written as the second after the one that it prolongs.
-/

namespace ParamSql

open Text (padded)

namespace Calendar

/-! ### Fields -/

/-- A year in at least four digits, with a sign if it does not fit in four. -/
def yearText (year : Int) : String :=
  if 0 ≤ year ∧ year ≤ 9999 then padded 4 year.toNat
  else (if year < 0 then "-" else "+") ++ padded 4 year.natAbs

/-- The decimals of a second: none, three, six or nine, the fewest that are exact. -/
def fractionText (nanos : Nat) : String :=
  if nanos = 0 then ""
  else if nanos % 1000000 = 0 then "." ++ padded 3 (nanos / 1000000)
  else if nanos % 1000 = 0 then "." ++ padded 6 (nanos / 1000)
  else "." ++ padded 9 nanos

/-! ### Libraries -/

/-- A library for dates and times. -/
structure Library where
  /-- How a year is written. -/
  year : Int → String
  /-- How the other whole numbers are written. -/
  twoDigits : Nat → String
  /-- How nanoseconds are written behind a second, with the point that separates them. -/
  fraction : Nat → String
  /-- The time in UTC. -/
  toUtc : OffsetDateTime → DateTime

/-- The library that is used unless another one is given. -/
def Library.standard : Library where
  year := yearText
  twoDigits := padded 2
  fraction := fractionText
  toUtc := OffsetDateTime.toUtc

/-! ### Format strings -/

/-- What a format string consists of. -/
inductive Directive
  /-- `%Y`. -/
  | year
  /-- `%m`. -/
  | month
  /-- `%d`. -/
  | day
  /-- `%H`. -/
  | hour
  /-- `%M`. -/
  | minute
  /-- `%S`. -/
  | second
  /-- `%.f`. -/
  | fraction
  /-- A character that stands for itself. -/
  | char (c : Char)

/-- What a library writes for a directive. -/
def Directive.text (library : Library) (t : DateTime) : Directive → String
  | year => library.year t.date.year
  | month => library.twoDigits t.date.month
  | day => library.twoDigits t.date.day
  | hour => library.twoDigits (t.second / 3600)
  | minute => library.twoDigits (t.second / 60 % 60)
  | second => library.twoDigits (t.second % 60 + t.nanos / 1000000000)
  | fraction => library.fraction (t.nanos % 1000000000)
  | char c => String.singleton c

/-- A time as a library writes it in a format. -/
def Library.format (library : Library) (directives : List Directive) (t : DateTime) : String :=
  String.join (directives.map (·.text library t))

/-- The format of a DATE literal, `%Y-%m-%d`. -/
def dateFormat : List Directive :=
  [.year, .char '-', .month, .char '-', .day]

/-- The format of a DATETIME literal, `%Y-%m-%d %H:%M:%S%.f`. -/
def dateTimeFormat : List Directive :=
  [.year, .char '-', .month, .char '-', .day, .char ' ',
    .hour, .char ':', .minute, .char ':', .second, .fraction]

end Calendar

open Calendar (Library)

/-- A date in a DATE literal. -/
def Date.text (library : Library) (d : Date) : String :=
  library.format Calendar.dateFormat ⟨d, 0, 0, by decide, by decide⟩

/-- A time in a DATETIME literal. -/
def DateTime.text (library : Library) (t : DateTime) : String :=
  library.format Calendar.dateTimeFormat t

end ParamSql
