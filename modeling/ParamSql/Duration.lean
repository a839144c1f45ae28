import ParamSql.Double.Rounding
import ParamSql.Text.Padded

/-!
# Durations

A length of time in whole nanoseconds, its text in messages and its value in milliseconds as a
double.
-/

namespace ParamSql

/-- A length of time. -/
structure Duration where
  /-- Its nanoseconds. -/
  nanos : Nat
deriving DecidableEq, Inhabited

namespace Duration

/-- The duration of some whole seconds and nanoseconds. -/
def ofParts (seconds nanos : Nat) : Duration :=
  ⟨seconds * 1000000000 + nanos⟩

/-- The duration of some milliseconds. -/
def ofMilliseconds (ms : Nat) : Duration :=
  ⟨ms * 1000000⟩

instance : LT Duration :=
  ⟨fun a b ↦ a.nanos < b.nanos⟩

instance (a b : Duration) : Decidable (a < b) :=
  inferInstanceAs (Decidable (a.nanos < b.nanos))

/-! ### Text -/

/-- The number `n / 10 ^ places`, without zeros at the end of its decimals. -/
def decimalText (places n : Nat) : String :=
  let unit := Nat.pow 10 places
  let whole := Nat.repr (n / unit)
  let rest := n % unit
  if rest = 0 then whole
  else
    let decimals := (Text.padded places rest).toList
    whole ++ "." ++ String.ofList (decimals.reverse.dropWhile (· == '0')).reverse

/-- The duration in the greatest unit of which there is at least one, with all its decimals. -/
def text (d : Duration) : String :=
  if 1000000000 ≤ d.nanos then decimalText 9 d.nanos ++ "s"
  else if 1000000 ≤ d.nanos then decimalText 6 d.nanos ++ "ms"
  else if 1000 ≤ d.nanos then decimalText 3 d.nanos ++ "\u00b5s"
  else decimalText 0 d.nanos ++ "ns"

/-! ### As a number -/

/-- Seconds as a double: the whole seconds and the fraction are rounded apart, then their sum. -/
def seconds (d : Duration) : Double :=
  (Double.ofNat (d.nanos / 1000000000)).add
    ((Double.ofNat (d.nanos % 1000000000)).div (Double.ofNat 1000000000))

/-- Milliseconds as a double: a thousand times `seconds`, rounded again. -/
def milliseconds (d : Duration) : Double :=
  d.seconds.mul (Double.ofNat 1000)

end Duration

end ParamSql
