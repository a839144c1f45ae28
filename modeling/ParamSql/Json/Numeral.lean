import ParamSql.Double.Decimal
import ParamSql.Json.Basic
import ParamSql.Text.Split

/-!
# JSON numbers

A number is a minus sign or none, an integer without needless zeros, and after that possibly a
fraction and a power of ten. Without the latter two it is an integer if sixty-four bits hold it.
Everything else is the nearest double; what lies beyond the doubles is not a number.
-/

namespace ParamSql.Json

/-- The parts of a written number. -/
structure Numeral where
  /-- Whether a minus sign stands in front. -/
  negative : Bool
  /-- The digits before the point. -/
  whole : List Char
  /-- The digits after the point, if there is one. -/
  fraction? : Option (List Char)
  /-- The power of ten, if one is written. -/
  power? : Option Int

namespace Numeral

/-- Whether a character can occur in a number. -/
def isPart (c : Char) : Bool :=
  c.isDigit || c == '-' || c == '+' || c == '.' || c == 'e' || c == 'E'

/-- The number that decimal digits denote. -/
def digitsValue (digits : List Char) : Nat :=
  Nat.ofDigitChars 10 digits 0

/-- Whether a list holds digits only, and at least one. -/
def isDigits (cs : List Char) : Bool :=
  !cs.isEmpty && cs.all Char.isDigit

/-- Reads a power of ten after its letter: a sign or none, and digits. -/
def powerOf? : List Char → Option Int
  | '-' :: digits => if isDigits digits then some (-(digitsValue digits : Int)) else none
  | '+' :: digits => if isDigits digits then some (digitsValue digits) else none
  | digits => if isDigits digits then some (digitsValue digits) else none

/-- Reads a list of characters that must be a number without its sign. -/
def ofUnsigned? (negative : Bool) (unsigned : List Char) : Option Numeral := do
  let (mantissa, powerText?) := Text.splitAt? (fun c ↦ c == 'e' || c == 'E') unsigned
  let (whole, fraction?) := Text.splitAt? (· == '.') mantissa
  guard (isDigits whole && (whole.length == 1 || whole.head? != some '0'))
  if let some fraction := fraction? then guard (isDigits fraction)
  let power? ← match powerText? with
    | none => some none
    | some text => (powerOf? text).map some
  return { negative, whole, fraction?, power? }

/-- Reads a list of characters that must be a number as a whole. -/
def ofList? : List Char → Option Numeral
  | '-' :: unsigned => ofUnsigned? true unsigned
  | unsigned => ofUnsigned? false unsigned

/-- The document of a number, unless it is too large for every double. A negative zero is a double,
as no integer is one. -/
def toJson? (n : Numeral) : Option Json :=
  let fraction := n.fraction?.getD []
  let digits := digitsValue (n.whole ++ fraction)
  let isInteger := n.fraction?.isNone && n.power?.isNone
  if isInteger && !n.negative && digits < UInt64.size then some (.integer digits)
  else if isInteger && n.negative && 0 < digits && Int64.minValue.toInt ≤ -(digits : Int) then
    some (.integer (-(digits : Int)))
  else
    let size := Double.ofDecimal ⟨digits, n.power?.getD 0 - fraction.length⟩
    if size.isFinite then some (.double (if n.negative then size.neg else size)) else none

end Numeral

end ParamSql.Json
