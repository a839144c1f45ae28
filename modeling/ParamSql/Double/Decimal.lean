import ParamSql.Double.Rounding

/-!
# Decimal numerals of doubles

`Double.ofDecimal` reads a decimal numeral as the nearest double. `Double.shortest` goes back: among
the numerals that read back as a finite double it takes the fewest digits, and of those the nearest
to the double's exact value. The search is literal — the value's two neighbours on one decimal grid
after the other, from coarse to fine, are read back and compared — so that a numeral it finds reads
back because that was tested.

Two numerals of equal length can lie equally far from the value. Which one is taken is a decision of
the text format, so it is a parameter.
-/

namespace ParamSql

/-- The number `digits * 10 ^ exponent`. -/
structure Decimal where
  /-- All digits, read as one natural number. -/
  digits : Nat
  /-- The power of ten of the last digit. -/
  exponent : Int
deriving DecidableEq, Inhabited

/-- How many decimal digits `n` is written with. -/
def decimalLength (n : Nat) : Nat :=
  (Nat.toDigits 10 n).length

namespace Double

/-! ### Reading -/

/-- The double nearest to a decimal number. A number from `10 ^ 310` on is beyond every double and
one below `10 ^ -330` rounds to zero; both are answered without forming the power of ten, so an
exponent of any size is cheap. -/
def ofDecimal (d : Decimal) : Double :=
  if d.digits = 0 then zero
  else
    let top : Int := decimalLength d.digits + d.exponent
    if 310 < top then infinity
    else if top < -330 then zero
    else ofRatio (d.digits * Nat.pow 10 d.exponent.toNat) (Nat.pow 10 (-d.exponent).toNat)

/-! ### Shortest numeral -/

/-- Which of two numerals equally near to the value is taken. -/
inductive Tie
  /-- The greater one. -/
  | up
  /-- The one whose last digit is even. -/
  | even
deriving DecidableEq

/-- The nearer of the multiples `low` and `low + 1` of a grid, `low` being `rest / den` grid steps
below the value. -/
def Tie.nearer (tie : Tie) (low rest den : Nat) : Nat :=
  if 2 * rest < den then low
  else if den < 2 * rest then low + 1
  else match tie with
    | .up => low + 1
    | .even => if low % 2 = 0 then low else low + 1

/-- The numeral on the grid `10 ^ k` that reads back as the positive double `d`, if one of the two
neighbours of its value does. -/
def onGrid (tie : Tie) (d : Double) (k : Int) : Option Decimal :=
  let num := d.numerator * Nat.pow 10 (-k).toNat
  let den := d.denominator * Nat.pow 10 k.toNat
  let low := num / den
  let readsBack (n : Nat) : Bool := ofDecimal ⟨n, k⟩ == d
  match readsBack low, readsBack (low + 1) with
  | true, true => some ⟨tie.nearer low (num % den) den, k⟩
  | true, false => some ⟨low, k⟩
  | false, true => some ⟨low + 1, k⟩
  | false, false => none

/-- The first numeral found on the `steps` grids from `10 ^ k` downwards. -/
def onCoarsestGrid (tie : Tie) (d : Double) : (steps : Nat) → (k : Int) → Option Decimal
  | 0, _ => none
  | steps + 1, k =>
    match onGrid tie d k with
    | some found => some found
    | none => onCoarsestGrid tie d steps (k - 1)

/-- A grid step above twice the value of a positive finite double, so that neither the step nor
anything coarser reads back. The factor is a little more than the decimal logarithm of two. -/
def coarseGrid (d : Double) : Int :=
  ((d.significand.log2 + 2 : Int) + d.exponent) * 30103 / 100000 + 1

/-- All digits of a finite double's absolute value: a power of two below one is a power of five,
shifted. -/
def exactDecimal (d : Double) : Decimal :=
  if d.exponent < 0 then ⟨d.significand * Nat.pow 5 (-d.exponent).toNat, d.exponent⟩
  else ⟨d.significand * Nat.pow 2 d.exponent.toNat, 0⟩

/-- The shortest numeral of a finite double's absolute value. Seventeen digits always suffice, so
the exact value that stands at the end is never reached; it makes the function total. -/
def shortest (tie : Tie) (d : Double) : Decimal :=
  if d.magnitude = 0 then ⟨0, 0⟩
  else (onCoarsestGrid tie d.abs 25 d.coarseGrid).getD d.exactDecimal

end Double

/-! ### Positional and scientific notation -/

namespace Decimal

/-- The number without an exponent: zeros are added on either side as far as needed, and a point is
written only before a fraction. -/
def positional (d : Decimal) : String :=
  let digits := Nat.toDigits 10 d.digits
  let places := (-d.exponent).toNat
  if 0 ≤ d.exponent then
    String.ofList (digits ++ List.replicate d.exponent.toNat '0')
  else
    let padded := List.replicate (places + 1 - digits.length) '0' ++ digits
    String.ofList (padded.take (padded.length - places) ++
      '.' :: padded.drop (padded.length - places))

/-- One digit before the point, the others after it, and a power of ten with its sign written. -/
def scientific (d : Decimal) : String :=
  let digits := Nat.toDigits 10 d.digits
  let power : Int := d.exponent + digits.length - 1
  let fraction := match digits.drop 1 with
    | [] => []
    | rest => '.' :: rest
  let sign := if power < 0 then '-' else '+'
  String.ofList (digits.take 1 ++ fraction ++ 'e' :: sign :: Nat.toDigits 10 power.natAbs)

end Decimal

/-! ### Notations -/

namespace Double

/-- The notation of statements and messages: positional at every size, whole numbers without a
point, negative zero with its sign. Of two equally short and near numerals the greater is taken. -/
def plain (d : Double) : String :=
  if d.isNaN then "NaN"
  else
    (if d.negative then "-" else "") ++
      (if d.isFinite then (d.shortest .up).positional else "inf")

/-- The notation of JSON texts, of finite doubles only: positional from `10 ^ -5` up to sixteen
digits before the point, whole numbers with `.0`, and scientific elsewhere. Of two equally short and
near numerals the one with an even last digit is taken. -/
def json? (d : Double) : Option String :=
  if d.isFinite then
    let numeral := d.shortest .even
    let power : Int := numeral.exponent + decimalLength numeral.digits - 1
    let body :=
      if -5 ≤ power ∧ power ≤ 15 then
        numeral.positional ++ (if 0 ≤ numeral.exponent then ".0" else "")
      else numeral.scientific
    some ((if d.negative then "-" else "") ++ body)
  else none

end Double

end ParamSql
