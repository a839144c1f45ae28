import ParamSql.Double.Basic

/-!
# Rounding to a double

A positive rational is rounded to the nearest double, a tie going to the even significand. This is
the only rounding rule of the library: integers, decimal numerals, wider and narrower formats and
the few arithmetical operations all pass through `Double.ofRatio`.
-/

namespace ParamSql

/-! ### Quotients -/

/-- The nearest natural number to `num / den`, a tie going to the even one. -/
def roundHalfEven (num den : Nat) : Nat :=
  let floor := num / den
  let rest := num % den
  if 2 * rest < den then floor
  else if den < 2 * rest then floor + 1
  else if floor % 2 = 0 then floor
  else floor + 1

/-- The greatest `e` with `2 ^ e ≤ num / den`, for positive `num` and `den`. The difference of the
two binary logarithms is that exponent or one more. -/
def floorLog2 (num den : Nat) : Int :=
  let e : Int := (num.log2 : Int) - den.log2
  if den * Nat.pow 2 e.toNat ≤ num * Nat.pow 2 (-e).toNat then e else e - 1

namespace Double

/-- The double nearest to `num / den`. The exponent is chosen so that the significand has
fifty-three bits, or is the least exponent there is. -/
def ofRatio (num den : Nat) : Double :=
  if num = 0 then zero
  else
    let e := max (floorLog2 num den - 52) (-1074)
    ofScaled (roundHalfEven (num * Nat.pow 2 (-e).toNat) (den * Nat.pow 2 e.toNat)) e

/-- The double nearest to a natural number. -/
def ofNat (n : Nat) : Double :=
  ofRatio n 1

/-- The double nearest to an integer. -/
def ofInt (i : Int) : Double :=
  if i < 0 then (ofNat i.natAbs).neg else ofNat i.natAbs

/-! ### Arithmetic

Only sums, products and quotients of finite doubles that are not negative are needed. Each is the
exact result, rounded once. -/

/-- The sum of two finite doubles, neither negative. -/
def add (a b : Double) : Double :=
  ofRatio (a.numerator * b.denominator + b.numerator * a.denominator)
    (a.denominator * b.denominator)

/-- The product of two finite doubles, neither negative. -/
def mul (a b : Double) : Double :=
  ofRatio (a.numerator * b.numerator) (a.denominator * b.denominator)

/-- The quotient of two finite doubles, neither negative and the second not zero. -/
def div (a b : Double) : Double :=
  ofRatio (a.numerator * b.denominator) (a.denominator * b.numerator)

end Double

/-! ### Widening -/

/-- The double with the value of a binary32 number. Every finite one has it exactly; an infinity
and a NaN keep being one. -/
def Single.toDouble (s : Single) : Double :=
  let m := s.magnitude
  let exponentField := m / hiddenBit
  let fraction := m % hiddenBit
  let wide : Double :=
    if exponentField = 255 then
      Double.ofMagnitude false
        (Double.infiniteMagnitude + fraction * (Double.hiddenBit / hiddenBit))
    else if exponentField = 0 then Double.ofRatio fraction (Nat.pow 2 149)
    else Double.ofRatio ((hiddenBit + fraction) * Nat.pow 2 exponentField) (Nat.pow 2 150)
  if s.negative then wide.neg else wide

end ParamSql
