/-!
# Doubles

A double is its sixty-four bits. The type is not the built-in one: everything the library does with
a double — print it, read it, compare it, round a quotient to it — is stated over the natural
number behind the sign bit, where it can be reasoned about.

For a finite double with sign bit removed, `significand * 2 ^ exponent` is its value. Magnitudes
are ordered as their values are, and the encoding is arranged so that a significand that has grown
to `2 ^ 53` by rounding carries into the exponent by itself: see `ofScaled`.
-/

namespace ParamSql

/-- A binary64 number, held as its bit pattern. -/
structure Double where
  /-- Sign bit, eleven exponent bits, fifty-two fraction bits. -/
  bits : UInt64
deriving DecidableEq, Inhabited

namespace Double

/-! ### Parts -/

/-- The weight of the sign bit, `2 ^ 63`. -/
def signBit : Nat :=
  0x8000000000000000

/-- The weight of the lowest exponent bit, `2 ^ 52`. In the significand it is the weight of the bit
that is not stored. -/
def hiddenBit : Nat :=
  0x10000000000000

/-- Whether the sign bit is set, also on zeros and NaNs. -/
def negative (d : Double) : Bool :=
  decide (signBit ≤ d.bits.toNat)

/-- The bits below the sign bit. -/
def magnitude (d : Double) : Nat :=
  d.bits.toNat % signBit

/-- The double with the given sign bit and bits below it. -/
def ofMagnitude (negative : Bool) (magnitude : Nat) : Double :=
  ⟨UInt64.ofNat (if negative then signBit + magnitude else magnitude)⟩

/-- The magnitude of the infinities: every exponent bit set and no fraction bit. -/
def infiniteMagnitude : Nat :=
  2047 * hiddenBit

/-- Neither infinite nor a NaN. -/
def isFinite (d : Double) : Bool :=
  decide (d.magnitude < infiniteMagnitude)

/-- Not a number: beyond the infinities. -/
def isNaN (d : Double) : Bool :=
  decide (infiniteMagnitude < d.magnitude)

/-- Positive zero. -/
def zero : Double :=
  ofMagnitude false 0

/-- Positive infinity. -/
def infinity : Double :=
  ofMagnitude false infiniteMagnitude

/-- A double that is not a number. -/
def nan : Double :=
  ofMagnitude false (infiniteMagnitude + hiddenBit / 2)

/-- The double with its sign bit flipped. -/
def neg (d : Double) : Double :=
  ofMagnitude (!d.negative) d.magnitude

/-- The double with its sign bit cleared. -/
def abs (d : Double) : Double :=
  ofMagnitude false d.magnitude

/-! ### Value of a finite double -/

/-- The integer factor of a finite double's absolute value. Below the least normal magnitude there
is no hidden bit. -/
def significand (d : Double) : Nat :=
  if d.magnitude < hiddenBit then d.magnitude else hiddenBit + d.magnitude % hiddenBit

/-- The power of two by which `significand` is scaled. -/
def exponent (d : Double) : Int :=
  if d.magnitude < hiddenBit then -1074 else (d.magnitude / hiddenBit : Nat) - 1075

/-- Numerator of a finite double's absolute value. -/
def numerator (d : Double) : Nat :=
  d.significand * Nat.pow 2 d.exponent.toNat

/-- Denominator of a finite double's absolute value, a power of two. -/
def denominator (d : Double) : Nat :=
  Nat.pow 2 (-d.exponent).toNat

/-- The positive double whose value is `significand * 2 ^ exponent`, for exponents from `-1074` on
and significands up to `2 ^ 53`, normal ones unless the exponent is the least. What is too large
becomes infinite. -/
def ofScaled (significand : Nat) (exponent : Int) : Double :=
  ofMagnitude false (min ((exponent + 1074).toNat * hiddenBit + significand) infiniteMagnitude)

/-! ### Equality of numbers -/

/-- Numeric equality: the two zeros are equal, and a NaN equals nothing, itself included. -/
def equals (a b : Double) : Bool :=
  !a.isNaN && !b.isNaN && (a == b || (a.magnitude == 0 && b.magnitude == 0))

end Double

/-- A binary32 number, held as its bit pattern. It only serves to be widened. -/
structure Single where
  /-- Sign bit, eight exponent bits, twenty-three fraction bits. -/
  bits : UInt32
deriving DecidableEq, Inhabited

namespace Single

/-- The weight of the sign bit, `2 ^ 31`. -/
def signBit : Nat :=
  0x80000000

/-- The weight of the lowest exponent bit, `2 ^ 23`. -/
def hiddenBit : Nat :=
  0x800000

/-- Whether the sign bit is set. -/
def negative (s : Single) : Bool :=
  decide (signBit ≤ s.bits.toNat)

/-- The bits below the sign bit. -/
def magnitude (s : Single) : Nat :=
  s.bits.toNat % signBit

end Single

end ParamSql
