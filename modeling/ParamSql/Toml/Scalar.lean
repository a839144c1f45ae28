import ParamSql.Calendar.Date
import ParamSql.Double.Decimal
import ParamSql.Text.Characters
import ParamSql.Text.Split

/-!
# Scalars of TOML documents

What a run of characters without quotes means as a value: a truth value, a number or a date. A
number that no wide integer or no double can hold is refused wherever it stands. Of dates and times
only their form and their range are of interest.
-/

namespace ParamSql.Toml

/-- A value that is not made of others. -/
inductive Scalar
  /-- A string. -/
  | text (s : String)
  /-- A truth value. -/
  | bool (b : Bool)
  /-- An integer. -/
  | integer (n : Int)
  /-- A double. -/
  | float (d : Double)
  /-- A date, a time, or both. -/
  | dateTime
deriving DecidableEq

namespace Scalar

/-! ### Digits -/

/-- The digits of a numeral in which single underscores may separate them. -/
def ungroup? (isDigit : Char → Bool) : List Char → Option (List Char)
  | [] => none
  | [c] => if isDigit c then some [c] else none
  | c :: '_' :: rest => if isDigit c then (ungroup? isDigit rest).map (c :: ·) else none
  | c :: rest => if isDigit c then (ungroup? isDigit rest).map (c :: ·) else none

/-- Whether a character is a hexadecimal digit. -/
def isHexDigit (c : Char) : Bool :=
  (Text.hexDigit? c).isSome

/-- The digits of a decimal numeral without needless zeros in front. -/
def wholeDigits? (cs : List Char) : Option (List Char) :=
  (ungroup? Char.isDigit cs).filter fun digits ↦
    digits.length == 1 || digits.head? != some '0'

/-- A sign, if there is one, and what follows it. -/
def splitSign : List Char → Bool × List Char
  | '-' :: rest => (true, rest)
  | '+' :: rest => (false, rest)
  | rest => (false, rest)

/-! ### Integers -/

/-- The integer with a sign. -/
def signed (negative : Bool) (n : Nat) : Int :=
  if negative then -(n : Int) else n

/-- Reads an integer, in one of four radices; only decimal ones have a sign. -/
def integer? (cs : List Char) : Option Int :=
  match cs with
  | '0' :: 'x' :: digits => inRadix 16 digits
  | '0' :: 'o' :: digits => inRadix 8 digits
  | '0' :: 'b' :: digits => inRadix 2 digits
  | _ =>
    let (negative, unsigned) := splitSign cs
    ((wholeDigits? unsigned).bind (Text.radixValue? 10)).map (signed negative)
where
  /-- Reads digits of a radix. -/
  inRadix (radix : Nat) (digits : List Char) : Option Int :=
    ((ungroup? isHexDigit digits).bind (Text.radixValue? radix)).map Int.ofNat

/-- Whether an integer can be held, as a signed or an unsigned one of 128 bits. -/
def fits (n : Int) : Bool :=
  decide (-(Nat.pow 2 127 : Nat) ≤ n ∧ n < (Nat.pow 2 128 : Nat))

/-! ### Floats -/

/-- Reads a power of ten after its letter. -/
def power? (cs : List Char) : Option Int :=
  let (negative, unsigned) := splitSign cs
  ((ungroup? Char.isDigit unsigned).bind (Text.radixValue? 10)).map (signed negative)

/-- Reads a number without a sign that has a fraction, a power of ten or both. -/
def unsignedFloat? (cs : List Char) : Option Double := do
  let (mantissa, powerText?) := Text.splitAt? (fun c ↦ c == 'e' || c == 'E') cs
  let (wholeText, fractionText?) := Text.splitAt? (· == '.') mantissa
  guard (powerText?.isSome || fractionText?.isSome)
  let whole ← wholeDigits? wholeText
  let fraction ← match fractionText? with
    | none => some []
    | some decimals => ungroup? Char.isDigit decimals
  let power ← match powerText? with
    | none => some 0
    | some exponent => power? exponent
  let digits ← Text.radixValue? 10 (whole ++ fraction)
  let size := Double.ofDecimal ⟨digits, power - fraction.length⟩
  guard size.isFinite
  return size

/-- Reads a float; the two that are not finite have names. -/
def float? (cs : List Char) : Option Double :=
  let (negative, unsigned) := splitSign cs
  let size? := match String.ofList unsigned with
    | "inf" => some Double.infinity
    | "nan" => some Double.nan
    | _ => unsignedFloat? unsigned
  size?.map fun size ↦ if negative then size.neg else size

/-! ### Dates and times -/

/-- The number that two digits denote, if it is at most `max`. -/
def twoDigits? (max : Nat) (a b : Char) : Option Nat :=
  if a.isDigit && b.isDigit then (Text.radixValue? 10 [a, b]).filter (· ≤ max) else none

/-- Whether a list is a date that exists. -/
def isDate : List Char → Bool
  | [y₁, y₂, y₃, y₄, '-', m₁, m₂, '-', d₁, d₂] =>
    match Text.radixValue? 10 [y₁, y₂, y₃, y₄], twoDigits? 12 m₁ m₂, twoDigits? 31 d₁ d₂ with
    | some year, some month, some day => (Date.ofParts? year month day).isSome
    | _, _, _ => false
  | _ => false

/-- Whether a list is what may follow the minutes of a time: nothing, or seconds, which may have
decimals. A minute may have a leap second. -/
def isSeconds : List Char → Bool
  | [] => true
  | [':', a, b] => (twoDigits? 60 a b).isSome
  | ':' :: a :: b :: '.' :: decimals =>
    (twoDigits? 60 a b).isSome && !decimals.isEmpty && decimals.all Char.isDigit
  | _ => false

/-- Whether a list is a time of day. -/
def isTime : List Char → Bool
  | h₁ :: h₂ :: ':' :: m₁ :: m₂ :: rest =>
    (twoDigits? 23 h₁ h₂).isSome && (twoDigits? 59 m₁ m₂).isSome && isSeconds rest
  | _ => false

/-- Whether a list is a distance from UTC, or nothing. -/
def isOffset : List Char → Bool
  | [] | ['Z'] | ['z'] => true
  | [sign, h₁, h₂, ':', m₁, m₂] =>
    (sign == '+' || sign == '-') && (twoDigits? 23 h₁ h₂).isSome && (twoDigits? 59 m₁ m₂).isSome
  | _ => false

/-- Whether a character begins a distance from UTC. -/
def isOffsetMark (c : Char) : Bool :=
  c == 'Z' || c == 'z' || c == '+' || c == '-'

/-- Whether a list is a date, a time, or a date and a time between which a letter or a blank stands;
only the last may have a distance from UTC. -/
def isDateTime (cs : List Char) : Bool :=
  isTime cs || isDate cs ||
    match cs.drop 10 with
    | separator :: time =>
      isDate (cs.take 10) && (separator == 'T' || separator == 't' || separator == ' ') &&
        isTime (time.takeWhile (!isOffsetMark ·)) && isOffset (time.dropWhile (!isOffsetMark ·))
    | [] => false

/-! ### All together -/

/-- The value that a run of characters means. -/
def ofList? (cs : List Char) : Option Scalar :=
  match String.ofList cs with
  | "true" => some (bool true)
  | "false" => some (bool false)
  | _ =>
    match integer? cs with
    | some n => if fits n then some (integer n) else none
    | none =>
      match float? cs with
      | some d => some (float d)
      | none => if isDateTime cs then some dateTime else none

end Scalar

end ParamSql.Toml
