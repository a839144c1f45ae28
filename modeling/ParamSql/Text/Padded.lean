/-!
# Padded numerals

Natural numbers written in a fixed number of decimal places.
-/

namespace ParamSql.Text

/-- The decimal digits of `n`, with zeros in front up to `width` digits. A number that needs more
digits is written in full. -/
def padded (width n : Nat) : String :=
  let digits := Nat.toDigits 10 n
  String.ofList (List.replicate (width - digits.length) '0' ++ digits)

end ParamSql.Text
