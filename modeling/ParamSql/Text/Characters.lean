/-!
# Characters with names

The marks around names, literals and strings, which would be hard to read between the same marks,
and the hexadecimal digits.
-/

namespace ParamSql.Text

/-- The mark around quoted names. -/
def tick : Char :=
  Char.ofNat 0x60

/-- The mark around literals. -/
def apostrophe : Char :=
  Char.ofNat 0x27

/-- The mark around strings. -/
def quotationMark : Char :=
  Char.ofNat 0x22

/-- The character that starts an escape. -/
def backslash : Char :=
  Char.ofNat 0x5c

/-- The value of a hexadecimal digit. -/
def hexDigit? (c : Char) : Option Nat :=
  if c.isDigit then some (c.toNat - '0'.toNat)
  else if 'a' ≤ c ∧ c ≤ 'f' then some (c.toNat - 'a'.toNat + 10)
  else if 'A' ≤ c ∧ c ≤ 'F' then some (c.toNat - 'A'.toNat + 10)
  else none

/-- The number that digits of the given radix, sixteen at most, denote. -/
def radixValue? (radix : Nat) (digits : List Char) : Option Nat :=
  digits.foldlM
    (fun value c ↦ ((hexDigit? c).filter (· < radix)).map (value * radix + ·)) 0

/-- The number that hexadecimal digits denote. -/
def hexValue? (digits : List Char) : Option Nat :=
  radixValue? 16 digits

end ParamSql.Text
