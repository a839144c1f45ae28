import ParamSql.Double.Rounding
import ParamSql.Text.Characters

/-!
# JSON documents

A JSON document as a tree, and the written form of its strings. A number keeps apart whether it was
given as an integer of at most sixty-four bits or as anything else: the first kind is exact, the
second is a double.
-/

namespace ParamSql

/-- A JSON document. -/
inductive Json
  /-- `null`. -/
  | null
  /-- `true` or `false`. -/
  | bool (b : Bool)
  /-- A number held as an integer. -/
  | integer (n : Int)
  /-- A number held as a double. -/
  | double (d : Double)
  /-- A string. -/
  | string (s : String)
  /-- An array. -/
  | array (items : List Json)
  /-- An object, its members in order. -/
  | object (members : List (String × Json))
deriving Inhabited

namespace Json

/-- A double as a document. There is no JSON number that is not finite; `null` stands for it. -/
def ofDouble (d : Double) : Json :=
  if d.isFinite then double d else null

/-! ### Strings -/

open Text (quotationMark backslash)

/-- The letter that stands for a character after a backslash, for those that have one. -/
def shortEscape? (c : Char) : Option Char :=
  if c = quotationMark ∨ c = backslash then some c
  else if c.toNat = 0x08 then some 'b'
  else if c.toNat = 0x09 then some 't'
  else if c.toNat = 0x0a then some 'n'
  else if c.toNat = 0x0c then some 'f'
  else if c.toNat = 0x0d then some 'r'
  else none

/-- A character as it is written in a string: the two marks and the control characters are escaped,
in short form where there is one. -/
def escape (c : Char) : List Char :=
  match shortEscape? c with
  | some letter => [backslash, letter]
  | none =>
    if c.toNat < 0x20 then
      [backslash, 'u', '0', '0', Nat.digitChar (c.toNat / 16), Nat.digitChar (c.toNat % 16)]
    else [c]

/-- A text as a JSON string. -/
def quote (text : String) : String :=
  String.ofList (quotationMark :: text.toList.flatMap escape ++ [quotationMark])

end Json

end ParamSql
