import ParamSql.Double.Decimal

/-!
# Values

A value is what a parameter or a literal of a filter can carry: one scalar of the five kinds that
are bound to statements. Everything else is converted first.
-/

namespace ParamSql

/-- A scalar that can be bound to a statement. -/
inductive Value
  /-- The absent value. -/
  | null
  /-- A truth value. -/
  | bool (b : Bool)
  /-- A signed 64-bit integer. -/
  | int (i : Int64)
  /-- A double. -/
  | double (d : Double)
  /-- A text. -/
  | text (s : String)
deriving DecidableEq, Inhabited

namespace Value

/-- Whether a value is the absent one. -/
def isNull : Value → Bool
  | null => true
  | _ => false

/-- The name of a value's kind, for messages. -/
def typeName : Value → String
  | null => "null"
  | bool _ => "boolean"
  | int _ => "integer"
  | double _ => "double"
  | text _ => "string"

/-- The text of a value, if it is one. -/
def asText? : Value → Option String
  | text s => some s
  | _ => none

/-- The integer in decimal digits. -/
def intText (i : Int64) : String :=
  Int.repr i.toInt

/-- A value for a reader: texts stand as they are. -/
def display : Value → String
  | null => "null"
  | bool b => if b then "true" else "false"
  | int i => intText i
  | double d => d.plain
  | text s => s

/-- Equality as the database would see it: values of different kinds differ, and doubles are
compared as numbers, so that a NaN differs from itself. -/
def equals : Value → Value → Bool
  | null, null => true
  | bool a, bool b => a == b
  | int a, int b => a == b
  | double a, double b => a.equals b
  | text a, text b => a == b
  | _, _ => false

end Value

end ParamSql
