import ParamSql.Error
import ParamSql.Json.Library
import ParamSql.Value.Basic

/-!
# Values and JSON

A value is written as the JSON scalar of its kind, without a tag, and read back by trying the kinds
in turn. A document that is already a tree is converted by cases instead. On scalars the two
readings agree; they differ in how they refuse arrays and objects.

The texts of doubles and strings, and the reading of texts, are those of a JSON library.
-/

namespace ParamSql.Value

/-! ### Writing -/

/-- A value as a JSON text. -/
def write (library : Json.Library) : Value → String
  | null => "null"
  | bool b => if b then "true" else "false"
  | int i => intText i
  | double d => library.double d
  | text s => library.string s

/-- A value as a JSON text of the library that is used unless another one is given. -/
def json : Value → String :=
  write .standard

/-! ### Conversion of documents -/

/-- The signed 64-bit integer with the value `n`, if there is one. -/
def toInt64? (n : Int) : Option Int64 :=
  if Int64.minValue.toInt ≤ n ∧ n ≤ Int64.maxValue.toInt then some (Int64.ofInt n) else none

/-- The value of a document. An integer beyond the signed ones becomes the nearest double. -/
def ofJson : Json → Result Value
  | .null => .ok null
  | .bool b => .ok (bool b)
  | .integer n =>
    match toInt64? n with
    | some i => .ok (int i)
    | none => .ok (double (Double.ofInt n))
  | .double d => .ok (double d)
  | .string s => .ok (text s)
  | .array _ => .error (.unsupportedType "array")
  | .object _ => .error (.unsupportedType "object")

/-! ### Reading texts -/

/-- Reads a document as the absent value. -/
def nullOf? : Json → Option Value
  | .null => some null
  | _ => none

/-- Reads a document as a truth value. -/
def boolOf? : Json → Option Value
  | .bool b => some (bool b)
  | _ => none

/-- Reads a document as an integer. -/
def intOf? : Json → Option Value
  | .integer n => (toInt64? n).map int
  | _ => none

/-- Reads a document as a double; integers are numbers too. -/
def doubleOf? : Json → Option Value
  | .integer n => some (double (Double.ofInt n))
  | .double d => some (double d)
  | _ => none

/-- Reads a document as a text. -/
def textOf? : Json → Option Value
  | .string s => some (text s)
  | _ => none

/-- The value of a document: the first kind in order that it can be read as. -/
def ofUntagged? (json : Json) : Option Value :=
  [nullOf?, boolOf?, intOf?, doubleOf?, textOf?].findSome? fun reading ↦ reading json

/-- Why a text is not the JSON of a value. -/
inductive ReadError
  /-- It is not JSON. -/
  | malformed
  /-- It begins with a document of no value. -/
  | unsuitable
deriving DecidableEq

/-- The text shown for a document that no value has. -/
def unsuitableMessage : String :=
  "data did not match any variant of untagged enum Value"

/-- Reads the JSON of a value. What follows the document is only looked at if the document has a
value. -/
def read (library : Json.Library) (source : String) : Except ReadError Value :=
  match library.read? source.toList with
  | none => .error .malformed
  | some (json, rest) =>
    match ofUntagged? json with
    | none => .error .unsuitable
    | some value => if library.isEnd rest then .ok value else .error .malformed

/-- Reads the JSON of a value by the library that is used unless another one is given. -/
def ofText : String → Except ReadError Value :=
  read .standard

end ParamSql.Value
