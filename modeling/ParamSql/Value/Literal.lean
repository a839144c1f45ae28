import ParamSql.Literal
import ParamSql.Value.Basic

/-!
# Values as SQL literals

Statements that are run bind their values; literals are only written where a statement is shown to a
reader. How a value is escaped there is the caller's choice.
-/

namespace ParamSql

/-- A way to write a value as an SQL literal. -/
abbrev Escaper :=
  Value → String

/-- A value as MySQL's text protocol writes it. There is no literal for a double that is not
finite, so `NULL` stands for it. -/
def Value.literal : Escaper
  | .null => "NULL"
  | .bool b => if b then "TRUE" else "FALSE"
  | .int i => intText i
  | .double d => if d.isFinite then d.plain else "NULL"
  | .text s => Literal.quote s

/-- A value where its placeholder stood: the absent value and the empty text are written the same
way whatever the escaper. -/
def Escaper.inlined (escaper : Escaper) (value : Value) : String :=
  match value with
  | .null => "null"
  | .text s => if s.isEmpty then "''" else escaper (.text s)
  | other => escaper other

end ParamSql
