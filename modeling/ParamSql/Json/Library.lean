import ParamSql.Json.Reader
import ParamSql.Double.Decimal

/-!
# JSON libraries

Values are written and read through a JSON library. It has the say on how doubles and strings are
written and on how a text is read, and in particular on how digits are rounded to a double; what is
left to it is all that `Json.Library` has fields for. Words and integers can be written in one way
only.

The library that is used unless another one is given rounds to the nearest double and writes the
shortest digits.
-/

namespace ParamSql.Json

/-- A JSON library. -/
structure Library where
  /-- The text of a double. -/
  double : Double → String
  /-- The text of a string. -/
  string : String → String
  /-- Reads one document from the front of a text, and answers it with the rest of the text. -/
  read? : List Char → Option (Json × List Char)
  /-- Whether the rest of a text holds nothing more. -/
  isEnd : List Char → Bool

namespace Library

/-- Reads a text that is one document, with nothing behind it. -/
def document? (library : Library) (text : String) : Option Json := do
  let (json, rest) ← library.read? text.toList
  guard (library.isEnd rest)
  return json

/-- The library that is used unless another one is given. A double that is not finite is written
`null`. -/
def standard : Library where
  double d := d.json?.getD "null"
  string := quote
  read? := Json.read?
  isEnd rest := rest.all isBlank

end Library

end ParamSql.Json
