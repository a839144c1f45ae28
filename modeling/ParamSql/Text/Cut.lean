/-!
# Cutting a text

Logged statements are cut to a number of bytes of their UTF-8 form, without splitting a character.
-/

namespace ParamSql.Text

/-- The longest list of leading characters that takes at most `budget` bytes. -/
def takeBytes : (budget : Nat) → List Char → List Char
  | _, [] => []
  | budget, c :: rest =>
    if c.utf8Size ≤ budget then c :: takeBytes (budget - c.utf8Size) rest else []

/-- The longest run of leading whole characters of a text that takes at most `max` bytes. -/
def truncate (max : Nat) (text : String) : String :=
  String.ofList (takeBytes max text.toList)

/-- A text for a log: unchanged if it fits or nothing is demanded of it, and otherwise truncated,
with three dots to say so. The dots are not counted. -/
def abbreviate (max? : Option Nat) (text : String) : String :=
  match max? with
  | none => text
  | some max => if text.utf8ByteSize ≤ max then text else truncate max text ++ "..."

end ParamSql.Text
