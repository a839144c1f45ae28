import ParamSql.Proofs.Condition.Token
import ParamSql.Proofs.Condition.Truth
import ParamSql.Param.Basic

/-!
# Reading conditions

The conditions that a statement can pose on a row, what they mean, and how one is read from its
text.

The reader looks at one token after the other and keeps the groups that are open. Precedence is a
matter of what it keeps of a group (`Group`): the alternatives that `or` has closed, and the
conjunction that is still going on. `and` goes on with the conjunction, `or` closes it, so `and`
binds tighter; a parenthesis opens a group of its own. Keywords are read in any mixture of cases. A
reserved word names a column only between backticks or behind a qualifier.

`ReadsAs` says what a list of tokens amounts to wherever a condition may stand. It composes:
`ReadsAs.group` reads a group from the readings of its parts, and `read?_eq_some` does so for the
condition of a statement, which stands in no parentheses.
-/

namespace ParamSql

open Identifier (isNameChar isReserved upperCase)

/-- A condition on a row. Values are referred to by the names that they are bound to. -/
inductive Condition
  /-- A column has no value. -/
  | isNull (column : String)
  /-- A column has a value. -/
  | isNotNull (column : String)
  /-- A column compares with a bound value. -/
  | compare (column : String) (comparison : Comparison) (name : String)
  /-- A column equals one of several bound values. -/
  | oneOf (column : String) (names : List String)
  /-- Two numerals are equal. -/
  | numeralsEqual (a b : Nat)
  /-- Both conditions hold. -/
  | and (left right : Condition)
  /-- One of the conditions holds. -/
  | or (left right : Condition)
deriving DecidableEq

namespace Condition

/-! ### Meaning -/

/-- The truth of a condition for a row, given by the values of its columns. A condition that refers
to a name which nothing is bound to has none. -/
def truth? (collation : Collation) (row : String → Value) (ps : Params) : Condition → Option Truth
  | isNull column => some (.ofBool (row column).isNull)
  | isNotNull column => some (.ofBool !(row column).isNull)
  | compare column comparison name => (ps.get? name).map (collation.truth comparison (row column))
  | oneOf column names => (names.mapM ps.get?).map (collation.memberTruth (row column))
  | numeralsEqual a b => some (.ofBool (a == b))
  | and left right => do
    return (← left.truth? collation row ps).and (← right.truth? collation row ps)
  | or left right => do return (← left.truth? collation row ps).or (← right.truth? collation row ps)

/-! ### Words -/

/-- Whether a word is a keyword, given in upper case. -/
def isKeyword (keyword : String) (cs : List Char) : Bool :=
  cs.map Char.toUpper == keyword.toList

/-- The column that a word names. -/
def column? (cs : List Char) : Option String :=
  let name := String.ofList cs
  if cs.all isNameChar && (cs.contains Text.tick || cs.contains '.' || !isReserved name) then
    some name
  else none

/-- The name in a placeholder. -/
def placeholder? : List Char → Option String
  | ':' :: cs => some (String.ofList cs)
  | _ => none

/-- The number that a word denotes. -/
def numeral? (cs : List Char) : Option Nat :=
  if !cs.isEmpty && cs.all Char.isDigit then some (Nat.ofDigitChars 10 cs 0) else none

/-- The comparison that a word stands for. -/
def comparison? (cs : List Char) : Option Comparison :=
  if isKeyword "LIKE" cs then some .like
  else
    match cs with
    | ['='] => some .equal
    | ['!', '='] => some .notEqual
    | ['<', '>'] => some .notEqual
    | ['<'] => some .less
    | ['<', '='] => some .lessOrEqual
    | ['>'] => some .greater
    | ['>', '='] => some .greaterOrEqual
    | _ => none

/-- What connects two conditions. -/
inductive Connective
  /-- Both must hold. -/
  | and
  /-- One must hold. -/
  | or
deriving DecidableEq

namespace Connective

/-- The word for a connective, as it is written. -/
def word : Connective → String
  | and => "and"
  | or => "or"

/-- Two conditions that are connected. -/
def join : Connective → Condition → Condition → Condition
  | and => Condition.and
  | or => Condition.or

end Connective

/-- The connective that a word stands for. -/
def connective? (cs : List Char) : Option Connective :=
  if isKeyword "AND" cs then some .and
  else if isKeyword "OR" cs then some .or
  else none

/-! ### Groups -/

/-- What has been read of the conditions between two parentheses. -/
structure Group where
  /-- The disjunction of the alternatives that are finished. -/
  alternatives? : Option Condition := none
  /-- The conjunction that is going on. -/
  conjunction? : Option Condition := none
deriving DecidableEq

namespace Group

/-- The group when the conjunction goes on with a condition. -/
def add (g : Group) (c : Condition) : Group :=
  { g with conjunction? := some (g.conjunction?.elim c (·.and c)) }

/-- The condition that the group amounts to if it ends here. -/
def result? (g : Group) : Option Condition :=
  g.conjunction?.map fun c ↦ g.alternatives?.elim c (·.or c)

/-- The group when another condition is to follow a connective. -/
def next (g : Group) : Connective → Group
  | .and => g
  | .or => { alternatives? := g.result? }

end Group

/-! ### The reader -/

/-- What a reader is in the middle of. -/
inductive Phase
  /-- A condition must follow. -/
  | start
  /-- A column or a numeral has been read. -/
  | operand (cs : List Char)
  /-- `is` follows the column. -/
  | is (column : String)
  /-- `is not` follows the column. -/
  | isNot (column : String)
  /-- `not` follows the column. -/
  | not (column : String)
  /-- An operator follows the column or numeral. -/
  | compared (cs : List Char) (comparison : Comparison)
  /-- `in` follows the column. -/
  | member (column : String)
  /-- A placeholder must follow in the list of members. -/
  | listing (column : String) (names : List String)
  /-- A placeholder has been read in the list of members. -/
  | listed (column : String) (names : List String)
  /-- A condition has been read. -/
  | done
deriving DecidableEq

/-- The state of a reader. -/
structure Reading where
  /-- The groups around the innermost one, inner ones first. -/
  outer : List Group := []
  /-- The innermost group. -/
  group : Group := {}
  /-- What the reader is in the middle of. -/
  phase : Phase := .start
deriving DecidableEq

namespace Reading

/-- The reading when a condition has been read. -/
def finish (r : Reading) (c : Condition) : Reading :=
  { r with group := r.group.add c, phase := .done }

/-- The reading in another phase. -/
def inPhase (r : Reading) (phase : Phase) : Reading :=
  { r with phase }

/-- Reads what follows a column or a numeral. -/
def stepOperand (r : Reading) (operand cs : List Char) : Option Reading :=
  match comparison? cs with
  | some comparison => some (r.inPhase (.compared operand comparison))
  | none =>
    (column? operand).bind fun column ↦
      if isKeyword "IS" cs then some (r.inPhase (.is column))
      else if isKeyword "NOT" cs then some (r.inPhase (.not column))
      else if isKeyword "IN" cs then some (r.inPhase (.member column))
      else none

/-- Reads the right side of a comparison: a placeholder, or a numeral if there is one on the left as
well. -/
def stepCompared (r : Reading) (operand : List Char) (comparison : Comparison) (cs : List Char) :
    Option Reading :=
  match placeholder? cs with
  | some name =>
    (column? operand).map fun column ↦ r.finish (.compare column comparison name)
  | none =>
    match numeral? operand, comparison, numeral? cs with
    | some a, .equal, some b => some (r.finish (.numeralsEqual a b))
    | _, _, _ => none

/-- Ends the innermost group. -/
def leave (r : Reading) : Option Reading :=
  match r.outer, r.group.result? with
  | group :: outer, some c => some { outer, group := group.add c, phase := .done }
  | _, _ => none

/-- Reads a token. -/
def step (r : Reading) (token : Token) : Option Reading :=
  match r.phase, token with
  | .start, .opening => some { outer := r.group :: r.outer, group := {}, phase := .start }
  | .start, .word cs => some (r.inPhase (.operand cs))
  | .operand operand, .word cs => r.stepOperand operand cs
  | .is column, .word cs =>
    if isKeyword "NOT" cs then some (r.inPhase (.isNot column))
    else if isKeyword "NULL" cs then some (r.finish (.isNull column))
    else none
  | .isNot column, .word cs =>
    if isKeyword "NULL" cs then some (r.finish (.isNotNull column)) else none
  | .not column, .word cs =>
    if isKeyword "LIKE" cs then some (r.inPhase (.compared column.toList .notLike)) else none
  | .compared operand comparison, .word cs => r.stepCompared operand comparison cs
  | .member column, .opening => some (r.inPhase (.listing column []))
  | .listing column names, .word cs =>
    (placeholder? cs).map fun name ↦ r.inPhase (.listed column (names ++ [name]))
  | .listed column names, .comma => some (r.inPhase (.listing column names))
  | .listed column names, .closing => some (r.finish (.oneOf column names))
  | .done, .word cs =>
    (connective? cs).map fun connective ↦
      { r with group := r.group.next connective, phase := .start }
  | .done, .closing => r.leave
  | _, _ => none

/-- Reads several tokens. -/
def run (r : Reading) (tokens : List Token) : Option Reading :=
  tokens.foldlM step r

/-- The condition that has been read, if the text may end here. -/
def result? (r : Reading) : Option Condition :=
  match r.outer, r.phase with
  | [], .done => r.group.result?
  | _, _ => none

end Reading

/-- The condition that a text states. -/
def read? (text : String) : Option Condition :=
  (Reading.run {} (Token.lex text.toList)).bind Reading.result?

@[simp]
theorem read?_empty : read? "" = none :=
  rfl

/-- The truth of the text of a condition for a row. Without a text, every row is admitted. -/
def textTruth? (collation : Collation) (row : String → Value) (ps : Params) (text : String) :
    Option Truth :=
  if text = "" then some .holds else (read? text).bind (truth? collation row ps)

end Condition

end ParamSql
