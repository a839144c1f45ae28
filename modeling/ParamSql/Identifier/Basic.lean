import ParamSql.Identifier.Reserved
import ParamSql.Text.Characters

/-!
# Identifiers

How a name that the caller gives is written in a statement. A reserved word is put between
backticks; a column without a qualifier gets the alias of the statement in front of it. A name that
is already quoted or qualified is left alone, so resolving a name twice is resolving it once.
-/

namespace ParamSql.Identifier

open Text (tick)

/-! ### Quoting -/

/-- A name between backticks, every backtick inside it doubled. -/
def quote (name : String) : String :=
  String.ofList
    (tick :: name.toList.flatMap (fun c ↦ if c = tick then [tick, tick] else [c]) ++ [tick])

/-- A name as it is written where it stands alone: quoted if it is a reserved word. -/
def bare (name : String) : String :=
  if isReserved name then quote name else name

/-! ### Columns -/

/-- Whether a column name carries a qualifier. -/
def isQualified (name : String) : Bool :=
  name.toList.contains '.'

/-- A column as it is written in a statement with the given alias. An empty alias counts as none. -/
def resolve (alias? : Option String) (name : String) : String :=
  let written := bare name
  match alias? with
  | none => written
  | some qualifier =>
    if qualifier.isEmpty || isQualified written then written else qualifier ++ "." ++ written

end ParamSql.Identifier
