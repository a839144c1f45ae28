import ParamSql.Statement.Count

/-!
# Settings

What every builder made with the same settings shares: where its counts of rows come from, and what
it logs.
-/

namespace ParamSql

/-- Settings of builders. -/
structure Settings where
  /-- Where the number of rows of a SELECT comes from. -/
  foundRows : FoundRowsMode := .calc
  /-- Whether statements are logged when they are run. -/
  logSql : Bool := true
  /-- Whether statements are also logged with their values written into them. -/
  logInlined : Bool := false
  /-- How many bytes of a statement are logged, if there is a bound. -/
  maxSqlLength? : Option Nat := some 200
deriving DecidableEq, Inhabited

namespace Settings

/-- Settings with another source of counts. -/
def withFoundRows (s : Settings) (mode : FoundRowsMode) : Settings :=
  { s with foundRows := mode }

/-- Settings that log statements, or do not. -/
def withLogSql (s : Settings) (on : Bool) : Settings :=
  { s with logSql := on }

/-- Settings that log statements with their values, or do not. -/
def withLogInlined (s : Settings) (on : Bool) : Settings :=
  { s with logInlined := on }

/-- Settings that log at most so many bytes of a statement. -/
def withMaxSqlLength (s : Settings) (bytes : Nat) : Settings :=
  { s with maxSqlLength? := some bytes }

/-- Settings that log statements in full. -/
def untruncated (s : Settings) : Settings :=
  { s with maxSqlLength? := none }

end Settings

end ParamSql
