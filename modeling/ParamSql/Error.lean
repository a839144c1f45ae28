import ParamSql.Duration

/-!
# Errors

What can go wrong when a statement is made or run, and the text shown for it. An error that the
database reported is carried along unchanged.
-/

namespace ParamSql

/-- A failure to make or run a statement. -/
inductive Error
  /-- A builder was used in a state that does not allow it. -/
  | configuration (message : String)
  /-- The executor reported a failure. -/
  | database (message : String)
  /-- A value is of a kind that cannot be bound. -/
  | unsupportedType (description : String)
  /-- A statement took longer than allowed. -/
  | timeout (limit : Duration)
  /-- Settings could not be read. -/
  | settings (message : String)
deriving DecidableEq

namespace Error

/-- The text shown for an error. -/
def message : Error → String
  | configuration text => "Configuration error: " ++ text
  | database text => "Database error: " ++ text
  | unsupportedType text => "Unsupported value type: " ++ text
  | timeout limit => "Query timeout after " ++ limit.text
  | settings text => "Config error: " ++ text

/-- The text of the error that caused this one; only a database error has a cause. -/
def cause? : Error → Option String
  | database text => some text
  | _ => none

/-- Whether a builder was misused. -/
def isConfiguration : Error → Bool
  | configuration _ => true
  | _ => false

/-- Whether the executor reported the failure. -/
def isDatabase : Error → Bool
  | database _ => true
  | _ => false

/-- Whether a statement took too long. -/
def isTimeout : Error → Bool
  | timeout _ => true
  | _ => false

end Error

/-- The result of an operation that can fail with an `Error`. -/
abbrev Result (α : Type) :=
  Except Error α

end ParamSql
