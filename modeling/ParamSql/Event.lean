import ParamSql.Error
import ParamSql.Statement.Assemble

/-!
# Log events

What builders and watched executors report while they work. An event is a value; its severity, its
channel and its named fields are read off it, so a log in any format can be made from a list of
events. How long a call really took is not part of an event: no rule of the library depends on it
except through the slow-statement event itself.
-/

namespace ParamSql

/-- How severe an event is. -/
inductive Level
  /-- Something failed. -/
  | error
  /-- Something is not as it should be. -/
  | warn
  /-- Something of interest. -/
  | info
  /-- Something of interest when looking for a fault. -/
  | debug
  /-- Every detail. -/
  | trace
deriving DecidableEq

/-- What an executor can be asked to do. -/
inductive Operation
  /-- Run a statement that returns rows. -/
  | query
  /-- Run a statement that changes rows. -/
  | execute
  /-- Run a query for a single integer. -/
  | queryScalar
deriving DecidableEq

/-- The name of an operation in the log. -/
def Operation.name : Operation → String
  | query => "query"
  | execute => "execute"
  | queryScalar => "query_scalar"

/-- Something to be logged. -/
inductive Event
  /-- A setter was called on a builder that had been built, and had no effect. -/
  | lateSetter (setter : String)
  /-- A statement is about to be run. -/
  | statement (kind : StatementKind) (paramCount : Nat) (sql : String)
  /-- A statement is about to be run; this is its text with the values in it. -/
  | inlined (kind : StatementKind) (sql : String)
  /-- An executor has succeeded. -/
  | succeeded (level : Level) (operation : Operation) (paramCount : Nat) (sql : String)
  /-- An executor has failed. -/
  | failed (operation : Operation) (paramCount : Nat) (sql error : String)
  /-- An executor has taken longer than a threshold. -/
  | slow (operation : Operation) (sql : String) (threshold : Duration)
deriving DecidableEq

namespace Event

/-- The severity of an event. -/
def level : Event → Level
  | lateSetter _ => .warn
  | statement .. => .debug
  | inlined .. => .trace
  | succeeded level .. => level
  | failed .. => .error
  | slow .. => .warn

/-- The channel that an event is logged on: statements have one of their own. -/
def channel : Event → String
  | lateSetter _ => "mysqlqb"
  | _ => "mysqlqb.sql"

/-- The content of a field. -/
inductive Field
  /-- A text. -/
  | text (s : String)
  /-- A number of things. -/
  | count (n : Nat)
  /-- A number of milliseconds. -/
  | milliseconds (d : Double)
deriving DecidableEq

/-- The named fields of an event; the field `message` is the text of the event itself. -/
def fields : Event → List (String × Field)
  | lateSetter setter =>
    [("setter", .text setter),
      ("message", .text "builder modified after build(); change ignored")]
  | statement kind paramCount sql =>
    [("kind", .text kind.name), ("param_count", .count paramCount), ("sql", .text sql)]
  | inlined kind sql => [("kind", .text kind.name), ("inlined", .text sql)]
  | succeeded _ operation paramCount sql =>
    [("op", .text operation.name), ("param_count", .count paramCount), ("sql", .text sql)]
  | failed operation paramCount sql error =>
    [("op", .text operation.name), ("param_count", .count paramCount), ("sql", .text sql),
      ("error", .text error)]
  | slow operation sql threshold =>
    [("op", .text operation.name), ("sql", .text sql),
      ("threshold_ms", .milliseconds threshold.milliseconds),
      ("message", .text "slow statement")]

end Event

end ParamSql
