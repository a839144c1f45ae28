import ParamSql.Builder.Setter
import ParamSql.Param.Inline

/-!
# Building and checking

Building writes the filters, puts the statement together and keeps the text. A builder is checked
before it is run; the check finds misuse that would otherwise reach the database.
-/

namespace ParamSql

/-! ### Building -/

namespace Builder

/-- The builder with its filters compiled into the condition, unless a condition was set. -/
def withFilters (b : Builder) : Builder :=
  if b.clauses.condition.isEmpty then
    let (sql, params) := Filter.compileAll b.filters b.alias? b.params
    { b with params, clauses.condition := sql }
  else b

/-- Builds the statement, if that has not been done, and answers with its text. -/
def build (b : Builder) : String × Builder :=
  match b.built? with
  | some sql => (sql, b)
  | none =>
    let b := b.withFilters
    let sql := b.clauses.assemble b.kind
    (sql, { b with built? := some sql })

/-- Builds the statement and answers with its text, the values in it written as literals. The answer
is for logs and never to be run. -/
def debugSql (b : Builder) (escaper : Escaper) : String × Builder :=
  let (sql, b) := b.build
  (b.params.inline escaper sql, b)

end Builder

/-! ### Checking -/

/-- A wrong use of a builder. -/
inductive Misuse
  /-- A setter was called after the statement had been built. -/
  | lateSetter (setter : String)
  /-- The statement has no table. -/
  | noTable (kind : StatementKind)
  /-- The statement assigns nothing although it should. -/
  | noAssignments (kind : StatementKind)
  /-- Rows were asked of a statement that returns none. -/
  | noRows (kind : StatementKind)
deriving DecidableEq

namespace Misuse

/-- The text shown for a misuse. -/
def message : Misuse → String
  | lateSetter setter =>
    "`" ++ setter ++ "` called after build(); create a new builder for another statement"
  | noTable kind => kind.name ++ " statement has no table"
  | noAssignments kind => kind.name ++ " statement has no assignments"
  | noRows kind => "fetch_all on a " ++ kind.name ++ " statement"

/-- A misuse as an error. -/
def error (m : Misuse) : Error :=
  .configuration m.message

end Misuse

namespace Builder

/-- Whether a statement lacks the assignments that its kind cannot do without. -/
def lacksAssignments (b : Builder) : Bool :=
  match b.kind with
  | .insert | .upsert => b.clauses.assigned.isEmpty && b.clauses.assignedOnInsert.isEmpty
  | .update => b.clauses.assigned.isEmpty && b.clauses.assignedOnUpdate.isEmpty
  | .select | .delete => false

/-- The first misuse that the check finds. -/
def misuse? (b : Builder) : Option Misuse :=
  match b.lateSetter? with
  | some setter => some (.lateSetter setter)
  | none =>
    if b.target.isEmpty then some (.noTable b.kind)
    else if b.lacksAssignments then some (.noAssignments b.kind)
    else none

/-- Checks a builder. -/
def validate (b : Builder) : Result Unit :=
  match b.misuse? with
  | some misuse => .error misuse.error
  | none => .ok ()

end Builder

end ParamSql
