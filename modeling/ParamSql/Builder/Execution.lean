import ParamSql.Builder.Building
import ParamSql.Executor.Watched

/-!
# Running statements

A statement is checked, built, logged and handed to an executor. A SELECT that succeeds makes a
count of its rows available, which is asked for at most once: from the moment a statement is handed
over, nothing is known of the rows of an earlier one.
-/

namespace ParamSql

/-- What comes of running a statement. -/
inductive Outcome
  /-- The rows of a SELECT. -/
  | rows (returned : List Row)
  /-- How many rows any other statement changed. -/
  | affected (count : UInt64)
deriving DecidableEq

namespace Outcome

/-- The rows; a statement that changes rows returns none. -/
def toRows : Outcome → List Row
  | rows returned => returned
  | affected _ => []

/-- How many rows were changed, unless the statement was a SELECT. -/
def affected? : Outcome → Option UInt64
  | rows _ => none
  | affected count => some count

end Outcome

/-- What an operation on a builder comes to: its result, the builder after it, and what happened. -/
structure Ran (α : Type) where
  /-- The result of the operation. -/
  result : α
  /-- The builder after it. -/
  builder : Builder
  /-- What happened, in order. -/
  trace : List Happening := []

namespace Builder

/-! ### Logging -/

/-- What is logged of a statement before it is handed to an executor. -/
def statementEvents (b : Builder) (sql : String) : List Event :=
  let shown (sql : String) := Text.abbreviate b.settings.maxSqlLength? sql
  if b.settings.logSql then
    .statement b.kind b.params.entries.length (shown sql) ::
      if b.settings.logInlined then
        [.inlined b.kind (shown (b.params.inline Value.literal sql))]
      else []
  else []

/-! ### Counts of rows -/

/-- The count that a SELECT makes available: the remembered one if it was told to remember, or the
answer to the counting statement. -/
def pendingCount? (b : Builder) : Option PendingCount :=
  match b.kind, b.foundRowsMode with
  | .select, .calc =>
    if b.clauses.hasModifier rememberCountKeyword then some .remembered else none
  | .select, .query => b.countSql?.map .counted
  | _, _ => none

/-- The builder after a SELECT has succeeded. -/
def arm (b : Builder) : Builder :=
  { b with found := .armed b.pendingCount? }

/-- The builder when nothing is known of the rows of its statement. -/
def disarm (b : Builder) : Builder :=
  { b with found := .armed none }

/-! ### Running -/

/-- Hands a built statement to an executor. -/
def send (b : Builder) (executor : Executor) (sql : String) : Ran (Result Outcome) :=
  match b.kind with
  | .select =>
    let reply := executor.ask .query sql b.params.entries
    match reply.outcome with
    | .ok rows => ⟨.ok (.rows rows), b.arm, reply.trace⟩
    | .error error => ⟨.error error, b, reply.trace⟩
  | .insert | .update | .delete | .upsert =>
    let reply := executor.ask .execute sql b.params.entries
    ⟨reply.outcome.map .affected, b, reply.trace⟩

/-- Checks, builds, logs and runs the statement. What the check refuses is neither built nor run. -/
def execute (b : Builder) (executor : Executor) : Ran (Result Outcome) :=
  match b.misuse? with
  | some misuse => ⟨.error misuse.error, b, []⟩
  | none =>
    let (sql, b) := b.build
    let b := b.disarm
    let ran := b.send executor sql
    { ran with trace := (b.statementEvents sql).map .logged ++ ran.trace }

/-- Runs a SELECT for its rows. -/
def fetchAll (b : Builder) (executor : Executor) : Ran (Result (List Row)) :=
  match b.kind with
  | .select =>
    let ran := b.execute executor
    ⟨ran.result.map Outcome.toRows, ran.builder, ran.trace⟩
  | .insert | .update | .delete | .upsert => ⟨.error (Misuse.noRows b.kind).error, b, []⟩

/-- Asks an executor for a count of rows. -/
def askCount (b : Builder) (executor : Executor) (sql : String) (params : List Parameter) :
    Ran (Result Int64) :=
  let reply := executor.ask .queryScalar sql params
  match reply.outcome with
  | .ok count => ⟨.ok count, { b with found.count? := some count }, reply.trace⟩
  | .error error => ⟨.error error, b, reply.trace⟩

/-- The number of rows of the last SELECT without its limit. It is asked for once and then known; if
no count is available it stays unknown. -/
def foundRows (b : Builder) (executor : Executor) : Ran (Result Int64) :=
  match b.found.count?, b.found.pending? with
  | some count, _ => ⟨.ok count, b, []⟩
  | none, none => ⟨.ok b.foundRowsCached, b, []⟩
  | none, some .remembered => b.askCount executor rememberedCountSql []
  | none, some (.counted sql) => b.askCount executor sql b.params.entries

end Builder

end ParamSql
