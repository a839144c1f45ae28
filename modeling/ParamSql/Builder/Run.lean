import ParamSql.Builder.Execution

/-!
# Runs of a builder

Everything that can be done with a builder, as data, and what a sequence of such steps comes to.
Each step that may reach an executor brings its own, so a run covers every behaviour of a database
over time.
-/

namespace ParamSql

/-- Something done with a builder. -/
inductive Step
  /-- Call setters, one after the other. -/
  | change (setters : List Setter)
  /-- Build the statement. -/
  | build
  /-- Build the statement and show it with its values. -/
  | debugSql (escaper : Escaper)
  /-- Check the builder. -/
  | validate
  /-- Show the counting statement. -/
  | countSql
  /-- Run the statement. -/
  | execute (executor : Executor)
  /-- Run the statement for its rows. -/
  | fetchAll (executor : Executor)
  /-- Ask for the number of rows. -/
  | foundRows (executor : Executor)
  /-- Show the number of rows as far as it is known. -/
  | foundRowsCached

/-- What a step answers. -/
inductive StepResult
  /-- Nothing. -/
  | done
  /-- A statement. -/
  | sql (text : String)
  /-- A statement, or none. -/
  | sql? (text? : Option String)
  /-- Whether the check was passed. -/
  | checked (result : Result Unit)
  /-- What came of running the statement. -/
  | outcome (result : Result Outcome)
  /-- The rows of the statement. -/
  | rows (result : Result (List Row))
  /-- The number of rows. -/
  | count (result : Result Int64)
  /-- The number of rows as far as it is known. -/
  | cached (count : Int64)

namespace Ran

/-- The same with another form of result. -/
def map {α β : Type} (f : α → β) (ran : Ran α) : Ran β :=
  { result := f ran.result, builder := ran.builder, trace := ran.trace }

end Ran

namespace Builder

/-- Does one step. -/
def step (b : Builder) : Step → Ran StepResult
  | .change setters =>
    let (b, events) := b.changeAll setters
    ⟨.done, b, events.map .logged⟩
  | .build =>
    let (text, b) := b.build
    ⟨.sql text, b, []⟩
  | .debugSql escaper =>
    let (text, b) := b.debugSql escaper
    ⟨.sql text, b, []⟩
  | .validate => ⟨.checked b.validate, b, []⟩
  | .countSql => ⟨.sql? b.countSql?, b, []⟩
  | .execute executor => (b.execute executor).map .outcome
  | .fetchAll executor => (b.fetchAll executor).map .rows
  | .foundRows executor => (b.foundRows executor).map .count
  | .foundRowsCached => ⟨.cached b.foundRowsCached, b, []⟩

/-- Does several steps, and answers with what each of them came to. -/
def run (b : Builder) : List Step → List (Ran StepResult)
  | [] => []
  | step :: rest =>
    let ran := b.step step
    ran :: run ran.builder rest

end Builder

end ParamSql
