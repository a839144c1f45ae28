import ParamSql.Filter.Sql
import ParamSql.Settings.Basic

/-!
# Builders

A builder collects what one statement is to say. Filters are kept as trees until the statement is
built, so the numbers of their parameters follow those of all assignments. Once built, a builder
holds the text of its statement and does not change any more, but for two notes: the first setter
that was called too late, and the count of rows that belongs to the last time it was run.
-/

namespace ParamSql

/-- A statement in the making. -/
structure Builder where
  /-- The kind of statement. -/
  kind : StatementKind
  /-- The alias that columns are qualified with, never an empty one. -/
  alias? : Option String
  /-- The clauses collected so far. -/
  clauses : Clauses
  /-- The values bound so far. -/
  params : Params := {}
  /-- The filters that must all hold. -/
  filters : List Filter := []
  /-- The text of the statement, once it has been built. -/
  built? : Option String := none
  /-- The count of rows that belongs to the last run. -/
  found : FoundRows := {}
  /-- The settings that the builder was made with. -/
  settings : Settings := {}
  /-- The first setter that was called after the statement had been built. -/
  lateSetter? : Option String := none

namespace Builder

/-! ### Construction -/

/-- The alias that a statement uses: none where its kind has none or the alias is empty. -/
def effectiveAlias? (kind : StatementKind) (alias? : Option String) : Option String :=
  alias?.filter fun a ↦ kind.supportsAlias && !a.isEmpty

/-- The clauses of a statement that nothing has been said about but its table. -/
def initialClauses (kind : StatementKind) (table : String) (alias? : Option String) : Clauses :=
  let written := Identifier.bare table
  match kind with
  | .insert | .upsert => { insertTarget := written }
  | .select | .update | .delete =>
    { target := match alias? with
        | some a => written ++ " " ++ a
        | none => written }

/-- The builder of a statement on a table. -/
def create (kind : StatementKind) (table : String) (alias? : Option String) (settings : Settings) :
    Builder :=
  let alias? := effectiveAlias? kind alias?
  { kind, alias?, settings, clauses := initialClauses kind table alias? }

/-- The builder of a statement without an alias and with the default settings. -/
def new (kind : StatementKind) (table : String) : Builder :=
  create kind table none {}

/-- The builder of a statement whose columns are qualified with an alias. -/
def newAs (kind : StatementKind) (table qualifier : String) : Builder :=
  create kind table (some qualifier) {}

/-! ### Views -/

/-- Whether the statement has been built. -/
def isBuilt (b : Builder) : Bool :=
  b.built?.isSome

/-- Where the counts of rows come from. -/
def foundRowsMode (b : Builder) : FoundRowsMode :=
  b.settings.foundRows

/-- A column as this statement writes it. -/
def fieldName (b : Builder) (name : String) : String :=
  Identifier.resolve b.alias? name

/-- The name of the table as it is written, with its alias. -/
def target (b : Builder) : String :=
  match b.kind with
  | .insert | .upsert => b.clauses.insertTarget
  | .select | .update | .delete => b.clauses.target

/-- The statement that counts the rows of this one, if it is a SELECT. Filters are part of it from
the moment on that the statement has been built. -/
def countSql? (b : Builder) : Option String :=
  match b.kind with
  | .select => some b.clauses.countSql
  | _ => none

/-- The number of rows as far as it is known. -/
def foundRowsCached (b : Builder) : Int64 :=
  b.found.cached

end Builder

end ParamSql
