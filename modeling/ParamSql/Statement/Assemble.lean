import ParamSql.Statement.Clauses

/-!
# Statements

The kinds of statement, and how the clauses of one are put together. A statement is a list of
clauses in the order that its kind demands, each written on its own and separated by a blank.
-/

namespace ParamSql

/-! ### Kinds -/

/-- The kinds of statement. -/
inductive StatementKind
  /-- Returns rows. -/
  | select
  /-- Adds a row. -/
  | insert
  /-- Changes rows. -/
  | update
  /-- Removes rows. -/
  | delete
  /-- Adds a row, or changes the row that has its key. -/
  | upsert
deriving DecidableEq

namespace StatementKind

/-- The name of a kind, for messages. -/
def name : StatementKind → String
  | select => "SELECT"
  | insert => "INSERT"
  | update => "UPDATE"
  | delete => "DELETE"
  | upsert => "UPSERT"

/-- Whether the target can have an alias. A statement that inserts has none. -/
def supportsAlias : StatementKind → Bool
  | select | update | delete => true
  | insert | upsert => false

end StatementKind

/-- The direction of an ordering. -/
inductive Direction
  /-- Least first. -/
  | ascending
  /-- Greatest first. -/
  | descending
deriving DecidableEq

/-- The keyword of a direction. -/
def Direction.sql : Direction → String
  | ascending => "ASC"
  | descending => "DESC"

/-! ### Clauses as they are written -/

/-- One clause of a statement. -/
inductive Clause
  /-- What is selected. -/
  | select (modifiers columns : List String)
  /-- Where it is selected from. -/
  | source (target : String)
  /-- The head of an insertion. -/
  | insertInto (target : String)
  /-- The head of an update. -/
  | update (target : String)
  /-- The head of a deletion. -/
  | deleteFrom (target : String)
  /-- Assignments. -/
  | assign (assignments : Assignments)
  /-- Assignments to the row that is already there. -/
  | onDuplicateKey (assignments : Assignments)
  /-- The condition on rows. -/
  | condition (sql : String)
  /-- The order of rows. -/
  | ordering (terms : List String)
  /-- The greatest number of rows. -/
  | limit (rows : Nat)
  /-- The number of rows skipped. -/
  | offset (rows : Nat)

/-- The text of a clause. All columns are selected where none is named. -/
def Clause.sql : Clause → String
  | select modifiers columns =>
    let list := if columns.isEmpty then "*" else ", ".intercalate columns
    " ".intercalate ("SELECT" :: modifiers ++ [list])
  | source target => "FROM " ++ target
  | insertInto target => "INSERT INTO " ++ target
  | update target => "UPDATE " ++ target
  | deleteFrom target => "DELETE FROM " ++ target
  | assign assignments => "SET " ++ assignments.sql
  | onDuplicateKey assignments => "ON DUPLICATE KEY UPDATE " ++ assignments.sql
  | condition sql => "WHERE " ++ sql
  | ordering terms => "ORDER BY " ++ ", ".intercalate terms
  | limit rows => "LIMIT " ++ Nat.repr rows
  | offset rows => "OFFSET " ++ Nat.repr rows

/-! ### The clauses of a statement -/

namespace Clauses

/-- The clauses that a kind begins with. -/
def head (kind : StatementKind) (c : Clauses) : List Clause :=
  match kind with
  | .select => [.select c.modifiers c.columns, .source c.target]
  | .insert | .upsert => [.insertInto c.insertTarget]
  | .update => [.update c.target]
  | .delete => [.deleteFrom c.target]

/-- What a kind assigns to the row that it writes. What is assigned in either case overrides what is
assigned to an inserted row, and is overridden by what is assigned to an updated one. -/
def written (kind : StatementKind) (c : Clauses) : Assignments :=
  match kind with
  | .insert | .upsert => .merged [c.assignedOnInsert, c.assigned]
  | .update => .merged [c.assigned, c.assignedOnUpdate]
  | .select | .delete => {}

/-- What a kind assigns to the row that is already there. -/
def overwritten (kind : StatementKind) (c : Clauses) : Assignments :=
  match kind with
  | .upsert => .merged [c.assigned, c.assignedOnUpdate]
  | _ => {}

/-- The number that stands for "all rows": there is no way to skip rows without a limit. -/
def allRows : Nat :=
  18446744073709551615

/-- The limit that is written: the one asked for, or all rows if only an offset is. -/
def writtenLimit? (c : Clauses) : Option Nat :=
  if 0 ≤ c.limit then some c.limit.toInt.toNat
  else if 0 < c.offset then some allRows
  else none

/-- The offset that is written. -/
def writtenOffset? (c : Clauses) : Option Nat :=
  if 0 < c.offset then some c.offset.toInt.toNat else none

/-- The assignments in a clause, or no clause if there are none. -/
def assignmentClause (clause : Assignments → Clause) (assignments : Assignments) : List Clause :=
  if assignments.isEmpty then [] else [clause assignments]

/-- The clauses of a statement of the given kind, in order. -/
def arranged (kind : StatementKind) (c : Clauses) : List Clause :=
  c.head kind ++
  assignmentClause .assign (c.written kind) ++
  assignmentClause .onDuplicateKey (c.overwritten kind) ++
  (if c.condition.isEmpty then [] else [.condition c.condition]) ++
  (if c.ordering.isEmpty then [] else [.ordering c.ordering]) ++
  (c.writtenLimit?.map Clause.limit).toList ++
  (c.writtenOffset?.map Clause.offset).toList

/-- The text of a statement of the given kind. -/
def assemble (kind : StatementKind) (c : Clauses) : String :=
  " ".intercalate ((c.arranged kind).map Clause.sql)

end Clauses

end ParamSql
