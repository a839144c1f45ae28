import ParamSql.Statement.Assignments

/-!
# Collected clauses

The fragments of a statement before it is put together. A clause is absent where its fragment is
empty, the limit is negative or the offset is zero; which fragments a statement uses depends on its
kind.
-/

namespace ParamSql

/-- The fragments of one statement. -/
structure Clauses where
  /-- Keywords between `SELECT` and the columns, without repetition. -/
  modifiers : List String := []
  /-- The selected columns and expressions. -/
  columns : List String := []
  /-- What is assigned whether a row is inserted or updated. -/
  assigned : Assignments := {}
  /-- What is assigned only to an inserted row. -/
  assignedOnInsert : Assignments := {}
  /-- What is assigned only to an updated row. -/
  assignedOnUpdate : Assignments := {}
  /-- Columns with their directions. -/
  ordering : List String := []
  /-- The condition on rows. -/
  condition : String := ""
  /-- What is selected from, updated or deleted from, with its alias. -/
  target : String := ""
  /-- What is inserted into. -/
  insertTarget : String := ""
  /-- How many rows are skipped. -/
  offset : Int64 := 0
  /-- How many rows are returned at most, if not negative. -/
  limit : Int64 := -1
deriving DecidableEq, Inhabited

namespace Clauses

/-! ### Select modifiers -/

/-- Whether a keyword is among the modifiers. -/
def hasModifier (c : Clauses) (keyword : String) : Bool :=
  c.modifiers.contains keyword

/-- Switches a keyword on, at the end of the modifiers unless it is there, or off. -/
def toggle (c : Clauses) (keyword : String) (on : Bool) : Clauses :=
  if on then
    if c.hasModifier keyword then c else { c with modifiers := c.modifiers ++ [keyword] }
  else { c with modifiers := c.modifiers.filter (· != keyword) }

end Clauses

end ParamSql
