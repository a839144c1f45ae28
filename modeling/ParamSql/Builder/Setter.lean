import ParamSql.Builder.Basic
import ParamSql.Event

/-!
# Setters

Everything that can be said about a statement before it is built, as data: a setter is a value, and
`Builder.apply` says what it does to a builder. Saying something too late changes nothing but is
noted and logged.
-/

namespace ParamSql

/-- The row that an assignment is made to. -/
inductive Occasion
  /-- The row that is written, whichever it is. -/
  | always
  /-- A row that is inserted. -/
  | onInsert
  /-- A row that is updated. -/
  | onUpdate
deriving DecidableEq

/-- Something said about a statement. -/
inductive Setter
  /-- Select further columns. -/
  | select (columns : List String)
  /-- Select a further expression, as it stands. -/
  | addSelect (expression : String)
  /-- Return no row twice, or do. -/
  | distinct (on : Bool)
  /-- Have the number of rows remembered, or not, if counts are to come from there. -/
  | calcFoundRows (on : Bool)
  /-- Assign a value to a column. -/
  | assign (occasion : Occasion) (column : String) (value : Value)
  /-- Assign an expression to a column, as it stands. -/
  | assignRaw (occasion : Occasion) (column expression : String)
  /-- Set the condition on rows, as it stands. It takes the place of all filters. -/
  | whereRaw (sql : String)
  /-- Add a filter. -/
  | filter (condition : Filter)
  /-- Set the order of rows. -/
  | order (columns : List (String × Direction))
  /-- Order rows that are equal so far. -/
  | orderBy (column : String) (direction : Direction)
  /-- Bound the number of rows; a negative bound is none. -/
  | limit (rows : Int64)
  /-- Skip rows; a negative number skips none. -/
  | offset (rows : Int64)

namespace Setter

/-- The name of a setter in messages. -/
def name : Setter → String
  | select _ => "select"
  | addSelect _ => "add_select"
  | distinct _ => "distinct"
  | calcFoundRows _ => "calc_found_rows"
  | assign .always _ _ => "set"
  | assign .onInsert _ _ => "set_insert"
  | assign .onUpdate _ _ => "set_update"
  | assignRaw .always _ _ => "set_raw"
  | assignRaw .onInsert _ _ => "set_insert_raw"
  | assignRaw .onUpdate _ _ => "set_update_raw"
  | whereRaw _ => "where_raw"
  | filter _ => "filter"
  | order _ => "order"
  | orderBy _ _ => "order_by"
  | limit _ => "limit"
  | offset _ => "offset"

/-! ### Several at once -/

/-- Assign a value to each of several columns. -/
def assignEach (pairs : List (String × Value)) : List Setter :=
  pairs.map fun (column, value) ↦ assign .always column value

/-- Return one page of the rows. Pages are counted from one and hold at least one row; a page so far
out that its offset is too large for sixty-four bits is as far out as they reach. -/
def page (number size : Int64) : List Setter :=
  let number := max number.toInt 1
  let size := max size.toInt 1
  [limit (Int64.ofInt size), offset (.ofIntClamp ((number - 1) * size))]

/-- A column and its direction, as they are written. -/
def orderTerm (column : String) (direction : Direction) : String :=
  column ++ " " ++ direction.sql

end Setter

/-! ### Assignments by occasion -/

/-- The clauses after an assignment. -/
def Clauses.insert (c : Clauses) (occasion : Occasion) (column expression : String) : Clauses :=
  match occasion with
  | .always => { c with assigned := c.assigned.insert column expression }
  | .onInsert => { c with assignedOnInsert := c.assignedOnInsert.insert column expression }
  | .onUpdate => { c with assignedOnUpdate := c.assignedOnUpdate.insert column expression }

namespace Builder

/-- The builder after an assignment of a value. The absent value is written out; any other is
bound. -/
def assignValue (b : Builder) (occasion : Occasion) (column : String) (value : Value) : Builder :=
  let (expression, params) :=
    if value.isNull then ("NULL", b.params) else b.params.place value
  { b with params, clauses := b.clauses.insert occasion (b.fieldName column) expression }

/-- What a setter does to a builder that has not been built. -/
def apply (b : Builder) : Setter → Builder
  | .select columns =>
    { b with clauses.columns := b.clauses.columns ++ columns.map b.fieldName }
  | .addSelect expression => { b with clauses.columns := b.clauses.columns ++ [expression] }
  | .distinct on => { b with clauses := b.clauses.toggle distinctKeyword on }
  | .calcFoundRows on =>
    if b.foundRowsMode = .calc then
      { b with clauses := b.clauses.toggle rememberCountKeyword on }
    else b
  | .assign occasion column value => b.assignValue occasion column value
  | .assignRaw occasion column expression =>
    { b with clauses := b.clauses.insert occasion (b.fieldName column) expression }
  | .whereRaw sql => { b with clauses.condition := sql }
  | .filter condition => { b with filters := b.filters ++ [condition] }
  | .order columns =>
    { b with clauses.ordering :=
        columns.map fun (column, direction) ↦ Setter.orderTerm column direction }
  | .orderBy column direction =>
    { b with clauses.ordering := b.clauses.ordering ++ [Setter.orderTerm column direction] }
  | .limit rows => { b with clauses.limit := rows }
  | .offset rows => { b with clauses.offset := if 0 < rows then rows else 0 }

/-- Notes that a setter was called too late; only the first one is remembered. -/
def noteLate (b : Builder) (setter : Setter) : Builder :=
  { b with lateSetter? := some (b.lateSetter?.getD setter.name) }

/-- Calls a setter: on a builder that has been built it has no effect but a warning. -/
def change (b : Builder) (setter : Setter) : Builder × List Event :=
  if b.isBuilt then (b.noteLate setter, [.lateSetter setter.name]) else (b.apply setter, [])

/-- Calls several setters, one after the other. -/
def changeAll (b : Builder) (setters : List Setter) : Builder × List Event :=
  setters.foldl
    (fun (b, events) setter ↦
      let (b, more) := b.change setter
      (b, events ++ more))
    (b, [])

end Builder

end ParamSql
