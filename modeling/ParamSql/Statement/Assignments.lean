/-!
# Assignments

What a statement assigns to columns: a list of columns with an expression each, in the order in
which the columns were first assigned to. Assigning to a column again replaces its expression and
leaves its place.
-/

namespace ParamSql

/-- Columns and the expressions assigned to them. -/
structure Assignments where
  /-- Column and expression, in order. -/
  entries : List (String × String) := []
deriving DecidableEq, Inhabited

namespace Assignments

/-- Whether nothing is assigned. -/
def isEmpty (a : Assignments) : Bool :=
  a.entries.isEmpty

/-- Puts an expression in the place of the column, or at the end if the column is new. -/
def put (column expression : String) : List (String × String) → List (String × String)
  | [] => [(column, expression)]
  | (c, e) :: rest =>
    if c = column then (c, expression) :: rest else (c, e) :: put column expression rest

/-- Assigns an expression to a column. -/
def insert (a : Assignments) (column expression : String) : Assignments :=
  ⟨put column expression a.entries⟩

/-- The expression assigned to a column. -/
def get? (a : Assignments) (column : String) : Option String :=
  a.entries.lookup column

/-- Makes the assignments of the second list after those of the first. -/
def append (a b : Assignments) : Assignments :=
  b.entries.foldl (fun sum (column, expression) ↦ sum.insert column expression) a

/-- All assignments of several lists, made one after the other. -/
def merged (lists : List Assignments) : Assignments :=
  lists.foldl append {}

/-- The assignments as they are written in a statement. -/
def sql (a : Assignments) : String :=
  ", ".intercalate (a.entries.map fun (column, expression) ↦ column ++ " = " ++ expression)

end Assignments

end ParamSql
