import ParamSql.Statement.Assemble

/-!
# Counting rows

How many rows a SELECT would return without its limit. Either the database remembers the number
while it runs the SELECT, or a second statement counts.
-/

namespace ParamSql

/-! ### The remembered count -/

/-- The modifier that makes the database remember the number of rows. -/
def rememberCountKeyword : String :=
  "SQL_CALC_FOUND_ROWS"

/-- The modifier that removes repeated rows. -/
def distinctKeyword : String :=
  "DISTINCT"

/-- The query for the remembered number. -/
def rememberedCountSql : String :=
  "SELECT FOUND_ROWS()"

/-! ### The counting statement -/

namespace Clauses

/-- The clauses without order and paging. -/
def unpaged (c : Clauses) : Clauses :=
  { c with ordering := [], limit := -1, offset := 0 }

/-- Whether rows are told apart by explicitly selected columns. -/
def isDistinctSelection (c : Clauses) : Bool :=
  c.hasModifier distinctKeyword && !c.columns.isEmpty

/-- The clauses of the statement that counts the rows of a SELECT. Rows are counted where they come
from, except that a selection of distinct rows is kept whole, as a derived table: only it knows
which rows are the same. -/
def counting (c : Clauses) : Clauses :=
  let base :=
    if c.isDistinctSelection then
      let inner := { c.unpaged with modifiers := [distinctKeyword] }.assemble .select
      { c.unpaged with target := "(" ++ inner ++ ") AS counted", condition := "" }
    else c.unpaged
  { base with modifiers := [], columns := ["COUNT(*)"] }

/-- The statement that counts the rows of a SELECT. -/
def countSql (c : Clauses) : String :=
  c.counting.assemble .select

end Clauses

/-! ### The state of a count -/

/-- Where the number of rows comes from. -/
inductive FoundRowsMode
  /-- It is never asked for. -/
  | off
  /-- The database remembers it. -/
  | calc
  /-- A second statement counts. -/
  | query
deriving DecidableEq, Inhabited

/-- A count that can be asked for. -/
inductive PendingCount
  /-- The number that the database remembers. -/
  | remembered
  /-- The answer to a counting statement. -/
  | counted (sql : String)
deriving DecidableEq

/-- What is known of the rows of the last SELECT. -/
structure FoundRows where
  /-- The count that can be asked for. -/
  pending? : Option PendingCount := none
  /-- The number, once it has been asked for. -/
  count? : Option Int64 := none
deriving DecidableEq, Inhabited

namespace FoundRows

/-- The number that stands for "not known". -/
def unknown : Int64 :=
  -1

/-- Forgets what is known and makes another count available, or none. -/
def armed (pending? : Option PendingCount) : FoundRows :=
  { pending? }

/-- The number as far as it is known. -/
def cached (f : FoundRows) : Int64 :=
  f.count?.getD unknown

end FoundRows

end ParamSql
