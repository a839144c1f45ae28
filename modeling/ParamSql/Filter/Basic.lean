import ParamSql.Value.Conversion

/-!
# Filters

A filter is a tree of conditions on columns. It says nothing about SQL: its text is made in
`ParamSql.Filter.Sql`.
-/

namespace ParamSql

/-- How a column is compared with a value. -/
inductive Comparison
  /-- Equal. -/
  | equal
  /-- Different. -/
  | notEqual
  /-- Less. -/
  | less
  /-- Less or equal. -/
  | lessOrEqual
  /-- Greater. -/
  | greater
  /-- Greater or equal. -/
  | greaterOrEqual
  /-- Matching a pattern. -/
  | like
  /-- Not matching a pattern. -/
  | notLike
deriving DecidableEq

/-- The operator of a comparison. -/
def Comparison.sql : Comparison → String
  | equal => "="
  | notEqual => "!="
  | less => "<"
  | lessOrEqual => "<="
  | greater => ">"
  | greaterOrEqual => ">="
  | like => "like"
  | notLike => "not like"

/-- A condition on the columns of a row. -/
inductive Filter
  /-- All of the conditions hold. -/
  | all (children : List Filter)
  /-- At least one of the conditions holds. -/
  | any (children : List Filter)
  /-- A column compares with a value. Comparing with the absent value asks whether the column has
  one. -/
  | compare (column : String) (comparison : Comparison) (value : Value)
  /-- A column equals one of the values. -/
  | oneOf (column : String) (values : List Value)
deriving Inhabited

namespace Filter

/-- **Induction over lists of filters.** What holds of no filter, of each leaf alone, of a group
alone if it holds of its members, and of a filter before others if it holds of both, holds of all
lists of filters. -/
@[elab_as_elim]
theorem list_induction {motive : List Filter → Prop} (nil : motive [])
    (cons : ∀ filter rest, motive [filter] → motive rest → motive (filter :: rest))
    (all : ∀ children, motive children → motive [all children])
    (any : ∀ children, motive children → motive [any children])
    (compare : ∀ column comparison value, motive [compare column comparison value])
    (oneOf : ∀ column values, motive [oneOf column values]) (filters : List Filter) :
    motive filters :=
  @Filter.rec_1 (fun filter ↦ motive [filter]) motive all any compare oneOf nil cons filters

/-! ### Conditions by name -/

variable {α : Type} [ToValue α]

/-- The column equals the value. -/
def equalTo (column : String) (a : α) : Filter :=
  compare column .equal (toValue a)

/-- The column differs from the value. -/
def notEqualTo (column : String) (a : α) : Filter :=
  compare column .notEqual (toValue a)

/-- The column is greater than the value. -/
def greaterThan (column : String) (a : α) : Filter :=
  compare column .greater (toValue a)

/-- The column is at least the value. -/
def atLeast (column : String) (a : α) : Filter :=
  compare column .greaterOrEqual (toValue a)

/-- The column is less than the value. -/
def lessThan (column : String) (a : α) : Filter :=
  compare column .less (toValue a)

/-- The column is at most the value. -/
def atMost (column : String) (a : α) : Filter :=
  compare column .lessOrEqual (toValue a)

/-- The column matches the pattern. -/
def like (column : String) (a : α) : Filter :=
  compare column .like (toValue a)

/-- The column does not match the pattern. -/
def notLike (column : String) (a : α) : Filter :=
  compare column .notLike (toValue a)

/-- The column is null. -/
def isNull (column : String) : Filter :=
  compare column .equal .null

/-- The column is not null. -/
def isNotNull (column : String) : Filter :=
  compare column .notEqual .null

/-- The column equals one of the values. -/
def inList (column : String) (as : List α) : Filter :=
  oneOf column (as.map toValue)

end Filter

end ParamSql
