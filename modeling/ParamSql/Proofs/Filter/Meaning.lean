import ParamSql.Identifier.Basic
import ParamSql.Proofs.Condition.Truth

/-!
# The meaning of filters

What a filter demands of a row, said on the tree itself and without any text. Groups are
conjunctions and disjunctions of their children in three-valued logic. A group without a comparison
or a membership anywhere below it counts as absent: it is no part of the group around it, not even
as the empty conjunction or disjunction.
-/

namespace ParamSql.Filter

/-! ### Leaves -/

mutual

/-- Whether there is a comparison or a membership in a filter. -/
def hasLeaf : Filter → Bool
  | all children => anyLeaf children
  | any children => anyLeaf children
  | compare .. => true
  | oneOf .. => true

/-- Whether there is a comparison or a membership in one of several filters. -/
def anyLeaf : List Filter → Bool
  | [] => false
  | filter :: rest => filter.hasLeaf || anyLeaf rest

end

mutual

/-- The columns that a filter names, from left to right. -/
def columns : Filter → List String
  | all children => columnsIn children
  | any children => columnsIn children
  | compare column _ _ => [column]
  | oneOf column _ => [column]

/-- The columns that several filters name. -/
def columnsIn : List Filter → List String
  | [] => []
  | filter :: rest => filter.columns ++ columnsIn rest

end

/-! ### Truth -/

/-- The truth of a comparison with a literal. Equality with the absent value asks whether there is a
value; any other comparison with it is the comparison of the logic, which cannot hold. -/
def literalTruth (collation : Collation) (a : Value) (comparison : Comparison) (literal : Value) :
    Truth :=
  match comparison, literal with
  | .equal, .null => .ofBool a.isNull
  | .notEqual, .null => .ofBool !a.isNull
  | comparison, literal => collation.truth comparison a literal

mutual

/-- The truth of a filter for a row, given by the values of its resolved columns. -/
def truth (collation : Collation) (row : String → Value) (alias? : Option String) : Filter → Truth
  | all children => .all (truths collation row alias? children)
  | any children => .any (truths collation row alias? children)
  | compare column comparison literal =>
    literalTruth collation (row (Identifier.resolve alias? column)) comparison literal
  | oneOf column values =>
    collation.memberTruth (row (Identifier.resolve alias? column)) values

/-- The truths of those of several filters that are not absent. -/
def truths (collation : Collation) (row : String → Value) (alias? : Option String) :
    List Filter → List Truth
  | [] => []
  | filter :: rest =>
    if filter.hasLeaf then
      filter.truth collation row alias? :: truths collation row alias? rest
    else truths collation row alias? rest

end

variable {collation : Collation} {row : String → Value} {alias? : Option String}

/-- Nothing is demanded exactly where all filters are absent. -/
theorem truths_eq_nil_iff {filters : List Filter} :
    truths collation row alias? filters = [] ↔ anyLeaf filters = false := by
  induction filters with
  | nil => simp [truths, anyLeaf]
  | cons filter rest ih =>
    rw [truths, anyLeaf]
    cases hleaf : filter.hasLeaf with
    | true => simp
    | false => simpa using ih

/-- A comparison with a literal that is present is the comparison of the logic. -/
theorem literalTruth_of_isNull_eq_false {a literal : Value} (h : literal.isNull = false)
    (comparison : Comparison) :
    literalTruth collation a comparison literal = collation.truth comparison a literal := by
  unfold literalTruth
  split
  · exact absurd h (by decide)
  · exact absurd h (by decide)
  · rfl

end ParamSql.Filter
