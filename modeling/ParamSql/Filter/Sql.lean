import ParamSql.Filter.Basic
import ParamSql.Identifier.Basic
import ParamSql.Param.Basic

/-!
# The SQL of filters

A filter is written as a condition in which placeholders stand for its values. The work is split in
two: `Filter.bound` lists the values in the order in which their placeholders come in the text, and
`Filter.sql?` writes the text, given the number of the first placeholder. Compiling a filter against
the parameters of a statement puts the two together.

A group of conditions is written between one pair of parentheses, so its reading never rests on
precedence. A group without any condition below it has no text, and drops out of the group around
it. Ordering a column against the absent value, and membership in an empty list, can never hold;
both are written as a condition that is always false.
-/

namespace ParamSql.Filter

/-- The condition that no row meets. -/
def alwaysFalse : String :=
  "1 = 0"

/-! ### Values -/

mutual

/-- The values of a filter that are bound, in the order of their placeholders. The absent value is
written out where it is compared with, and bound where it is listed. -/
def bound : Filter → List Value
  | all children => boundIn children
  | any children => boundIn children
  | compare _ _ value => if value.isNull then [] else [value]
  | oneOf _ values => values

/-- The bound values of several filters, one filter after the other. -/
def boundIn : List Filter → List Value
  | [] => []
  | filter :: rest => filter.bound ++ boundIn rest

end

/-! ### Texts -/

/-- The text of a group: its conditions between parentheses, or nothing if there are none. -/
def group? (separator : String) (texts : List String) : Option String :=
  if texts.isEmpty then none else some ("(" ++ separator.intercalate texts ++ ")")

/-- The text of a comparison with a value that is bound under the number `start`. -/
def comparisonSql (column : String) (comparison : Comparison) (value : Value) (start : Nat) :
    String :=
  if value.isNull then
    match comparison with
    | .equal => column ++ " is null"
    | .notEqual => column ++ " is not null"
    | _ => alwaysFalse
  else column ++ " " ++ comparison.sql ++ " " ++ Params.placeholderAt start

/-- The text of membership in a list of `count` values that are bound under the numbers from
`start` on. -/
def membershipSql (column : String) (count start : Nat) : String :=
  if count = 0 then alwaysFalse
  else
    let placeholders := (List.range' start count).map Params.placeholderAt
    column ++ " in (" ++ ", ".intercalate placeholders ++ ")"

mutual

/-- The text of a filter whose values are bound under the numbers from `start` on, columns being
resolved against the alias; nothing if there is no condition in it. -/
def sql? (alias? : Option String) : (start : Nat) → Filter → Option String
  | start, all children => group? " and " (texts alias? start children)
  | start, any children => group? " or " (texts alias? start children)
  | start, compare column comparison value =>
    some (comparisonSql (Identifier.resolve alias? column) comparison value start)
  | start, oneOf column values =>
    some (membershipSql (Identifier.resolve alias? column) values.length start)

/-- The texts of those of several filters that have one. -/
def texts (alias? : Option String) : (start : Nat) → List Filter → List String
  | _, [] => []
  | start, filter :: rest =>
    (sql? alias? start filter).toList ++ texts alias? (start + filter.bound.length) rest

end

/-! ### Compilation -/

/-- Writes a filter and binds its values. The text is empty if there is no condition in it. -/
def compile (filter : Filter) (alias? : Option String) (params : Params) : String × Params :=
  ((filter.sql? alias? params.next).getD "", params.bindAll filter.bound)

/-- Writes several filters that must all hold and binds their values. The text is empty if there is
no condition in them. -/
def compileAll (filters : List Filter) (alias? : Option String) (params : Params) :
    String × Params :=
  (" and ".intercalate (texts alias? params.next filters), params.bindAll (boundIn filters))

/-! ### Forms of conditions

Whatever is made of conditions along with their texts takes the same forms as these. -/

section Forms

variable {α β : Type}

/-- One of four things, by how a comparison with a value is written: asking whether the column is
absent, asking whether it is present, never holding, and comparing with a value that is bound. -/
def ofComparison (comparison : Comparison) (value : Value) (absent present never compared : α) :
    α :=
  if value.isNull then
    match comparison with
    | .equal => absent
    | .notEqual => present
    | _ => never
  else compared

/-- One of two things, by how membership in a list of `count` values is written. -/
def ofMembership (count : Nat) (never listed : α) : α :=
  if count = 0 then never else listed

theorem comparisonSql_eq (column : String) (comparison : Comparison) (value : Value)
    (start : Nat) :
    comparisonSql column comparison value start =
      ofComparison comparison value (column ++ " is null") (column ++ " is not null") alwaysFalse
        (column ++ " " ++ comparison.sql ++ " " ++ Params.placeholderAt start) :=
  rfl

theorem membershipSql_eq (column : String) (count start : Nat) :
    membershipSql column count start =
      ofMembership count alwaysFalse (column ++ " in (" ++
        ", ".intercalate ((List.range' start count).map Params.placeholderAt) ++ ")") :=
  rfl

/-- What is related form by form is related. -/
theorem ofComparison_rel {R : α → β → Prop} {comparison : Comparison} {value : Value}
    {absent present never compared : α} {absent' present' never' compared' : β}
    (habsent : R absent absent') (hpresent : R present present') (hnever : R never never')
    (hcompared : value.isNull = false → R compared compared') :
    R (ofComparison comparison value absent present never compared)
      (ofComparison comparison value absent' present' never' compared') := by
  unfold ofComparison
  cases hnull : value.isNull with
  | true => cases comparison <;> assumption
  | false => exact hcompared hnull

theorem ofMembership_rel {R : α → β → Prop} {count : Nat} {never listed : α}
    {never' listed' : β} (hnever : R never never') (hlisted : R listed listed') :
    R (ofMembership count never listed) (ofMembership count never' listed') := by
  unfold ofMembership
  split
  · exact hnever
  · exact hlisted

end Forms

end ParamSql.Filter
