import ParamSql.Proofs.Builder.Steps

/-!
# Blanked values

What is left of filters, parameters, setters and builders when the values in them are blanked. Of a
value that is assigned or compared with, it stays visible whether it is the absent one, since the
absent value is written out; of a value that is listed or bound, nothing does.

Everything that a builder does before it is run commutes with blanking: it makes no difference
whether values are blanked at the beginning or at the end (`apply_blank`, `build_blank`), and the
texts that come out are the same. So two builders that agree once they are blanked stay so, and
their texts agree.
-/

namespace ParamSql

/-! ### Values and filters -/

namespace Value

/-- The value that stands for any other. -/
def stub : Value :=
  .bool false

/-- The value, of which only its absence stays visible. -/
def blank (v : Value) : Value :=
  if v.isNull then .null else stub

@[simp]
theorem isNull_blank (v : Value) : v.blank.isNull = v.isNull := by
  cases v <;> rfl

/-- A value that is present is blanked completely. -/
theorem blank_of_isNull_eq_false {v : Value} (h : v.isNull = false) : v.blank = stub := by
  rw [blank, h]
  rfl

end Value

namespace Filter

mutual

/-- The filter with its literals blanked, and its lists reduced to their lengths. -/
def blank : Filter → Filter
  | all children => all (blankIn children)
  | any children => any (blankIn children)
  | compare column comparison literal => compare column comparison literal.blank
  | oneOf column values => oneOf column (values.map fun _ ↦ Value.stub)

/-- Several filters with their values blanked. -/
def blankIn : List Filter → List Filter
  | [] => []
  | filter :: rest => filter.blank :: blankIn rest

end

theorem blankIn_append (first second : List Filter) :
    blankIn (first ++ second) = blankIn first ++ blankIn second := by
  induction first with
  | nil => rfl
  | cons filter first ih => rw [List.cons_append, blankIn, blankIn, ih, List.cons_append]

/-- As many values are bound as before. -/
theorem boundIn_blankIn (filters : List Filter) :
    boundIn (blankIn filters) = (boundIn filters).map fun _ ↦ Value.stub := by
  induction filters using list_induction with
  | nil => rfl
  | cons filter rest hfirst hrest =>
    simp only [blankIn, boundIn, List.append_nil] at hfirst ⊢
    rw [hfirst, hrest, List.map_append]
  | all children ih | any children ih =>
    simpa only [blankIn, blank, boundIn, bound, List.append_nil] using ih
  | compare column comparison literal =>
    simp only [blankIn, blank, boundIn, bound, List.append_nil, Value.isNull_blank]
    cases hnull : literal.isNull with
    | true => rfl
    | false =>
      rw [if_neg Bool.false_ne_true, if_neg Bool.false_ne_true,
        Value.blank_of_isNull_eq_false hnull]
      rfl
  | oneOf column values => simp only [blankIn, blank, boundIn, bound, List.append_nil]

/-- The text of a comparison shows of its literal whether it is absent. -/
theorem comparisonSql_blank (column : String) (comparison : Comparison) (literal : Value)
    (start : Nat) :
    comparisonSql column comparison literal.blank start =
      comparisonSql column comparison literal start := by
  simp only [comparisonSql, Value.isNull_blank]

/-- **The texts of filters do not depend on the values in them**, beyond what blanking leaves. -/
theorem texts_blankIn (alias? : Option String) (start : Nat) (filters : List Filter) :
    texts alias? start (blankIn filters) = texts alias? start filters := by
  induction filters using list_induction generalizing start with
  | nil => rfl
  | cons filter rest hfirst hrest =>
    have hbound := congrArg List.length (boundIn_blankIn [filter])
    simp only [blankIn, boundIn, List.append_nil, List.length_map] at hbound
    simp only [blankIn, texts, List.append_nil] at hfirst ⊢
    rw [hfirst, hbound, hrest]
  | all children ih | any children ih => simp only [blankIn, blank, texts, sql?, ih]
  | compare column comparison literal =>
    simp only [blankIn, blank, texts, sql?, comparisonSql_blank]
  | oneOf column values => simp only [blankIn, blank, texts, sql?, List.length_map]

end Filter

/-! ### Parameters -/

/-- The parameter without its value. -/
def Parameter.blank (p : Parameter) : Parameter :=
  { p with value := .stub }

namespace Params

/-- The parameters without their values. -/
def blank (ps : Params) : Params :=
  { ps with entries := ps.entries.map Parameter.blank }

theorem bind_blank (ps : Params) (value : Value) :
    (ps.bind value).blank = ps.blank.bind .stub := by
  rw [blank, bind_entries, List.map_append]
  rfl

theorem bindAll_blank (ps : Params) (values : List Value) :
    (ps.bindAll values).blank = ps.blank.bindAll (values.map fun _ ↦ Value.stub) := by
  induction values generalizing ps with
  | nil => rfl
  | cons value values ih => rw [bindAll_cons, ih, bind_blank, List.map_cons, bindAll_cons]

end Params

/-- Compiling binds blanked values in blanked parameters, and writes the same text. -/
theorem Filter.compileAll_blank (filters : List Filter) (alias? : Option String) (ps : Params) :
    compileAll (blankIn filters) alias? ps.blank =
      ((compileAll filters alias? ps).1, (compileAll filters alias? ps).2.blank) := by
  rw [compileAll, compileAll, boundIn_blankIn, Params.bindAll_blank]
  exact congrArg (·, _) (congrArg _ (texts_blankIn alias? ps.next filters))

/-! ### Setters -/

/-- The setter with the values in it blanked. -/
def Setter.blank : Setter → Setter
  | assign occasion column value => assign occasion column value.blank
  | filter condition => filter condition.blank
  | setter => setter

theorem Setter.name_blank (setter : Setter) : setter.blank.name = setter.name := by
  cases setter
  case assign occasion _ _ => cases occasion <;> rfl
  all_goals rfl

/-! ### Builders -/

namespace Builder

/-- The builder with the values in it blanked. -/
def blank (b : Builder) : Builder :=
  { b with params := b.params.blank, filters := Filter.blankIn b.filters }

theorem assignValue_blank (b : Builder) (occasion : Occasion) (column : String) (value : Value) :
    (b.assignValue occasion column value).blank =
      b.blank.assignValue occasion column value.blank := by
  unfold assignValue
  rw [Value.isNull_blank]
  cases hnull : value.isNull with
  | true => rfl
  | false =>
    rw [Value.blank_of_isNull_eq_false hnull]
    simp only [Bool.false_eq_true, if_false, Params.place, blank, Params.bind_blank]
    rfl

/-- **Setters commute with blanking.** -/
theorem apply_blank (b : Builder) (setter : Setter) :
    (b.apply setter).blank = b.blank.apply setter.blank := by
  cases setter with
  | assign occasion column value => exact assignValue_blank b occasion column value
  | filter condition =>
    show Builder.mk .. = Builder.mk ..
    simp only [apply, blank, Filter.blankIn_append]
    rfl
  | calcFoundRows on =>
    simp only [apply, show b.blank.foundRowsMode = b.foundRowsMode from rfl]
    split <;> rfl
  | select | addSelect | distinct | assignRaw | whereRaw | order | orderBy | limit | offset => rfl

/-- A setter that is called too late leaves the same note and the same warning. -/
theorem change_blank (b : Builder) (setter : Setter) :
    b.blank.change setter.blank = ((b.change setter).1.blank, (b.change setter).2) := by
  unfold change
  rw [show b.blank.isBuilt = b.isBuilt from rfl, noteLate, noteLate, setter.name_blank]
  split
  · rfl
  · rw [apply_blank]

theorem changeAll_blank (b : Builder) (setters : List Setter) :
    b.blank.changeAll (setters.map Setter.blank) =
      ((b.changeAll setters).1.blank, (b.changeAll setters).2) := by
  induction setters generalizing b with
  | nil => rfl
  | cons setter setters ih => rw [List.map_cons, changeAll_cons, changeAll_cons, change_blank, ih]

theorem withFilters_blank (b : Builder) : b.blank.withFilters = b.withFilters.blank := by
  unfold withFilters
  rw [show b.blank.clauses = b.clauses from rfl]
  split
  · simp only [blank, Filter.compileAll_blank]
  · rfl

/-- **Building commutes with blanking**, and the text is the same. -/
theorem build_blank (b : Builder) : b.blank.build = (b.build.1, b.build.2.blank) := by
  unfold build
  rw [show b.blank.built? = b.built? from rfl]
  cases b.built? with
  | some sql => rfl
  | none =>
    simp only [withFilters_blank]
    rfl

end Builder

end ParamSql
