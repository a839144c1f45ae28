import ParamSql.Proofs.Identifier.Resolve
import ParamSql.Proofs.Builder.Effect
import Mathlib.Data.List.Forall2

/-!
# Resolved columns

It makes no difference whether a column is given by its name or by what the name is resolved to,
wherever columns are given: in the list of a SELECT, in an assignment, in a filter. Two runs that
differ in nothing else come to the same at every step (`run_respelled`).

What the two runs share is the builder with all columns of its filters resolved. Nothing that is
done with a builder can tell it from the builder itself, since each column is resolved anew when it
is written, and resolving a resolved name changes nothing (`step_resolved`). Steps that give the
same columns become one and the same step once their columns are resolved, so the builders keep
agreeing.

The columns of an order are not among them: they are written as they are given.
-/

namespace ParamSql

/-! ### Spellings -/

/-- One column given twice: the second time by the same name, or by the resolved one. -/
def Identifier.SameColumn (alias? : Option String) (name other : String) : Prop :=
  other = name ∨ other = resolve alias? name

theorem Identifier.SameColumn.resolve_eq {alias? : Option String} {name other : String}
    (h : SameColumn alias? name other) : resolve alias? name = resolve alias? other := by
  rcases h with rfl | rfl
  · rfl
  · exact (resolve_resolve alias? name).symm

open Identifier (SameColumn)

mutual

/-- Filters that are the same, but that the second one may give columns by their resolved names. -/
inductive Filter.Respelled (alias? : Option String) : Filter → Filter → Prop
  /-- All of the conditions, each of them respelled. -/
  | all {children others : List Filter} :
      RespelledIn alias? children others → Respelled alias? (.all children) (.all others)
  /-- One of the conditions, each of them respelled. -/
  | any {children others : List Filter} :
      RespelledIn alias? children others → Respelled alias? (.any children) (.any others)
  /-- A comparison of the same column. -/
  | compare {column other : String} (comparison : Comparison) (value : Value) :
      SameColumn alias? column other →
      Respelled alias? (.compare column comparison value) (.compare other comparison value)
  /-- Membership of the same column. -/
  | oneOf {column other : String} (values : List Value) :
      SameColumn alias? column other →
      Respelled alias? (.oneOf column values) (.oneOf other values)

/-- Lists of filters that are respelled one by one. -/
inductive Filter.RespelledIn (alias? : Option String) : List Filter → List Filter → Prop
  /-- No filters. -/
  | nil : RespelledIn alias? [] []
  /-- A filter before others. -/
  | cons {filter other : Filter} {rest others : List Filter} :
      Respelled alias? filter other → RespelledIn alias? rest others →
      RespelledIn alias? (filter :: rest) (other :: others)

end

/-- Setters that say the same, but that the second one may give columns by their resolved names. -/
inductive Setter.Respelled (alias? : Option String) : Setter → Setter → Prop
  /-- The same columns are selected. -/
  | select {columns others : List String} :
      List.Forall₂ (SameColumn alias?) columns others →
      Respelled alias? (.select columns) (.select others)
  /-- The same column is assigned the same value. -/
  | assign {column other : String} (occasion : Occasion) (value : Value) :
      SameColumn alias? column other →
      Respelled alias? (.assign occasion column value) (.assign occasion other value)
  /-- The same column is assigned the same expression. -/
  | assignRaw {column other : String} (occasion : Occasion) (expression : String) :
      SameColumn alias? column other →
      Respelled alias? (.assignRaw occasion column expression)
        (.assignRaw occasion other expression)
  /-- A filter of the same columns is added. -/
  | filter {condition other : Filter} :
      condition.Respelled alias? other → Respelled alias? (.filter condition) (.filter other)
  /-- The very same is said. -/
  | same (setter : Setter) : Respelled alias? setter setter

/-- Steps that are the same, but that setters in the second one may give columns by their resolved
names. -/
inductive Step.Respelled (alias? : Option String) : Step → Step → Prop
  /-- Setters that say the same are called. -/
  | change {setters others : List Setter} :
      List.Forall₂ (Setter.Respelled alias?) setters others →
      Respelled alias? (.change setters) (.change others)
  /-- The very same is done. -/
  | same (step : Step) : Respelled alias? step step

/-- What cannot tell related elements apart cannot tell lists of them apart. -/
theorem map_eq_map_of_forall₂ {α β : Type} {R : α → α → Prop} {f : α → β} {as bs : List α}
    (hf : ∀ a b, R a b → f a = f b) (h : List.Forall₂ R as bs) : as.map f = bs.map f := by
  induction h with
  | nil => rfl
  | cons hab _ ih => rw [List.map_cons, List.map_cons, hf _ _ hab, ih]

/-! ### Filters -/

namespace Filter

mutual

/-- The filter with all columns in it resolved. -/
def resolved (alias? : Option String) : Filter → Filter
  | all children => all (resolvedIn alias? children)
  | any children => any (resolvedIn alias? children)
  | compare column comparison value =>
    compare (Identifier.resolve alias? column) comparison value
  | oneOf column values => oneOf (Identifier.resolve alias? column) values

/-- Several filters with all columns in them resolved. -/
def resolvedIn (alias? : Option String) : List Filter → List Filter
  | [] => []
  | filter :: rest => filter.resolved alias? :: resolvedIn alias? rest

end

theorem resolvedIn_append (alias? : Option String) (first second : List Filter) :
    resolvedIn alias? (first ++ second) = resolvedIn alias? first ++ resolvedIn alias? second := by
  induction first with
  | nil => rfl
  | cons filter first ih => rw [List.cons_append, resolvedIn, resolvedIn, ih, List.cons_append]

mutual

theorem Respelled.resolved_eq {alias? : Option String} : ∀ {filter other : Filter},
    filter.Respelled alias? other → filter.resolved alias? = other.resolved alias?
  | _, _, .all h => by rw [resolved, resolved, h.resolvedIn_eq]
  | _, _, .any h => by rw [resolved, resolved, h.resolvedIn_eq]
  | _, _, .compare _ _ h => by rw [resolved, resolved, h.resolve_eq]
  | _, _, .oneOf _ h => by rw [resolved, resolved, h.resolve_eq]

theorem RespelledIn.resolvedIn_eq {alias? : Option String} : ∀ {filters others : List Filter},
    RespelledIn alias? filters others → resolvedIn alias? filters = resolvedIn alias? others
  | _, _, .nil => rfl
  | _, _, .cons h hrest => by rw [resolvedIn, resolvedIn, h.resolved_eq, hrest.resolvedIn_eq]

end

/-- The same values are bound. -/
theorem boundIn_resolvedIn (alias? : Option String) (filters : List Filter) :
    boundIn (resolvedIn alias? filters) = boundIn filters := by
  induction filters using list_induction with
  | nil => rfl
  | cons filter rest hfirst hrest =>
    simp only [resolvedIn, boundIn, List.append_nil] at hfirst ⊢
    rw [hfirst, hrest]
  | all children ih | any children ih => simp only [resolvedIn, resolved, boundIn, bound, ih]
  | compare | oneOf => rfl

/-- **The same texts are written.** -/
theorem texts_resolvedIn (alias? : Option String) (start : Nat) (filters : List Filter) :
    texts alias? start (resolvedIn alias? filters) = texts alias? start filters := by
  induction filters using list_induction generalizing start with
  | nil => rfl
  | cons filter rest hfirst hrest =>
    have hbound := boundIn_resolvedIn alias? [filter]
    simp only [resolvedIn, boundIn, List.append_nil] at hbound
    simp only [resolvedIn, texts, List.append_nil] at hfirst ⊢
    rw [hfirst, hbound, hrest]
  | all children ih | any children ih => simp only [resolvedIn, resolved, texts, sql?, ih]
  | compare | oneOf =>
    simp only [resolvedIn, resolved, texts, sql?, Identifier.resolve_resolve]

theorem compileAll_resolvedIn (filters : List Filter) (alias? : Option String) (ps : Params) :
    compileAll (resolvedIn alias? filters) alias? ps = compileAll filters alias? ps := by
  rw [compileAll, compileAll, texts_resolvedIn, boundIn_resolvedIn]

end Filter

/-! ### Setters and steps -/

namespace Setter

/-- The setter with the columns in it resolved. -/
def resolved (alias? : Option String) : Setter → Setter
  | select columns => select (columns.map (Identifier.resolve alias?))
  | assign occasion column value => assign occasion (Identifier.resolve alias? column) value
  | assignRaw occasion column expression =>
    assignRaw occasion (Identifier.resolve alias? column) expression
  | filter condition => filter (condition.resolved alias?)
  | setter => setter

theorem name_resolved (alias? : Option String) (setter : Setter) :
    (setter.resolved alias?).name = setter.name := by
  cases setter
  case assign occasion _ _ => cases occasion <;> rfl
  case assignRaw occasion _ _ => cases occasion <;> rfl
  all_goals rfl

theorem Respelled.resolved_eq {alias? : Option String} {setter other : Setter}
    (h : setter.Respelled alias? other) : setter.resolved alias? = other.resolved alias? := by
  cases h with
  | select hcolumns =>
    rw [resolved, resolved, map_eq_map_of_forall₂ (fun _ _ h ↦ h.resolve_eq) hcolumns]
  | assign occasion value h => rw [resolved, resolved, h.resolve_eq]
  | assignRaw occasion expression h => rw [resolved, resolved, h.resolve_eq]
  | filter h => rw [resolved, resolved, h.resolved_eq]
  | same => rfl

end Setter

namespace Step

/-- The step with the columns in its setters resolved. -/
def resolved (alias? : Option String) : Step → Step
  | change setters => change (setters.map (Setter.resolved alias?))
  | step => step

theorem Respelled.resolved_eq {alias? : Option String} {step other : Step}
    (h : step.Respelled alias? other) : step.resolved alias? = other.resolved alias? := by
  cases h with
  | change hsetters =>
    rw [resolved, resolved, map_eq_map_of_forall₂ (fun _ _ h ↦ h.resolved_eq) hsetters]
  | same => rfl

end Step

/-! ### Builders -/

namespace Builder

/-- The builder with all columns of its filters resolved. -/
def resolved (b : Builder) : Builder :=
  { b with filters := Filter.resolvedIn b.alias? b.filters }

theorem fieldName_fieldName (b : Builder) (name : String) :
    b.fieldName (b.fieldName name) = b.fieldName name :=
  Identifier.resolve_resolve b.alias? name

/-- **A setter does the same with its columns resolved.** -/
theorem apply_resolved (b : Builder) (setter : Setter) :
    b.resolved.apply (setter.resolved b.alias?) = (b.apply setter).resolved := by
  cases setter with
  | select columns =>
    have hcolumns : (columns.map (Identifier.resolve b.alias?)).map b.resolved.fieldName =
        columns.map b.fieldName := by
      rw [List.map_map]
      exact List.map_congr_left fun name _ ↦ b.fieldName_fieldName name
    rw [Setter.resolved, apply, hcolumns]
    rfl
  | assign occasion column value =>
    show Builder.assignValue b.resolved occasion (b.fieldName column) value = _
    rw [assignValue, show b.resolved.fieldName = b.fieldName from rfl, fieldName_fieldName]
    rfl
  | assignRaw occasion column expression =>
    show { b.resolved with
      clauses := b.clauses.insert occasion (b.fieldName (b.fieldName column)) expression } = _
    rw [fieldName_fieldName]
    rfl
  | filter condition =>
    show Builder.mk .. = Builder.mk ..
    simp only [apply, resolved, Filter.resolvedIn_append]
    rfl
  | calcFoundRows on =>
    simp only [Setter.resolved, apply, show b.resolved.foundRowsMode = b.foundRowsMode from rfl]
    split <;> rfl
  | addSelect | distinct | whereRaw | order | orderBy | limit | offset => rfl

theorem change_resolved (b : Builder) (setter : Setter) :
    b.resolved.change (setter.resolved b.alias?) =
      ((b.change setter).1.resolved, (b.change setter).2) := by
  unfold change
  rw [show b.resolved.isBuilt = b.isBuilt from rfl, noteLate, noteLate, setter.name_resolved]
  split
  · rfl
  · rw [apply_resolved]

theorem changeAll_resolved (b : Builder) (setters : List Setter) :
    b.resolved.changeAll (setters.map (Setter.resolved b.alias?)) =
      ((b.changeAll setters).1.resolved, (b.changeAll setters).2) := by
  induction setters generalizing b with
  | nil => rfl
  | cons setter setters ih =>
    have halias : (b.change setter).1.alias? = b.alias? := congrArg (·.2.1) (change_origin b setter)
    rw [List.map_cons, changeAll_cons, changeAll_cons, change_resolved, ← halias, ih]

theorem withFilters_resolved (b : Builder) : b.resolved.withFilters = b.withFilters.resolved := by
  unfold withFilters
  rw [show b.resolved.clauses = b.clauses from rfl]
  split
  · simp only [resolved, Filter.compileAll_resolvedIn]
  · rfl

/-- **The same is built**, whether columns of filters have been resolved before or not. -/
theorem build_resolved (b : Builder) : b.resolved.build = (b.build.1, b.build.2.resolved) := by
  unfold build
  rw [show b.resolved.built? = b.built? from rfl]
  cases b.built? with
  | some sql => rfl
  | none =>
    simp only [withFilters_resolved]
    rfl

end Builder

/-! ### Running -/

/-- What an operation came to, the columns of the filters resolved that are left. -/
def Ran.resolved {α : Type} (ran : Ran α) : Ran α :=
  { ran with builder := ran.builder.resolved }

namespace Builder

theorem send_resolved (b : Builder) (executor : Executor) (sql : String) :
    b.resolved.send executor sql = (b.send executor sql).resolved := by
  rw [send, send, show b.resolved.kind = b.kind from rfl,
    show b.resolved.params = b.params from rfl]
  cases b.kind with
  | select =>
    simp only []
    split <;> rfl
  | insert | update | delete | upsert => rfl

theorem execute_resolved (b : Builder) (executor : Executor) :
    b.resolved.execute executor = (b.execute executor).resolved := by
  rw [execute, execute, show b.resolved.misuse? = b.misuse? from rfl]
  cases b.misuse? with
  | some misuse => rfl
  | none =>
    simp only [build_resolved, show b.build.2.resolved.disarm = b.build.2.disarm.resolved from rfl,
      send_resolved]
    rfl

theorem fetchAll_resolved (b : Builder) (executor : Executor) :
    b.resolved.fetchAll executor = (b.fetchAll executor).resolved := by
  rw [fetchAll, fetchAll, show b.resolved.kind = b.kind from rfl]
  cases b.kind with
  | select =>
    simp only [execute_resolved]
    rfl
  | insert | update | delete | upsert => rfl

theorem askCount_resolved (b : Builder) (executor : Executor) (sql : String)
    (params : List Parameter) :
    b.resolved.askCount executor sql params = (b.askCount executor sql params).resolved := by
  simp only [askCount]
  split <;> rfl

theorem foundRows_resolved (b : Builder) (executor : Executor) :
    b.resolved.foundRows executor = (b.foundRows executor).resolved := by
  rw [foundRows, foundRows, show b.resolved.found = b.found from rfl]
  split
  · rfl
  · rfl
  · exact askCount_resolved b executor _ _
  · exact askCount_resolved b executor _ _

/-- **One step of a builder whose columns are resolved**: it comes to the same, and the columns are
resolved afterwards. -/
theorem step_resolved (b : Builder) (step : Step) :
    b.resolved.step (step.resolved b.alias?) = (b.step step).resolved := by
  cases step with
  | change setters =>
    simp only [Step.resolved, Builder.step, changeAll_resolved]
    rfl
  | build =>
    simp only [Step.resolved, Builder.step, build_resolved]
    rfl
  | debugSql escaper =>
    simp only [Step.resolved, Builder.step, debugSql, build_resolved]
    rfl
  | validate | countSql | foundRowsCached => rfl
  | execute executor => exact congrArg (Ran.map _) (execute_resolved b executor)
  | fetchAll executor => exact congrArg (Ran.map _) (fetchAll_resolved b executor)
  | foundRows executor => exact congrArg (Ran.map _) (foundRows_resolved b executor)

/-- Builders that agree once their columns are resolved come to the same by steps that agree once
their columns are resolved, and go on agreeing. -/
theorem step_respelled {b₁ b₂ : Builder} (hb : b₁.resolved = b₂.resolved) {step other : Step}
    (hstep : step.Respelled b₁.alias? other) :
    (b₁.step step).resolved = (b₂.step other).resolved := by
  have halias : b₁.alias? = b₂.alias? := eq_of_view_eq hb Builder.alias? (fun _ ↦ rfl)
  rw [← step_resolved, ← step_resolved, hb, hstep.resolved_eq, halias]

end Builder

/-! ### Runs -/

namespace Ran

/-- Steps that came to the same in every respect but the spelling of columns in filters that have
not been written yet. -/
structure Same (r₁ r₂ : Ran StepResult) : Prop where
  /-- The results are the same. -/
  result : r₁.result = r₂.result
  /-- The same happened, to the parameters of every call. -/
  trace : r₁.trace = r₂.trace
  /-- The same clauses have been collected. -/
  clauses : r₁.builder.clauses = r₂.builder.clauses
  /-- The same values have been bound. -/
  params : r₁.builder.params = r₂.builder.params
  /-- The same text is or would be built. -/
  text : r₁.builder.build.1 = r₂.builder.build.1
  /-- From the same clauses. -/
  clauses_build : r₁.builder.build.2.clauses = r₂.builder.build.2.clauses
  /-- With the same parameters. -/
  params_build : r₁.builder.build.2.params = r₂.builder.build.2.params
  /-- The builders are the same once the columns of their filters are resolved. -/
  builder : r₁.builder.resolved = r₂.builder.resolved

theorem same_of_resolved_eq {r₁ r₂ : Ran StepResult} (h : r₁.resolved = r₂.resolved) :
    r₁.Same r₂ := by
  have hbuilder : r₁.builder.resolved = r₂.builder.resolved := congrArg Ran.builder h
  have hbuild : (r₁.builder.build.1, r₁.builder.build.2.resolved) =
      (r₂.builder.build.1, r₂.builder.build.2.resolved) := by
    rw [← Builder.build_resolved, ← Builder.build_resolved, hbuilder]
  obtain ⟨htext, hbuilt⟩ := Prod.mk.inj hbuild
  have hresult : r₁.resolved.result = r₂.resolved.result := by rw [h]
  have htrace : r₁.resolved.trace = r₂.resolved.trace := by rw [h]
  refine ⟨hresult, htrace, ?_, ?_, htext, ?_, ?_, hbuilder⟩
  · exact Builder.eq_of_view_eq hbuilder Builder.clauses (fun _ ↦ rfl)
  · exact Builder.eq_of_view_eq hbuilder Builder.params (fun _ ↦ rfl)
  · exact Builder.eq_of_view_eq hbuilt Builder.clauses (fun _ ↦ rfl)
  · exact Builder.eq_of_view_eq hbuilt Builder.params (fun _ ↦ rfl)

end Ran

namespace Builder

theorem run_same {b₁ b₂ : Builder} {alias? : Option String} {steps others : List Step}
    (hsteps : List.Forall₂ (Step.Respelled alias?) steps others) (halias : b₁.alias? = alias?)
    (hb : b₁.resolved = b₂.resolved) : List.Forall₂ Ran.Same (b₁.run steps) (b₂.run others) := by
  induction hsteps generalizing b₁ b₂ with
  | nil => exact .nil
  | @cons step other rest rests hstep _ ih =>
    have hran := step_respelled hb (halias ▸ hstep)
    have halias : (b₁.step step).builder.alias? = alias? :=
      (congrArg (·.2.1) (step_origin b₁ step)).trans halias
    exact .cons (Ran.same_of_resolved_eq hran) (ih halias (congrArg Ran.builder hran))

/-- **Columns may be given resolved**: resolving a name twice is resolving it once, whatever the
name and the alias are; and steps that give columns by their resolved names, each of them or some,
come to the same as steps that give them by their names. -/
theorem run_respelled :
    (∀ (alias? : Option String) (name : String),
      Identifier.resolve alias? (Identifier.resolve alias? name) =
        Identifier.resolve alias? name) ∧
    ∀ (b : Builder) {steps others : List Step},
      List.Forall₂ (Step.Respelled b.alias?) steps others →
      List.Forall₂ Ran.Same (b.run steps) (b.run others) :=
  ⟨Identifier.resolve_resolve, fun _ _ _ hsteps ↦ run_same hsteps rfl rfl⟩

/-- An update whose columns are given by their names, and one that gives some of them resolved. -/
theorem run_respelled_update :
    let b := newAs .update "orders" "o"
    let steps (key group owner : String) : List Step :=
      [.change [.assign .always key (.int 1), .assignRaw .onUpdate group "1 + 1",
        .filter (.any [.compare owner .equal (.text "ada"), .oneOf key [.int 7]])], .build]
    b.alias? = some "o" ∧
      List.Forall₂ Ran.Same (b.run (steps "key" "group" "owner"))
        (b.run (steps "o.\x60key\x60" "group" "o.owner")) := by
  intro b steps
  have hkey : Identifier.SameColumn b.alias? "key" "o.\x60key\x60" := .inr (by decide +kernel)
  have howner : Identifier.SameColumn b.alias? "owner" "o.owner" := .inr (by decide +kernel)
  refine ⟨rfl, run_respelled.2 b (.cons (.change ?_) (.cons (.same .build) .nil))⟩
  exact .cons (.assign _ _ hkey) (.cons (.same _) (.cons (.filter (.any (.cons
    (.compare _ _ howner) (.cons (.oneOf _ hkey) .nil)))) .nil))

end Builder

end ParamSql
