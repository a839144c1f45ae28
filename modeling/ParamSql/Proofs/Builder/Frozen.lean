import ParamSql.Proofs.Builder.Effect
import Mathlib.Data.List.Forall2

/-!
# Built statements are frozen

From the moment on that a statement has been built, its builder changes in nothing but its two
notes: the count of rows that belongs to the last run, and the first setter that was called too late
(`step_withoutNotes`). So its text, its clauses, its parameters and its counting statement are those
of that moment, and every statement that is handed over to an executor is the same.

A setter that is called too late leaves one warning that names it (`Setter.IsWarning`), and the
first of them is remembered (`step_lateSetter?`). From then on the check refuses the builder, naming
that setter, and nothing is run any more.

`frozen_after_build` says so of every run: of what happens until the statement is built for the
first time nothing is assumed, and of what happens afterwards neither.
-/

namespace ParamSql

/-- The setters that a step calls. -/
def Step.setters : Step → List Setter
  | .change setters => setters
  | _ => []

/-- Whether a step builds the statement of a builder: two steps do so in any case, and running the
statement does if the builder passes the check. -/
def Step.Builds (b : Builder) : Step → Prop
  | .build | .debugSql _ => True
  | .execute _ => b.validate = .ok ()
  | .fetchAll _ => b.kind = .select ∧ b.validate = .ok ()
  | .change _ | .validate | .countSql | .foundRows _ | .foundRowsCached => False

/-! ### Names of setters -/

namespace Setter

/-- The name by which a caller knows a setter. -/
inductive Named : Setter → String → Prop
  | select (columns) : Named (.select columns) "select"
  | addSelect (expression) : Named (.addSelect expression) "add_select"
  | distinct (on) : Named (.distinct on) "distinct"
  | calcFoundRows (on) : Named (.calcFoundRows on) "calc_found_rows"
  | set (column value) : Named (.assign .always column value) "set"
  | setInsert (column value) : Named (.assign .onInsert column value) "set_insert"
  | setUpdate (column value) : Named (.assign .onUpdate column value) "set_update"
  | setRaw (column expression) : Named (.assignRaw .always column expression) "set_raw"
  | setInsertRaw (column expression) :
    Named (.assignRaw .onInsert column expression) "set_insert_raw"
  | setUpdateRaw (column expression) :
    Named (.assignRaw .onUpdate column expression) "set_update_raw"
  | whereRaw (sql) : Named (.whereRaw sql) "where_raw"
  | filter (condition) : Named (.filter condition) "filter"
  | order (columns) : Named (.order columns) "order"
  | orderBy (column direction) : Named (.orderBy column direction) "order_by"
  | limit (rows) : Named (.limit rows) "limit"
  | offset (rows) : Named (.offset rows) "offset"

/-- **Messages call every setter by its name.** -/
theorem named_name (setter : Setter) : setter.Named setter.name := by
  cases setter with
  | assign occasion => cases occasion <;> constructor
  | assignRaw occasion => cases occasion <;> constructor
  | _ => constructor

/-- An event is a warning that the setter has been called too late. -/
def IsWarning (setter : Setter) (event : Event) : Prop :=
  event.level = .warn ∧ event.channel = "mysqlqb" ∧
    ∃ name, setter.Named name ∧ event.fields =
      [("setter", .text name), ("message", .text "builder modified after build(); change ignored")]

theorem isWarning_lateSetter (setter : Setter) : setter.IsWarning (.lateSetter setter.name) :=
  ⟨rfl, rfl, setter.name, setter.named_name, rfl⟩

end Setter

namespace Builder

/-! ### Setters that are called in time, or too late -/

/-- Setters leave no note. -/
theorem apply_notes (b : Builder) (setter : Setter) :
    (b.apply setter).built? = b.built? ∧ (b.apply setter).lateSetter? = b.lateSetter? := by
  cases setter
  case calcFoundRows on =>
    rw [apply]
    split <;> exact ⟨rfl, rfl⟩
  all_goals exact ⟨rfl, rfl⟩

theorem isBuilt_apply (b : Builder) (setter : Setter) : (b.apply setter).isBuilt = b.isBuilt := by
  rw [isBuilt, isBuilt, (apply_notes b setter).1]

/-- A setter that is called in time applies, and nothing is logged of it. -/
theorem change_of_not_isBuilt {b : Builder} (h : b.isBuilt = false) (setter : Setter) :
    b.change setter = (b.apply setter, []) := by
  rw [change, h]
  rfl

/-- Setters that are called in time neither build nor are they noted. -/
theorem changeAll_of_not_isBuilt {b : Builder} (h : b.isBuilt = false) (setters : List Setter) :
    (b.changeAll setters).1.isBuilt = false ∧
      (b.changeAll setters).1.lateSetter? = b.lateSetter? := by
  induction setters generalizing b with
  | nil => exact ⟨h, rfl⟩
  | cons setter setters ih =>
    obtain ⟨hopen, hlate⟩ := ih ((isBuilt_apply b setter).trans h)
    rw [changeAll_cons, change_of_not_isBuilt h]
    exact ⟨hopen, hlate.trans (apply_notes b setter).2⟩

/-- **Setters that are called too late** leave a warning each, and the first of them a note, unless
there is one already. -/
theorem changeAll_of_isBuilt {b : Builder} (h : b.isBuilt = true) (setters : List Setter) :
    b.changeAll setters =
      ({ b with lateSetter? := b.lateSetter? <|> setters.head?.map Setter.name },
        setters.map fun setter ↦ .lateSetter setter.name) := by
  induction setters generalizing b with
  | nil =>
    have hnote : (b.lateSetter? <|> none) = b.lateSetter? := by
      cases b.lateSetter? <;> rfl
    show (b, []) = ({ b with lateSetter? := b.lateSetter? <|> none }, [])
    rw [hnote]
  | cons setter setters ih =>
    have hnoted : (b.noteLate setter).isBuilt = true := h
    have hchange : b.change setter = (b.noteLate setter, [.lateSetter setter.name]) := by
      rw [change, h]
      rfl
    rw [changeAll_cons, hchange, ih hnoted, noteLate]
    -- the note that is there already, or the first of the setters
    cases b.lateSetter? <;> rfl

/-- Calling setters too late comes to a warning for each, and nothing but the note. -/
theorem step_change_of_isBuilt {b : Builder} (h : b.isBuilt = true) (setters : List Setter) :
    b.step (.change setters) =
      ⟨.done, { b with lateSetter? := b.lateSetter? <|> setters.head?.map Setter.name },
        setters.map fun setter ↦ .logged (.lateSetter setter.name)⟩ := by
  rw [step, changeAll_of_isBuilt h]
  show (⟨.done, _, (setters.map _).map Happening.logged⟩ : Ran StepResult) = _
  rw [List.map_map]
  rfl

/-! ### What is left without the notes -/

/-- The builder without its two notes. -/
def withoutNotes (b : Builder) : Builder :=
  { b with found := {}, lateSetter? := none }

theorem build_withoutNotes (b : Builder) :
    b.withoutNotes.build = (b.build.1, b.build.2.withoutNotes) := by
  have hfilters : b.withoutNotes.withFilters = b.withFilters.withoutNotes := by
    rw [withFilters, withFilters, show b.withoutNotes.clauses = b.clauses from rfl]
    split <;> rfl
  rw [build, build, show b.withoutNotes.built? = b.built? from rfl, hfilters]
  cases b.built? with
  | some sql => rfl
  | none => rfl

/-- The statement that is handed over does not depend on the notes. -/
theorem statementCall_withoutNotes (b : Builder) :
    b.withoutNotes.statementCall = b.statementCall := by
  rw [statementCall, statementCall, build_withoutNotes]
  rfl

theorem statementCall_of_isBuilt {b : Builder} (h : b.isBuilt = true) :
    b.statementCall = ⟨b.kind.operation, b.build.1, b.params.entries⟩ := by
  rw [statementCall, build_of_isBuilt h]

/-- Handing the statement over leaves it as it is once it has been built. -/
theorem sentTo_withoutNotes (b : Builder) (executor : Executor) :
    (b.sentTo executor).withoutNotes = b.build.2.withoutNotes :=
  rfl

/-- **A built statement changes in its notes only.** -/
theorem step_withoutNotes {b : Builder} (h : b.isBuilt = true) (step : Step) :
    (b.step step).builder.withoutNotes = b.withoutNotes := by
  rcases b.effect step with ⟨setters, -, -, hbuilder⟩ | ⟨-, -, hbuilder⟩ | ⟨-, hbuilder⟩ |
    ⟨executor, -, -, -, hbuilder⟩ | ⟨executor, pending, -, -, -, -, hbuilder⟩
  · rw [hbuilder, changeAll_of_isBuilt h]
    rfl
  · rw [hbuilder, build_of_isBuilt h]
  · rw [hbuilder]
  · rw [hbuilder, sentTo_withoutNotes, build_of_isBuilt h]
  · rw [hbuilder]
    rfl

theorem isBuilt_step {b : Builder} (h : b.isBuilt = true) (step : Step) :
    (b.step step).builder.isBuilt = true := by
  have hsame : (b.step step).builder.withoutNotes.isBuilt = b.withoutNotes.isBuilt :=
    congrArg isBuilt (step_withoutNotes h step)
  exact hsame.trans h

/-- Several steps change a built statement in its notes only. -/
theorem after_withoutNotes {b : Builder} (h : b.isBuilt = true) (steps : List Step) :
    (b.after steps).isBuilt = true ∧ (b.after steps).withoutNotes = b.withoutNotes :=
  after_invariant
    (P := fun now ↦ now.isBuilt = true ∧ now.withoutNotes = b.withoutNotes)
    (fun _ step hnow ↦
      ⟨isBuilt_step hnow.1 step, (step_withoutNotes hnow.1 step).trans hnow.2⟩)
    ⟨h, rfl⟩ steps

/-! ### The note on setters -/

/-- Whoever does not call setters leaves the note on them as it is. -/
theorem step_lateSetter?_of_setters_eq_nil {step : Step} (hstep : step.setters = [])
    (b : Builder) : (b.step step).builder.lateSetter? = b.lateSetter? := by
  rcases b.effect step with ⟨setters, rfl, -, hbuilder⟩ | ⟨-, -, hbuilder⟩ | ⟨-, hbuilder⟩ |
    ⟨executor, -, -, -, hbuilder⟩ | ⟨executor, pending, -, -, -, -, hbuilder⟩
  · rw [hbuilder, show setters = [] from hstep, changeAll_nil]
  · rw [hbuilder, (build_notes b).2]
  · rw [hbuilder]
  · rw [hbuilder]
    exact (build_notes b).2
  · rw [hbuilder]

/-- The note is on the first setter that was called too late. -/
theorem step_lateSetter? {b : Builder} (h : b.isBuilt = true) (step : Step) :
    (b.step step).builder.lateSetter? =
      (b.lateSetter? <|> step.setters.head?.map Setter.name) := by
  cases step with
  | change setters =>
    show (b.changeAll setters).1.lateSetter? = _
    rw [changeAll_of_isBuilt h]
    rfl
  | build | debugSql | validate | countSql | execute | fetchAll | foundRows | foundRowsCached =>
    rw [step_lateSetter?_of_setters_eq_nil rfl]
    cases b.lateSetter? <;> rfl

theorem after_lateSetter? {b : Builder} (h : b.isBuilt = true) (steps : List Step) :
    (b.after steps).lateSetter? =
      (b.lateSetter? <|> (steps.flatMap Step.setters).head?.map Setter.name) := by
  induction steps generalizing b with
  | nil =>
    rw [after_nil]
    cases b.lateSetter? <;> rfl
  | cons step steps ih =>
    rw [after_cons, ih (isBuilt_step h step), step_lateSetter? h, List.flatMap_cons,
      List.head?_append]
    cases b.lateSetter? <;> cases step.setters <;> rfl

/-- No setter comes too late for a statement that has not been built. -/
theorem step_lateSetter?_of_not_isBuilt {b : Builder} (h : b.isBuilt = false) (step : Step) :
    (b.step step).builder.lateSetter? = b.lateSetter? := by
  cases step with
  | change setters => exact (changeAll_of_not_isBuilt h setters).2
  | build | debugSql | validate | countSql | execute | fetchAll | foundRows | foundRowsCached =>
    exact step_lateSetter?_of_setters_eq_nil rfl b

/-- Until a statement has been built, no setter comes too late. -/
theorem lateSetter?_of_not_isBuilt (kind : StatementKind) (table : String)
    (alias? : Option String) (settings : Settings) (steps : List Step) :
    ((create kind table alias? settings).after steps).isBuilt = false →
      ((create kind table alias? settings).after steps).lateSetter? = none := by
  refine after_invariant (P := fun b ↦ b.isBuilt = false → b.lateSetter? = none) ?_
    (fun _ ↦ rfl) steps
  intro b step hb hopen
  have hbefore : b.isBuilt = false := by
    by_contra hbuilt
    rw [isBuilt_step (Bool.of_not_eq_false hbuilt) step] at hopen
    exact Bool.noConfusion hopen
  exact (step_lateSetter?_of_not_isBuilt hbefore step).trans (hb hbefore)

/-! ### Which steps build -/

theorem validate_eq_ok_iff {b : Builder} : b.validate = .ok () ↔ b.misuse? = none := by
  rw [validate]
  cases b.misuse? with
  | none => exact ⟨fun _ ↦ rfl, fun _ ↦ rfl⟩
  | some misuse => exact ⟨fun h ↦ (nomatch h), fun h ↦ (nomatch h)⟩

theorem isBuilt_sentTo (b : Builder) (executor : Executor) :
    (b.sentTo executor).isBuilt = true :=
  isBuilt_build b

theorem isBuilt_execute_of_validate {b : Builder} (h : b.validate = .ok ()) (executor : Executor) :
    (b.execute executor).builder.isBuilt = true := by
  rw [(execute_effect (validate_eq_ok_iff.1 h) executor).2, isBuilt_sentTo]

/-- **A statement is built by the steps that build it**, and stays so. -/
theorem isBuilt_step_iff {b : Builder} {step : Step} :
    (b.step step).builder.isBuilt = true ↔ b.isBuilt = true ∨ step.Builds b := by
  constructor
  · intro h
    rcases b.effect step with ⟨setters, -, -, hbuilder⟩ | ⟨hstep, -, -⟩ | ⟨-, hbuilder⟩ |
      ⟨executor, hstep, hmisuse, -, -⟩ | ⟨executor, pending, -, -, -, -, hbuilder⟩
    · rw [hbuilder] at h
      refine .inl (by_contra fun hb ↦ ?_)
      have hopen := (changeAll_of_not_isBuilt (Bool.of_not_eq_true hb) setters).1
      exact Bool.false_ne_true (hopen.symm.trans h)
    · rcases hstep with rfl | ⟨escaper, rfl⟩ <;> exact .inr trivial
    · rw [hbuilder] at h
      exact .inl h
    · have hvalid := validate_eq_ok_iff.2 hmisuse
      rcases hstep with rfl | ⟨hkind, rfl⟩
      · exact .inr hvalid
      · exact .inr ⟨hkind, hvalid⟩
    · rw [hbuilder] at h
      exact .inl h
  · rintro (hb | hstep)
    · exact isBuilt_step hb step
    · cases step with
      | build => exact isBuilt_build b
      | debugSql escaper => exact isBuilt_build b
      | execute executor => exact isBuilt_execute_of_validate hstep executor
      | fetchAll executor =>
        show (b.fetchAll executor).builder.isBuilt = true
        rw [fetchAll_of_select hstep.1]
        exact isBuilt_execute_of_validate hstep.2 executor
      | change | validate | countSql | foundRows | foundRowsCached => exact hstep.elim

/-! ### What is handed over -/

theorem statementCall_sentTo (b : Builder) (executor : Executor) :
    (b.sentTo executor).statementCall = b.statementCall :=
  (eq_of_view_eq (sentTo_withoutNotes b executor) statementCall
    statementCall_withoutNotes).trans (statementCall_build b)

/-- A builder that a setter has been called on too late is refused. -/
theorem misuse?_of_lateSetter? {b : Builder} {setter : String}
    (h : b.lateSetter? = some setter) : b.misuse? = some (.lateSetter setter) := by
  rw [misuse?, h]

/-! ### Frozen builders -/

/-- What a builder `b`, whose statement has just been built, has in common with the builder `now`
that it has become after any steps, `called` being the setters that were called meanwhile. -/
structure Frozen (b : Builder) (called : List Setter) (now : Builder) : Prop where
  /-- The same text is built, again and again. -/
  build : now.build = (b.build.1, now)
  /-- The clauses are the same. -/
  clauses : now.clauses = b.clauses
  /-- The parameters are the same. -/
  params : now.params = b.params
  /-- The counting statement is the same. -/
  countSql : now.countSql? = b.countSql?
  /-- Whatever the next step hands over is that text with those parameters. -/
  calls : ∀ step, ∀ call ∈ (now.step step).calls, call.operation ≠ .queryScalar →
    call = ⟨b.kind.operation, b.build.1, b.params.entries⟩
  /-- Each further setter leaves one event, a warning that names it. -/
  warned : ∀ setters, ∃ events, (now.step (.change setters)).trace = events.map .logged ∧
    List.Forall₂ Setter.IsWarning setters events
  /-- Assigning to several columns counts as one setter for each of them. -/
  assignEach : ∀ pairs, (now.changeAll (Setter.assignEach pairs)).2 =
    pairs.map fun _ ↦ .lateSetter "set"
  /-- Asking for a page counts as setting a limit and then an offset. -/
  page : ∀ number size, (now.changeAll (Setter.page number size)).2 =
    [.lateSetter "limit", .lateSetter "offset"]
  /-- Further setters change nothing but the note on the first of all setters since `b`. -/
  unchanged : ∀ setters, (now.step (.change setters)).builder =
    { now with lateSetter? := (called ++ setters).head?.map Setter.name }
  /-- Once a setter has been called, the check fails and names the first one; running the statement
  fails likewise, and nothing happens. -/
  refused : ∀ setter, called.head? = some setter → ∃ name, setter.Named name ∧
    let error : Error := .configuration
      ("`" ++ name ++ "` called after build(); create a new builder for another statement")
    now.validate = .error error ∧
      ∀ executor, now.execute executor = ⟨.error error, now, []⟩ ∧
        (now.fetchAll executor).trace = []

/-- A statement that has been built, and on which no setter has been called too late, is frozen. -/
theorem frozen_after {b : Builder} (hbuilt : b.isBuilt = true) (hlate : b.lateSetter? = none)
    (steps : List Step) : b.Frozen (steps.flatMap Step.setters) (b.after steps) := by
  obtain ⟨hnow, hsame⟩ := after_withoutNotes hbuilt steps
  have hnote := after_lateSetter? hbuilt steps
  rw [hlate] at hnote
  change (b.after steps).lateSetter? = (steps.flatMap Step.setters).head?.map Setter.name at hnote
  have hchange (setters : List Setter) := step_change_of_isBuilt hnow setters
  have hmisuse {setter : Setter} (h : (steps.flatMap Step.setters).head? = some setter) :
      (b.after steps).misuse? = some (.lateSetter setter.name) := by
    refine misuse?_of_lateSetter? ?_
    rw [hnote, h, Option.map_some]
  constructor
  case build =>
    have htext : (b.after steps).build.1 = b.build.1 :=
      eq_of_view_eq hsame (·.build.1) fun b ↦ by rw [build_withoutNotes]
    exact Prod.ext htext (build_of_isBuilt hnow)
  case clauses => exact eq_of_view_eq hsame Builder.clauses (fun _ ↦ rfl)
  case params => exact eq_of_view_eq hsame Builder.params (fun _ ↦ rfl)
  case countSql => exact eq_of_view_eq hsame Builder.countSql? (fun _ ↦ rfl)
  case calls =>
    -- the statement that is handed over does not depend on the notes, and nothing else has changed
    intro step call hcall hoperation
    rw [eq_statementCall_of_mem_calls hcall hoperation,
      eq_of_view_eq hsame statementCall statementCall_withoutNotes,
      statementCall_of_isBuilt hbuilt]
  case warned =>
    intro setters
    refine ⟨setters.map fun setter ↦ .lateSetter setter.name, ?_, ?_⟩
    · rw [hchange, List.map_map]
      rfl
    · rw [List.forall₂_map_right_iff, List.forall₂_same]
      exact fun setter _ ↦ setter.isWarning_lateSetter
  case assignEach =>
    intro pairs
    rw [changeAll_of_isBuilt hnow, Setter.assignEach, List.map_map]
    rfl
  case page =>
    intro number size
    rw [changeAll_of_isBuilt hnow]
    rfl
  case unchanged =>
    intro setters
    -- the first setter since `b` is among those called before, or else the first of these
    rw [hchange, hnote, List.head?_append]
    cases (steps.flatMap Step.setters).head? <;> rfl
  case refused =>
    intro setter hsetter
    refine ⟨setter.name, setter.named_name, ?_, fun executor ↦ ?_⟩
    · rw [validate, hmisuse hsetter]
      rfl
    · have hexecute := execute_of_misuse (hmisuse hsetter) executor
      refine ⟨hexecute, ?_⟩
      by_cases hkind : (b.after steps).kind = .select
      · rw [fetchAll_of_select hkind, hexecute]
      · rw [fetchAll_of_not_select hkind]

/-- **Built statements are frozen**: whatever is done with a builder until some step builds its
statement for the first time, that step hands over no other statement than the one it has built, and
the builder is frozen from then on. -/
theorem frozen_after_build (kind : StatementKind) (table : String) (alias? : Option String)
    (settings : Settings) {before : List Step} {first : Step}
    (hopen : ((create kind table alias? settings).after before).isBuilt = false)
    (hfirst : first.Builds ((create kind table alias? settings).after before))
    (later : List Step) :
    let built := ((create kind table alias? settings).after before).step first
    built.builder.kind = kind ∧
      (first = .build → built.result = .sql built.builder.build.1) ∧
      (∀ call ∈ built.calls,
        call = ⟨kind.operation, built.builder.build.1, built.builder.params.entries⟩) ∧
      built.builder.Frozen (later.flatMap Step.setters) (built.builder.after later) := by
  intro built
  have hkind : built.builder.kind = kind := by
    have horigin := after_origin (create kind table alias? settings) (before ++ [first])
    rw [after_append, after_cons, after_nil] at horigin
    exact congrArg Prod.fst horigin
  have hbuilt : built.builder.isBuilt = true := isBuilt_step_iff.2 (.inr hfirst)
  have hsetters : first.setters = [] := by
    cases first with
    | change => exact hfirst.elim
    | build | debugSql | validate | countSql | execute | fetchAll | foundRows | foundRowsCached =>
      rfl
  have hlate : built.builder.lateSetter? = none :=
    (step_lateSetter?_of_setters_eq_nil hsetters _).trans
      (lateSetter?_of_not_isBuilt kind table alias? settings before hopen)
  refine ⟨hkind, ?_, ?_, frozen_after hbuilt hlate later⟩
  · intro hstep
    subst hstep
    exact congrArg StepResult.sql (congrArg Prod.fst (build_build _)).symm
  · intro call hcall
    rcases mem_calls hcall with ⟨rfl, executor, -, hbuilder⟩ | ⟨_, _, rfl, -⟩
    · have hsent : built.builder.statementCall = _ :=
        (congrArg statementCall hbuilder).trans (statementCall_sentTo _ executor)
      rw [← hsent, statementCall_of_isBuilt hbuilt, hkind]
    · exact hfirst.elim

/-- A SELECT that is built by running it, although it fails, and stays as it is when it is given a
limit too late. -/
theorem frozen_after_build_select :
    let before : List Step := [.change [.select ["id"], .filter (.oneOf "age" [.int 1, .int 2])]]
    let failing : Script := { error? := some (.database "gone away") }
    let later : List Step := [.change [.limit 5, .offset 10], .validate, .execute failing.executor]
    let b := (create .select "users" none {}).after before
    let built := b.step (.execute failing.executor)
    b.isBuilt = false ∧ Step.Builds b (.execute failing.executor) ∧
      built.builder.Frozen [.limit 5, .offset 10] (built.builder.after later) := by
  intro before failing later b built
  have hopen : b.isBuilt = false := rfl
  have hbuilds : Step.Builds b (.execute failing.executor) := by
    show b.validate = .ok ()
    rw [validate_eq_ok_iff]
    decide +kernel
  obtain ⟨-, -, -, hfrozen⟩ :=
    frozen_after_build .select "users" none {} hopen hbuilds later
  exact ⟨hopen, hbuilds, hfrozen⟩

end Builder

end ParamSql
