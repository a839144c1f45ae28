import ParamSql.Proofs.Builder.Blank
import ParamSql.Proofs.Builder.Effect
import Mathlib.Data.List.Forall2

/-!
# Values do not show

Two runs of a builder that differ only in the values they assign, compare with and list come to the
same: the same answers, the same statements sent with parameters of the same names, and, unless
statements are logged with their values, the same events (`run_indistinguishable`).

The relation that is kept from step to step is that the two builders agree once their values are
blanked (`step_alike`). It is kept by setters and by building because these commute with blanking,
and by whatever reaches an executor because nothing but the parameters of the call depends on the
values, and the executors answer alike. A step asks an executor at most once and brings its own, so
executors that answer alike are nothing more than replies that are alike.
-/

namespace ParamSql

/-! ### What is seen -/

/-- The call without the values of its parameters. -/
def Call.blank (call : Call) : Call :=
  { call with params := call.params.map Parameter.blank }

/-- The happening without values: those of parameters, and those in the text of a statement that is
logged with its values, if such texts are logged at all. -/
def Happening.blank (inlined : Bool) : Happening → Happening
  | called call => called call.blank
  | logged (.inlined kind sql) => logged (.inlined kind (if inlined then "" else sql))
  | logged event => logged event

/-- Replies that are the same but for the values in the call. -/
structure Reply.Alike {α : Type} (r₁ r₂ : Reply α) : Prop where
  /-- The outcomes are the same. -/
  outcome : r₁.outcome = r₂.outcome
  /-- The same happened meanwhile. -/
  trace : r₁.trace.map (Happening.blank false) = r₂.trace.map (Happening.blank false)

/-- Executors that answer alike when they are asked the same but for values. -/
def Executor.Alike (e₁ e₂ : Executor) : Prop :=
  ∀ (operation : Operation) (sql : String) (params₁ params₂ : List Parameter),
    params₁.map Parameter.blank = params₂.map Parameter.blank →
    (e₁.ask operation sql params₁).Alike (e₂.ask operation sql params₂)

/-- Steps that are the same but for values. Showing a statement with its values is not among
them. -/
inductive Step.Alike : Step → Step → Prop
  /-- Setters that are the same once their values are blanked. -/
  | change {setters₁ setters₂ : List Setter} :
      setters₁.map Setter.blank = setters₂.map Setter.blank →
      Alike (.change setters₁) (.change setters₂)
  /-- The statement is built. -/
  | build : Alike .build .build
  /-- The builder is checked. -/
  | validate : Alike .validate .validate
  /-- The counting statement is shown. -/
  | countSql : Alike .countSql .countSql
  /-- The statement is run. -/
  | execute {e₁ e₂ : Executor} : e₁.Alike e₂ → Alike (.execute e₁) (.execute e₂)
  /-- The statement is run for its rows. -/
  | fetchAll {e₁ e₂ : Executor} : e₁.Alike e₂ → Alike (.fetchAll e₁) (.fetchAll e₂)
  /-- The number of rows is asked for. -/
  | foundRows {e₁ e₂ : Executor} : e₁.Alike e₂ → Alike (.foundRows e₁) (.foundRows e₂)
  /-- The number of rows is shown. -/
  | foundRowsCached : Alike .foundRowsCached .foundRowsCached

/-- An executor that follows a script answers alike. -/
theorem Script.executor_alike (s : Script) : s.executor.Alike s.executor := by
  intro operation sql params₁ params₂ hparams
  refine ⟨rfl, ?_⟩
  show [Happening.called (Call.blank _)] = [Happening.called (Call.blank _)]
  rw [Call.blank, hparams, Call.blank]

/-- Blanking more forgets more. -/
theorem Happening.blank_blank_false (inlined : Bool) (h : Happening) :
    (h.blank false).blank inlined = h.blank inlined := by
  cases h with
  | called call =>
    simp only [blank, Call.blank, List.map_map]
    rfl
  | logged event => cases event <;> rfl

theorem Reply.Alike.trace_blank {α : Type} {r₁ r₂ : Reply α} (h : r₁.Alike r₂) (inlined : Bool) :
    r₁.trace.map (Happening.blank inlined) = r₂.trace.map (Happening.blank inlined) := by
  have htwice := congrArg (List.map (Happening.blank inlined)) h.trace
  simpa only [List.map_map, Function.comp_def, Happening.blank_blank_false] using htwice

/-! ### What operations come to -/

/-- Operations that came to the same but for values, `inlined` saying whether statements are logged
with their values. -/
structure Ran.Alike {α : Type} (inlined : Bool) (r₁ r₂ : Ran α) : Prop where
  /-- The results are the same. -/
  result : r₁.result = r₂.result
  /-- The builders agree but for values. -/
  builder : r₁.builder.blank = r₂.builder.blank
  /-- The same happened. -/
  trace : r₁.trace.map (Happening.blank inlined) = r₂.trace.map (Happening.blank inlined)

theorem Ran.Alike.map {α β : Type} {inlined : Bool} {r₁ r₂ : Ran α} (h : r₁.Alike inlined r₂)
    (f : α → β) : (r₁.map f).Alike inlined (r₂.map f) :=
  ⟨congrArg f h.result, h.builder, h.trace⟩

namespace Builder

variable {b₁ b₂ : Builder}

/-- What commutes with blanking keeps builders agreeing but for values. -/
theorem blank_eq_of_blank_eq (f : Builder → Builder) (hf : ∀ b : Builder, (f b).blank = f b.blank)
    (hb : b₁.blank = b₂.blank) : (f b₁).blank = (f b₂).blank := by
  rw [hf, hf, hb]

theorem params_eq_of_blank_eq (hb : b₁.blank = b₂.blank) :
    b₁.params.entries.map Parameter.blank = b₂.params.entries.map Parameter.blank := by
  have hparams : b₁.blank.params = b₂.blank.params := congrArg Builder.params hb
  exact congrArg Params.entries hparams

/-- Builders that agree but for values have the same text, and go on agreeing once it is built. -/
theorem build_alike (hb : b₁.blank = b₂.blank) :
    b₁.build.1 = b₂.build.1 ∧ b₁.build.2.blank = b₂.build.2.blank := by
  have hbuild : (b₁.build.1, b₁.build.2.blank) = (b₂.build.1, b₂.build.2.blank) := by
    rw [← build_blank, ← build_blank, hb]
  exact Prod.mk.inj hbuild

/-- What is logged of a statement shows values only where it is logged with them. -/
theorem statementEvents_alike (hb : b₁.blank = b₂.blank) (sql : String) :
    ((b₁.statementEvents sql).map Happening.logged).map
        (Happening.blank b₁.settings.logInlined) =
      ((b₂.statementEvents sql).map Happening.logged).map
        (Happening.blank b₁.settings.logInlined) := by
  have hkind : b₁.kind = b₂.kind := eq_of_view_eq hb Builder.kind (fun _ ↦ rfl)
  have hsettings : b₁.settings = b₂.settings := eq_of_view_eq hb Builder.settings (fun _ ↦ rfl)
  have hlength : b₁.params.entries.length = b₂.params.entries.length := by
    have hparams := congrArg List.length (params_eq_of_blank_eq hb)
    rwa [List.length_map, List.length_map] at hparams
  simp only [statementEvents, hkind, hsettings, hlength]
  split
  · cases b₂.settings.logInlined <;> rfl
  · rfl

theorem send_alike (hb : b₁.blank = b₂.blank) {e₁ e₂ : Executor} (he : e₁.Alike e₂)
    (sql : String) (inlined : Bool) :
    (b₁.send e₁ sql).Alike inlined (b₂.send e₂ sql) := by
  have hkind : b₁.kind = b₂.kind := eq_of_view_eq hb Builder.kind (fun _ ↦ rfl)
  have hreply (operation : Operation) :=
    he operation sql _ _ (params_eq_of_blank_eq hb)
  rw [send, send, hkind]
  cases b₂.kind with
  | select =>
    have htrace := (hreply .query).trace_blank inlined
    simp only [(hreply .query).outcome]
    split
    · exact ⟨rfl, blank_eq_of_blank_eq arm (fun _ ↦ rfl) hb, htrace⟩
    · exact ⟨rfl, hb, htrace⟩
  | insert | update | delete | upsert =>
    exact ⟨congrArg (Except.map _) (hreply .execute).outcome, hb,
      (hreply .execute).trace_blank inlined⟩

/-- **Running a statement shows no values.** -/
theorem execute_alike (hb : b₁.blank = b₂.blank) {e₁ e₂ : Executor} (he : e₁.Alike e₂) :
    (b₁.execute e₁).Alike b₁.settings.logInlined (b₂.execute e₂) := by
  have hmisuse : b₁.misuse? = b₂.misuse? := eq_of_view_eq hb Builder.misuse? (fun _ ↦ rfl)
  rw [execute, execute, hmisuse]
  cases b₂.misuse? with
  | some misuse => exact ⟨rfl, hb, rfl⟩
  | none =>
    obtain ⟨htext, hbuilt⟩ := build_alike hb
    have hdisarm : b₁.build.2.disarm.blank = b₂.build.2.disarm.blank :=
      blank_eq_of_blank_eq disarm (fun _ ↦ rfl) hbuilt
    have hsettings : b₁.build.2.disarm.settings.logInlined = b₁.settings.logInlined :=
      congrArg (·.2.2.logInlined) (build_origin b₁)
    have hsent := send_alike hdisarm he b₁.build.1 b₁.settings.logInlined
    have hevents := statementEvents_alike hdisarm b₁.build.1
    rw [hsettings] at hevents
    simp only [← htext]
    refine ⟨hsent.result, hsent.builder, ?_⟩
    simp only [List.map_append]
    rw [hevents, hsent.trace]

theorem fetchAll_alike (hb : b₁.blank = b₂.blank) {e₁ e₂ : Executor} (he : e₁.Alike e₂) :
    (b₁.fetchAll e₁).Alike b₁.settings.logInlined (b₂.fetchAll e₂) := by
  have hkind : b₁.kind = b₂.kind := eq_of_view_eq hb Builder.kind (fun _ ↦ rfl)
  have hran := execute_alike hb he
  rw [fetchAll, fetchAll, hkind]
  cases b₂.kind with
  | select => exact ⟨congrArg (Except.map _) hran.result, hran.builder, hran.trace⟩
  | insert | update | delete | upsert => exact ⟨rfl, hb, rfl⟩

theorem askCount_alike (hb : b₁.blank = b₂.blank) {e₁ e₂ : Executor} (he : e₁.Alike e₂)
    (sql : String) {params₁ params₂ : List Parameter}
    (hparams : params₁.map Parameter.blank = params₂.map Parameter.blank) (inlined : Bool) :
    (b₁.askCount e₁ sql params₁).Alike inlined (b₂.askCount e₂ sql params₂) := by
  have hreply := he .queryScalar sql params₁ params₂ hparams
  have htrace := hreply.trace_blank inlined
  simp only [askCount, hreply.outcome]
  split
  · rename_i count _
    have hcounted := blank_eq_of_blank_eq (fun b ↦ { b with found.count? := some count })
      (fun _ ↦ rfl) hb
    exact ⟨rfl, hcounted, htrace⟩
  · exact ⟨rfl, hb, htrace⟩

/-- **Counting rows shows no values.** -/
theorem foundRows_alike (hb : b₁.blank = b₂.blank) {e₁ e₂ : Executor} (he : e₁.Alike e₂)
    (inlined : Bool) : (b₁.foundRows e₁).Alike inlined (b₂.foundRows e₂) := by
  have hfound : b₁.found = b₂.found := eq_of_view_eq hb Builder.found (fun _ ↦ rfl)
  rw [foundRows, foundRows, foundRowsCached, foundRowsCached, hfound]
  split
  · exact ⟨rfl, hb, rfl⟩
  · exact ⟨rfl, hb, rfl⟩
  · exact askCount_alike hb he _ rfl inlined
  · exact askCount_alike hb he _ (params_eq_of_blank_eq hb) inlined

/-- **One step of two builders that agree but for values**: it comes to the same, and they go on
agreeing. -/
theorem step_alike (hb : b₁.blank = b₂.blank) {step₁ step₂ : Step} (hstep : step₁.Alike step₂) :
    (b₁.step step₁).Alike b₁.settings.logInlined (b₂.step step₂) := by
  cases hstep with
  | @change setters₁ setters₂ hsetters =>
    have hchange : ((b₁.changeAll setters₁).1.blank, (b₁.changeAll setters₁).2) =
        ((b₂.changeAll setters₂).1.blank, (b₂.changeAll setters₂).2) := by
      rw [← changeAll_blank, ← changeAll_blank, hb, hsetters]
    obtain ⟨hbuilder, hevents⟩ := Prod.mk.inj hchange
    refine ⟨rfl, hbuilder, ?_⟩
    simp only [step, hevents]
  | build =>
    obtain ⟨htext, hbuilt⟩ := build_alike hb
    exact ⟨congrArg StepResult.sql htext, hbuilt, rfl⟩
  | validate =>
    have hchecked : b₁.validate = b₂.validate := eq_of_view_eq hb Builder.validate (fun _ ↦ rfl)
    exact ⟨congrArg StepResult.checked hchecked, hb, rfl⟩
  | countSql =>
    have hcount : b₁.countSql? = b₂.countSql? := eq_of_view_eq hb Builder.countSql? (fun _ ↦ rfl)
    exact ⟨congrArg StepResult.sql? hcount, hb, rfl⟩
  | execute he => exact (execute_alike hb he).map _
  | fetchAll he => exact (fetchAll_alike hb he).map _
  | foundRows he => exact (foundRows_alike hb he _).map _
  | foundRowsCached =>
    have hcached : b₁.foundRowsCached = b₂.foundRowsCached :=
      eq_of_view_eq hb Builder.foundRowsCached (fun _ ↦ rfl)
    exact ⟨congrArg StepResult.cached hcached, hb, rfl⟩

/-- Runs of builders that agree but for values come to the same. -/
theorem run_alike {steps₁ steps₂ : List Step} (hsteps : List.Forall₂ Step.Alike steps₁ steps₂)
    (hb : b₁.blank = b₂.blank) :
    List.Forall₂ (Ran.Alike b₁.settings.logInlined) (b₁.run steps₁) (b₂.run steps₂) := by
  induction hsteps generalizing b₁ b₂ with
  | nil => exact .nil
  | @cons step₁ step₂ _ _ hstep _ ih =>
    have hran := step_alike hb hstep
    have hrest := ih hran.builder
    rw [step_settings] at hrest
    exact .cons hran hrest

end Builder

/-! ### What can be told apart -/

/-- What a call shows apart from values: what was asked for, the statement, and the names of the
parameters. -/
def Call.shown (call : Call) : Operation × String × List String :=
  (call.operation, call.sql, call.params.map Parameter.name)

namespace Ran

/-- Steps that nobody can tell apart who does not look at the values of parameters, nor, if
statements are logged with their values, at the log. -/
structure Indistinguishable (inlined : Bool) (r₁ r₂ : Ran StepResult) : Prop where
  /-- The results are the same. -/
  result : r₁.result = r₂.result
  /-- The same text is or would be built. -/
  text : r₁.builder.build.1 = r₂.builder.build.1
  /-- The same counting statement is shown. -/
  countSql : r₁.builder.countSql? = r₂.builder.countSql?
  /-- The same counting statement is or would be shown once the statement has been built. -/
  countSql_build : r₁.builder.build.2.countSql? = r₂.builder.build.2.countSql?
  /-- As many parameters are bound, of the same names. -/
  names : r₁.builder.params.entries.map Parameter.name =
    r₂.builder.params.entries.map Parameter.name
  /-- As many parameters are or would be bound, of the same names, once the statement has been
  built. -/
  names_build : r₁.builder.build.2.params.entries.map Parameter.name =
    r₂.builder.build.2.params.entries.map Parameter.name
  /-- The same was asked of executors, but for the values of parameters. -/
  calls : r₁.calls.map Call.shown = r₂.calls.map Call.shown
  /-- The same events were logged, unless values are logged too. -/
  events : inlined = false → r₁.events = r₂.events
  /-- The builders differ in nothing but the values in them. -/
  builder : r₁.builder.blank = r₂.builder.blank

variable {α : Type} {inlined : Bool} {r₁ r₂ : Ran α}

theorem Alike.calls (h : r₁.Alike inlined r₂) :
    r₁.calls.map Call.shown = r₂.calls.map Call.shown := by
  have hblank (trace : List Happening) :
      (trace.filterMap Happening.call?).map Call.shown =
        ((trace.map (Happening.blank inlined)).filterMap Happening.call?).map Call.shown := by
    rw [List.filterMap_map, List.map_filterMap, List.map_filterMap]
    refine List.filterMap_congr fun happening _ ↦ ?_
    rcases happening with call | (_ | _ | _ | _ | _ | _)
    · simp [Happening.blank, Happening.call?, Call.shown, Call.blank, Function.comp_def,
        Parameter.blank]
    all_goals rfl
  rw [Ran.calls, Ran.calls, hblank, hblank r₂.trace, h.trace]

theorem Alike.events (h : r₁.Alike false r₂) : r₁.events = r₂.events := by
  have hblank (trace : List Happening) :
      trace.filterMap Happening.event? =
        (trace.map (Happening.blank false)).filterMap Happening.event? := by
    rw [List.filterMap_map]
    refine List.filterMap_congr fun happening _ ↦ ?_
    rcases happening with call | (_ | _ | _ | _ | _ | _) <;> rfl
  rw [Ran.events, Ran.events, hblank, hblank r₂.trace, h.trace]

/-- Steps that came to the same but for values cannot be told apart. -/
theorem Alike.indistinguishable {r₁ r₂ : Ran StepResult} (h : r₁.Alike inlined r₂) :
    r₁.Indistinguishable inlined r₂ := by
  have hnames {b₁ b₂ : Builder} (hb : b₁.blank = b₂.blank) :
      b₁.params.entries.map Parameter.name = b₂.params.entries.map Parameter.name := by
    have hentries := congrArg (List.map Parameter.name) (Builder.params_eq_of_blank_eq hb)
    rwa [List.map_map, List.map_map] at hentries
  have hcount {b₁ b₂ : Builder} (hb : b₁.blank = b₂.blank) : b₁.countSql? = b₂.countSql? :=
    Builder.eq_of_view_eq hb Builder.countSql? (fun _ ↦ rfl)
  obtain ⟨htext, hbuilt⟩ := Builder.build_alike h.builder
  refine ⟨h.result, htext, hcount h.builder, hcount hbuilt, hnames h.builder, hnames hbuilt,
    h.calls, ?_, h.builder⟩
  intro hinlined
  subst hinlined
  exact h.events

end Ran

/-- **Values do not show**: runs of two builders made alike, whose steps are the same but for
values, cannot be told apart at any step. -/
theorem Builder.run_indistinguishable (kind : StatementKind) (table : String)
    (alias? : Option String) (settings : Settings) {steps₁ steps₂ : List Step}
    (hsteps : List.Forall₂ Step.Alike steps₁ steps₂) :
    List.Forall₂ (Ran.Indistinguishable settings.logInlined)
      ((create kind table alias? settings).run steps₁)
      ((create kind table alias? settings).run steps₂) := by
  have hruns := run_alike hsteps (rfl : (create kind table alias? settings).blank = _)
  exact hruns.imp fun _ _ hran ↦ hran.indistinguishable

/-- A SELECT that is run and counted, with one set of values and with another. -/
theorem Builder.run_indistinguishable_select :
    let settings : Settings := { foundRows := .query }
    let answers : Script := { rows := [[.int 7]], scalar := 3 }
    let steps (name : String) (age : Int64) (member : Value) : List Step :=
      [.change [.select ["id"],
          .filter (.any [.compare "name" .equal (.text name), .compare "note" .equal .null]),
          .filter (.oneOf "age" [.int age, member])],
        .build, .execute answers.executor, .foundRows answers.executor]
    List.Forall₂ Step.Alike (steps "ada" 1 .null) (steps "' OR 1=1" 2 (.text "x")) ∧
      List.Forall₂ (Ran.Indistinguishable settings.logInlined)
        ((create .select "users" none settings).run (steps "ada" 1 .null))
        ((create .select "users" none settings).run (steps "' OR 1=1" 2 (.text "x"))) := by
  intro settings answers steps
  have hsteps : List.Forall₂ Step.Alike (steps "ada" 1 .null)
      (steps "' OR 1=1" 2 (.text "x")) :=
    .cons (.change rfl) (.cons .build (.cons (.execute answers.executor_alike)
      (.cons (.foundRows answers.executor_alike) .nil)))
  exact ⟨hsteps, run_indistinguishable .select "users" none settings hsteps⟩

end ParamSql
