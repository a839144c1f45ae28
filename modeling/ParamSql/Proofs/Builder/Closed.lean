import ParamSql.Proofs.Builder.FoundRows
import ParamSql.Proofs.Builder.Template

/-!
# Statements are closed over their parameters

Whatever is done with a builder, its parameters are numbered in the order in which they were bound,
and only further ones come to them (`after_params_extends`). What is built spells the template of
what has been said, by placeholders each of which has exactly one binding; the same holds of the
counting statement, and of every statement that reaches an executor, with the parameters that reach
it together with the statement (`Closed`).

Parameters for which there is no placeholder any more do no harm: assignments that were overwritten
leave them behind, and so do assignments that a statement of the kind does not use. That there are
none too few rests on two facts, that a builder keeps what has been said in texts that spell it and
that what a placeholder stands for does not change when more values are bound.
-/

namespace ParamSql

open Template (IsSpelledBy)

/-- Among the parameters, the name with that number has exactly one binding, to the value. -/
def Parameter.BoundOnce (entries : List Parameter) (n : Nat) (v : Value) : Prop :=
  entries.filter (·.name == Params.nameAt n) = [⟨Params.nameAt n, v⟩]

/-- The text spells the template, by placeholders each of which has exactly one binding among the
parameters. -/
def Template.ClosedBy (t : Template) (entries : List Parameter) (text : String) : Prop :=
  IsSpelledBy (Parameter.BoundOnce entries) t text

/-- What is spelled by names that mean its values is closed, if parameters are numbered. -/
theorem Params.Numbered.closedBy {ps : Params} (h : ps.Numbered) {t : Template} {text : String}
    (hspelled : IsSpelledBy ps.Refers t text) : t.ClosedBy ps.entries text :=
  hspelled.mono fun _ _ ↦ h.filter_eq_singleton

namespace Builder

/-! ### Parameters over time -/

theorem build_params_extends (b : Builder) : b.build.2.params.Extends b.params := by
  cases hbuilt : b.isBuilt with
  | true =>
    rw [build_of_isBuilt hbuilt]
    exact .refl _
  | false =>
    rw [build_of_not_isBuilt hbuilt]
    exact withFilters_params_extends b

theorem changeAll_params_extends (b : Builder) (setters : List Setter) :
    (b.changeAll setters).1.params.Extends b.params := by
  cases hbuilt : b.isBuilt with
  | true =>
    rw [changeAll_of_isBuilt hbuilt]
    exact .refl _
  | false =>
    refine changeAll_invariant (P := fun now ↦ now.params.Extends b.params) hbuilt (.refl _) ?_
    exact fun now setter _ hnow ↦ (apply_params_extends now setter).trans hnow

/-- **A step binds further values and does nothing else to the parameters.** -/
theorem step_params_extends (b : Builder) (step : Step) :
    (b.step step).builder.params.Extends b.params := by
  rcases b.effect step with ⟨setters, -, -, hbuilder⟩ | ⟨-, -, hbuilder⟩ | ⟨-, hbuilder⟩ |
    ⟨executor, -, -, -, hbuilder⟩ | ⟨executor, pending, -, -, -, -, hbuilder⟩
  · exact hbuilder ▸ changeAll_params_extends b setters
  · exact hbuilder ▸ build_params_extends b
  · rw [hbuilder]
    exact .refl _
  · rw [hbuilder]
    exact build_params_extends b
  · rw [hbuilder]
    exact .refl _

/-- Several steps bind further values and do nothing else to the parameters. -/
theorem after_params_extends (b : Builder) (steps : List Step) :
    (b.after steps).params.Extends b.params :=
  after_invariant (P := fun now ↦ now.params.Extends b.params)
    (fun now step hnow ↦ (step_params_extends now step).trans hnow) (.refl _) steps

/-! ### What is built -/

/-- The template of the statement that says what the setters say. -/
def template (b : Builder) (said : List Setter) : Template :=
  (b.changeAll said).1.clauses.template b.kind (Setter.contents b.kind b.alias? said)

/-- The template of the statement that counts the rows of that one. -/
def countTemplate (b : Builder) (said : List Setter) : Template :=
  (b.changeAll said).1.clauses.countTemplate (Setter.contents b.kind b.alias? said)

/-- The condition has a place of its own in the contents. -/
theorem template_with_condition (c : Clauses) (condition : String) (kind : StatementKind)
    (contents : Contents) :
    { c with condition }.template kind contents = c.template kind contents := by
  cases kind <;> rfl

theorem countTemplate_with_condition (c : Clauses) (condition : String) (contents : Contents) :
    { c with condition }.countTemplate contents = c.countTemplate contents :=
  rfl

theorem template_withFilters (b : Builder) (kind : StatementKind) (contents : Contents) :
    b.withFilters.clauses.template kind contents = b.clauses.template kind contents ∧
      b.withFilters.clauses.countTemplate contents = b.clauses.countTemplate contents := by
  rcases withFilters_cases b with ⟨-, -, hclauses⟩ | ⟨-, hsame⟩
  · rw [hclauses]
    exact ⟨template_with_condition _ _ kind contents, countTemplate_with_condition _ _ contents⟩
  · rw [hsame]
    exact ⟨rfl, rfl⟩

section Created

variable (kind : StatementKind) (table : String) (alias? : Option String) (settings : Settings)
  (steps : List Step)

/-- Parameters are numbered at all times. -/
theorem numbered_after : ((create kind table alias? settings).after steps).params.Numbered := by
  obtain ⟨values, hvalues⟩ := after_params_extends (create kind table alias? settings) steps
  rw [hvalues]
  exact Params.numbered_empty.bindAll values

theorem numbered_build :
    ((create kind table alias? settings).after steps).build.2.params.Numbered := by
  obtain ⟨values, hvalues⟩ :=
    build_params_extends ((create kind table alias? settings).after steps)
  rw [hvalues]
  exact (numbered_after kind table alias? settings steps).bindAll values

/-- The contents of what is built are what has been said. -/
theorem spelled_build :
    let b := create kind table alias? settings
    let built := (b.after steps).build.2
    (Setter.contents kind b.alias? (b.saidIn steps)).Spelled built.params.Refers kind
      built.clauses := by
  intro b built
  have hkind : (b.asSaid steps).kind = kind := congrArg Prod.fst (asSaid_origin b steps)
  have hspelled := (Keeps.changeAll kind table alias? settings (b.saidIn steps)).spelled
  rw [show built.params = _ from params_build_after rfl steps,
    show built.clauses = _ from clauses_build_after rfl steps, ← hkind]
  exact hspelled

/-- What is built has the value-free parts of what has been said. -/
theorem templates_build :
    let b := create kind table alias? settings
    let contents := Setter.contents kind b.alias? (b.saidIn steps)
    (b.after steps).build.2.clauses.template kind contents = b.template (b.saidIn steps) ∧
      (b.after steps).build.2.clauses.countTemplate contents =
        b.countTemplate (b.saidIn steps) := by
  intro b contents
  rw [clauses_build_after rfl]
  exact template_withFilters (b.asSaid steps) kind contents

/-- **What is built spells what has been said.** -/
theorem isSpelledBy_build :
    let b := create kind table alias? settings
    IsSpelledBy (b.after steps).build.2.params.Refers (b.template (b.saidIn steps))
      (b.after steps).build.1 := by
  intro b
  have hspelled := (spelled_build kind table alias? settings steps).assemble
  rw [(templates_build kind table alias? settings steps).1] at hspelled
  have htext : (b.after steps).build.1 = (b.after steps).build.2.clauses.assemble kind :=
    build_after_eq_assemble rfl steps
  rw [htext]
  exact hspelled

/-- The counting statement of what is built spells what has been said, too. -/
theorem isSpelledBy_countSql {sql : String} :
    let b := create kind table alias? settings
    (b.after steps).build.2.countSql? = some sql →
      IsSpelledBy (b.after steps).build.2.params.Refers (b.countTemplate (b.saidIn steps)) sql := by
  intro b hsql
  have hkind : (b.after steps).build.2.kind = kind := kind_build_after b steps
  have hselect : kind = .select := by
    rw [countSql?, hkind] at hsql
    split at hsql
    · rfl
    · cases hsql
  subst hselect
  rw [countSql?, hkind, Option.some.injEq] at hsql
  rw [← hsql, ← (templates_build .select table alias? settings steps).2]
  exact (spelled_build .select table alias? settings steps).countSql

end Created

/-! ### Closed statements -/

/-- What a fresh builder `b`, once it has been told what was `said` and has become the builder `now`
after any steps, can say of its parameters. -/
structure Closed (b : Builder) (said : List Setter) (now : Builder) : Prop where
  /-- The parameter at a place has the name with the number of that place. -/
  name : ∀ i p, now.params.entries[i]? = some p → p.name = "p_" ++ Nat.repr i
  /-- The next name has the number that comes next. -/
  next : now.params.next = now.params.entries.length
  /-- No name is given twice. -/
  distinct : (now.params.entries.map (·.name)).Nodup
  /-- A name means the value that was bound under it. -/
  meaning : ∀ p ∈ now.params.entries, now.params.get? p.name = some p.value
  /-- Bindings stay as they are whatever is done. -/
  kept : ∀ more, now.params.entries <+: (now.after more).params.entries
  /-- What is built is closed over its parameters. -/
  built : (b.template said).ClosedBy now.build.2.params.entries now.build.1
  /-- So is the counting statement of what is built. -/
  counted : ∀ sql, now.build.2.countSql? = some sql →
    (b.countTemplate said).ClosedBy now.build.2.params.entries sql
  /-- So is the statement whenever it reaches an executor, over the parameters that come with it. -/
  sent : ∀ step, ∀ call ∈ (now.step step).calls, call.operation ≠ .queryScalar →
    (b.template said).ClosedBy call.params call.sql
  /-- So is whatever asks an executor for the number of rows. -/
  asked : ∀ step, ∀ call ∈ (now.step step).calls, call.operation = .queryScalar →
    (b.countTemplate said).ClosedBy call.params call.sql ∨
      call.sql = "SELECT FOUND_ROWS()" ∧ call.params = []

/-- **Statements are closed over their parameters** in whatever state a builder comes to be. -/
theorem closed_after (kind : StatementKind) (table : String) (alias? : Option String)
    (settings : Settings) (steps : List Step) :
    let b := create kind table alias? settings
    b.Closed (b.saidIn steps) (b.after steps) := by
  intro b
  have hnumbered := numbered_after kind table alias? settings steps
  have hbuild := numbered_build kind table alias? settings steps
  have hbuilt := hbuild.closedBy (isSpelledBy_build kind table alias? settings steps)
  have hcounted : ∀ sql, (b.after steps).build.2.countSql? = some sql →
      (b.countTemplate (b.saidIn steps)).ClosedBy (b.after steps).build.2.params.entries sql :=
    fun sql hsql ↦ hbuild.closedBy (isSpelledBy_countSql kind table alias? settings steps hsql)
  refine ⟨hnumbered.name, hnumbered.next, hnumbered.nodup_names, fun p ↦ hnumbered.get?_name,
    fun more ↦ (after_params_extends _ more).entries_extend, hbuilt, hcounted, ?_, ?_⟩
  · intro step call hcall hoperation
    obtain rfl := eq_statementCall_of_mem_calls hcall hoperation
    exact hbuilt
  · intro step call hcall hoperation
    rcases mem_calls hcall with ⟨rfl, -⟩ | ⟨_, pending, -, -, hpending, rfl⟩
    · exact absurd hoperation (StatementKind.operation_ne_queryScalar _)
    · -- a count is pending only after the statement has been built and handed over
      have htracks := (Tracks.create kind table alias? settings).after steps
      obtain ⟨⟨select, hselected, -⟩, havailable⟩ := (htracks.pending pending).1 hpending
      have hsame := build_of_isBuilt (htracks.sent select hselected).1
      obtain ⟨hkind, ⟨-, -, rfl⟩ | ⟨-, rfl⟩⟩ := pendingCount?_eq_some_iff.1 havailable
      · exact .inr ⟨rfl, rfl⟩
      · have hclosed := hcounted (b.after steps).clauses.countSql (by rw [hsame, countSql?, hkind])
        rw [hsame] at hclosed
        exact .inl hclosed

/-- A value that was overwritten leaves its parameter behind, and the one that took its place stands
in two clauses. -/
example :
    let said : List Setter := [.assign .always "a" (.int 1), .assign .always "a" (.int 2)]
    let built := ((create .upsert "users" none {}).changeAll said).1.build
    built.1 = "INSERT INTO users SET a = :p_1 ON DUPLICATE KEY UPDATE a = :p_1" ∧
      built.2.params.entries = [⟨"p_0", .int 1⟩, ⟨"p_1", .int 2⟩] := by
  decide +kernel

end Builder

end ParamSql
