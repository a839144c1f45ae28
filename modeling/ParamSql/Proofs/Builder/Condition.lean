import ParamSql.Proofs.Builder.Template
import ParamSql.Proofs.Filter.Leaves
import ParamSql.Proofs.Statement.Grammar

/-!
# No filter is lost

The condition of a statement is what was said last as it stands or, if that is nothing, what the
filters come to. The text of filters being empty stands for there being none, so a statement would
lose its condition if a filter that demands something had an empty text; none has
(`Filter.compileAll_eq_empty_iff`). Hence **a statement has no condition exactly if none was
given**, neither as it stands nor by a leaf of any filter (`conditioned_after`), and in particular
no row is changed or removed that some filter was to protect.

This is said of every run: what is said in time is told to a builder in one go (`build_after`),
which keeps it until the statement is built (`Keeps`).
-/

namespace ParamSql

/-- The condition in a clause. -/
def Clause.condition? : Clause → Option String
  | condition sql => some sql
  | select .. | source _ | insertInto _ | update _ | deleteFrom _ | assign _ | onDuplicateKey _
  | ordering _ | limit _ | offset _ => none

/-- A statement has a condition if there is a text for it, and one at most. -/
theorem Clauses.filterMap_condition?_arranged (kind : StatementKind) (c : Clauses) :
    (c.arranged kind).filterMap Clause.condition? =
      if c.condition = "" then [] else [c.condition] := by
  have hhead : (c.head kind).filterMap Clause.condition? = [] := by
    cases kind <;> rfl
  have hassign (clause : Assignments → Clause) (h : ∀ a, (clause a).condition? = none)
      (a : Assignments) : (assignmentClause clause a).filterMap Clause.condition? = [] := by
    rw [assignmentClause]
    split
    · rfl
    · rw [List.filterMap_cons, h, List.filterMap_nil]
  have htrailing : c.trailing.filterMap Clause.condition? = [] := by
    rw [trailing]
    cases c.ordering.isEmpty <;> cases c.writtenLimit? <;> cases c.writtenOffset? <;> rfl
  rw [c.arranged_eq, openingClauses, closingClauses]
  simp only [List.filterMap_append, hhead, htrailing, hassign Clause.assign fun _ ↦ rfl,
    hassign Clause.onDuplicateKey fun _ ↦ rfl, List.nil_append, List.append_nil]
  by_cases hempty : c.condition = ""
  · rw [hempty]
    rfl
  · rw [if_neg (mt String.isEmpty_iff.1 hempty), if_neg hempty]
    rfl

/-- A statement reads as what it opens with, its condition behind the keyword for one, and what
comes behind a condition. -/
theorem Clauses.assemble_eq_condition (kind : StatementKind) (c : Clauses) :
    c.assemble kind = " ".intercalate ((c.openingClauses kind).map Clause.text ++
      ((c.arranged kind).filterMap Clause.condition?).map ("WHERE " ++ ·) ++
      c.trailing.map Clause.text) := by
  have hcondition : (if c.condition.isEmpty then [] else [Clause.condition c.condition]).map
      Clause.text = (if c.condition = "" then [] else [c.condition]).map ("WHERE " ++ ·) := by
    by_cases hempty : c.condition = ""
    · rw [hempty]
      rfl
    · rw [if_neg (mt String.isEmpty_iff.1 hempty), if_neg hempty]
      rfl
  rw [c.assemble_eq_text, c.filterMap_condition?_arranged, c.arranged_eq, closingClauses,
    List.map_append, List.map_append, hcondition, List.append_assoc]

namespace Setter

/-- The filters that have been added. -/
def filters (said : List Setter) : List Filter :=
  said.filterMap filter?

/-- The filters that demand something. -/
def demands (said : List Setter) : List Filter :=
  (filters said).filter Filter.hasLeaf

theorem demands_eq_nil_iff {said : List Setter} :
    demands said = [] ↔ ∀ filter ∈ filters said, filter.hasLeaf = false := by
  rw [demands, List.filter_eq_nil_iff]
  exact forall₂_congr fun filter _ ↦ iff_of_eq (Bool.not_eq_true _)

end Setter

namespace Builder

/-- The conditions in the statement of a builder. -/
def conditions (b : Builder) : List String :=
  (b.build.2.clauses.arranged b.kind).filterMap Clause.condition?

/-- **What a builder makes of the filters it has kept** if there is no condition as it stands: it
compiles them. -/
theorem Keeps.withFilters_of_eq_empty {alias? : Option String} {said : List Setter} {b : Builder}
    (h : Keeps alias? said b) (hraw : Setter.rawCondition said = "") :
    b.withFilters.clauses.condition =
        (Filter.compileAll (Setter.filters said) alias? b.params).1 ∧
      b.withFilters.params = (Filter.compileAll (Setter.filters said) alias? b.params).2 := by
  rcases withFilters_cases b with ⟨-, hparams, hclauses⟩ | ⟨hne, -⟩
  · rw [hparams, hclauses, h.filters, h.qualifier]
    exact ⟨rfl, rfl⟩
  · exact absurd (h.condition.trans hraw) hne

/-- A condition as it stands takes the place of all filters. -/
theorem Keeps.withFilters_of_ne_empty {alias? : Option String} {said : List Setter} {b : Builder}
    (h : Keeps alias? said b) (hraw : Setter.rawCondition said ≠ "") :
    b.withFilters.clauses.condition = Setter.rawCondition said ∧
      b.withFilters.params = b.params := by
  rcases withFilters_cases b with ⟨hempty, -⟩ | ⟨-, hsame⟩
  · exact absurd (h.condition.symm.trans hempty) hraw
  · rw [hsame]
    exact ⟨h.condition, rfl⟩

/-- **There is no condition in the end** exactly if none was given as it stands and no filter
demands anything. -/
theorem Keeps.condition_withFilters_eq_empty_iff {alias? : Option String} {said : List Setter}
    {b : Builder} (h : Keeps alias? said b) :
    b.withFilters.clauses.condition = "" ↔
      Setter.rawCondition said = "" ∧ Setter.demands said = [] := by
  by_cases hraw : Setter.rawCondition said = ""
  · rw [and_iff_right hraw, (h.withFilters_of_eq_empty hraw).1, Filter.compileAll_eq_empty_iff,
      Filter.anyLeaf_eq_false_iff, Setter.demands_eq_nil_iff]
  · rw [(h.withFilters_of_ne_empty hraw).1]
    exact iff_of_false hraw fun hnone ↦ hraw hnone.1

/-- The condition and the parameters of what a run builds are those that the filters which have been
added in time come to. -/
theorem conditions_after {b : Builder} (h : b.isBuilt = false) (steps : List Step) :
    (b.after steps).conditions =
        (if (b.asSaid steps).withFilters.clauses.condition = "" then []
          else [(b.asSaid steps).withFilters.clauses.condition]) ∧
      (b.after steps).build.2.params = (b.asSaid steps).withFilters.params := by
  refine ⟨?_, params_build_after h steps⟩
  rw [conditions, Clauses.filterMap_condition?_arranged, clauses_build_after h]

/-- How the statement of a builder comes by its condition, `b` being the builder as it was created,
`said` what it has been told in time, and `now` what it has become. -/
structure Conditioned (b : Builder) (said : List Setter) (now : Builder) : Prop where
  /-- The text has the condition behind its keyword, after what the statement opens with and before
  what comes behind a condition; and there is no such part if there is no condition. -/
  text : now.build.1 = " ".intercalate
    ((now.build.2.clauses.openingClauses b.kind).map Clause.text ++
      now.conditions.map ("WHERE " ++ ·) ++ now.build.2.clauses.trailing.map Clause.text)
  /-- What the statement opens with is no condition. -/
  opening : ((now.build.2.clauses.openingClauses b.kind).map Clause.kind).Sublist b.kind.opening
  /-- What comes behind a condition is none. -/
  trailing : (now.build.2.clauses.trailing.map Clause.kind).Sublist [.ordering, .limit, .offset]
  /-- There is no condition among them exactly if none was given as it stands and there is no leaf
  in any filter. -/
  absent : now.conditions = [] ↔
    Setter.rawCondition said = "" ∧ ∀ filter ∈ Setter.filters said, filter.hasLeaf = false
  /-- A condition that was given as it stands is there as it stands, and filters bind nothing. -/
  raw : Setter.rawCondition said ≠ "" →
    now.conditions = [Setter.rawCondition said] ∧
      now.build.2.params = (b.changeAll said).1.params
  /-- Otherwise it consists of the filters that have a leaf, compiled one after the other. -/
  compiled : Setter.rawCondition said = "" →
    let each := Filter.compileEach b.alias? (Setter.demands said) (b.changeAll said).1.params
    (Setter.demands said ≠ [] → now.conditions = [" and ".intercalate each.1]) ∧
      now.build.2.params = each.2
  /-- And of the leaves of all filters, with parentheses and connectives. -/
  leaves : Setter.rawCondition said = "" →
    let each := Filter.compileEach b.alias? (Filter.leavesIn (Setter.filters said))
      (b.changeAll said).1.params
    (∀ sql ∈ now.conditions, Filter.Framed each.1 sql) ∧ now.build.2.params = each.2
  /-- This is the statement that reaches an executor. -/
  sent : ∀ step, ∀ call ∈ (now.step step).calls, call.operation ≠ .queryScalar →
    call.sql = now.build.1

/-- **No filter is lost**, whatever is done with a builder. -/
theorem conditioned_after (kind : StatementKind) (table : String) (alias? : Option String)
    (settings : Settings) (steps : List Step) :
    let b := create kind table alias? settings
    b.Conditioned (b.saidIn steps) (b.after steps) := by
  intro b
  let said := b.saidIn steps
  have hkeeps : Keeps b.alias? said (b.asSaid steps) :=
    Keeps.changeAll kind table alias? settings said
  obtain ⟨hconditions, hparams⟩ := conditions_after (b := b) rfl steps
  have hempty := hkeeps.condition_withFilters_eq_empty_iff
  have htext : (b.after steps).build.1 = " ".intercalate
      (((b.after steps).build.2.clauses.openingClauses b.kind).map Clause.text ++
        (b.after steps).conditions.map ("WHERE " ++ ·) ++
        (b.after steps).build.2.clauses.trailing.map Clause.text) := by
    have hkind : (b.after steps).kind = b.kind := congrArg Prod.fst (after_origin b steps)
    rw [conditions, hkind, ← Clauses.assemble_eq_condition]
    exact build_after_eq_assemble rfl steps
  have habsent : (b.after steps).conditions = [] ↔
      Setter.rawCondition said = "" ∧ ∀ filter ∈ Setter.filters said, filter.hasLeaf = false := by
    rw [hconditions, ite_eq_left_iff, ← Setter.demands_eq_nil_iff, ← hempty]
    exact ⟨fun h ↦ by_contra fun hne ↦ List.cons_ne_nil _ _ (h hne), absurd⟩
  have hsent : ∀ step, ∀ call ∈ ((b.after steps).step step).calls,
      call.operation ≠ .queryScalar → call.sql = (b.after steps).build.1 := by
    intro step call hcall hoperation
    rw [eq_statementCall_of_mem_calls hcall hoperation, statementCall]
  by_cases hraw : Setter.rawCondition said = ""
  · obtain ⟨hcondition, hbound⟩ := hkeeps.withFilters_of_eq_empty hraw
    obtain ⟨hleaves, hboundByLeaves⟩ :=
      Filter.framed_compileAll b.alias? (Setter.filters said) (b.changeAll said).1.params
    refine {
      text := htext
      opening := Clauses.map_kind_openingClauses_sublist _ b.kind
      trailing := Clauses.map_kind_trailing _ ▸ List.filter_sublist
      absent := habsent
      raw := fun h ↦ absurd hraw h
      compiled := fun _ ↦ ⟨fun hdemands ↦ ?_, ?_⟩
      leaves := fun _ ↦ ⟨fun sql hsql ↦ ?_, (hparams.trans hbound).trans hboundByLeaves.symm⟩
      sent := hsent }
    · have hsome : (b.asSaid steps).withFilters.clauses.condition ≠ "" := fun h ↦
        hdemands (hempty.1 h).2
      rw [hconditions, if_neg hsome, hcondition, Filter.compileAll_eq]
      rfl
    · rw [Filter.compileAll_eq] at hbound
      exact hparams.trans hbound
    · rw [hconditions] at hsql
      split at hsql
      · exact absurd hsql List.not_mem_nil
      · rw [List.mem_singleton.1 hsql, hcondition]
        exact hleaves
  · obtain ⟨hcondition, hbound⟩ := hkeeps.withFilters_of_ne_empty hraw
    have hone : (b.after steps).conditions = [Setter.rawCondition said] := by
      rw [hconditions, hcondition, if_neg hraw]
    exact {
      text := htext
      opening := Clauses.map_kind_openingClauses_sublist _ b.kind
      trailing := Clauses.map_kind_trailing _ ▸ List.filter_sublist
      absent := habsent
      raw := fun _ ↦ ⟨hone, hparams.trans hbound⟩
      compiled := fun h ↦ absurd h hraw
      leaves := fun h ↦ absurd h hraw
      sent := hsent }

end Builder

end ParamSql
