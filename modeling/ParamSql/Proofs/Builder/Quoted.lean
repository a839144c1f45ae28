import ParamSql.Proofs.Builder.Assigned
import ParamSql.Proofs.Builder.Check
import ParamSql.Proofs.Statement.Wording
import Mathlib.Algebra.GroupWithZero.Nat

/-!
# Which names are quoted

Where the names stand that a builder is made with and told, read off the constructor and the setters
alone (`Setter.places`): the table, the selected columns in the order in which they were selected,
the columns that are assigned to, each once, the columns of filters, and the columns of the order.
Whatever is done with a builder, the text of its statement spells the wording in which they stand in
these places (`spells_names`).

So every name of a table and of a column that is selected, assigned to or compared is between
backticks if it is a reserved word. The alias and the columns of the order are written as they are
given: they are in the text as they should be if they are no reserved words, and otherwise not.
-/

namespace ParamSql

open Identifier (IsReservedWord)
open Wording (SpelledBy ofColumn)

/-! ### Names that setters are called with -/

namespace Setter

/-- The columns that a setter orders by. -/
def orderedColumns : Setter → List String
  | order columns => columns.map Prod.fst
  | orderBy column _ => [column]
  | select _ | addSelect _ | distinct _ | calcFoundRows _ | assign _ _ _ | assignRaw _ _ _
  | whereRaw _ | filter _ | limit _ | offset _ => []

/-- What a setter assigns on an occasion: the column as it is resolved, and then as it is given,
with the expression as it is written. -/
def given? (alias? : Option String) (occasion : Occasion) (next : Nat) :
    Setter → Option (String × String × String)
  | assign o column v =>
    if o = occasion then
      some (Identifier.resolve alias? column, column,
        if v.isNull then "NULL" else Params.placeholderAt next)
    else none
  | assignRaw o column expression =>
    if o = occasion then some (Identifier.resolve alias? column, column, expression) else none
  | select _ | addSelect _ | distinct _ | calcFoundRows _ | whereRaw _ | filter _ | order _
  | orderBy _ _ | limit _ | offset _ => none

/-- What setters assign on an occasion, with the columns as they are given, oldest first, where the
next name has the given number. -/
def givenFrom (alias? : Option String) (occasion : Occasion) :
    (next : Nat) → List Setter → History (String × String)
  | _, [] => []
  | next, setter :: said =>
    (setter.given? alias? occasion next).toList ++
      givenFrom alias? occasion (next + setter.taken) said

section Places

variable (part : String → Part) (alias? : Option String)

/-- What is selected after a further setter. -/
def selected (before : List Wording) : Setter → List Wording
  | select columns => before ++ columns.map (ofColumn part alias?)
  | addSelect expression => before ++ [[.text expression]]
  | distinct _ | calcFoundRows _ | assign _ _ _ | assignRaw _ _ _ | whereRaw _ | filter _ | order _
  | orderBy _ _ | limit _ | offset _ => before

/-- A column of an order and its direction. -/
def termWording (column : String) (direction : Direction) : Wording :=
  [part column, .text (" " ++ direction.sql)]

/-- How rows are ordered after a further setter. -/
def ordered (before : List Wording) : Setter → List Wording
  | order columns => columns.map fun (column, direction) ↦ termWording part column direction
  | orderBy column direction => before ++ [termWording part column direction]
  | select _ | addSelect _ | distinct _ | calcFoundRows _ | assign _ _ _ | assignRaw _ _ _
  | whereRaw _ | filter _ | limit _ | offset _ => before

/-- An assignment: the column, and the expression as it is written. -/
def assignmentWording (entry : String × String × String) : Wording :=
  ofColumn part alias? entry.2.1 ++ [.text (" = " ++ entry.2.2)]

/-- What two occasions come to, the second one overriding the first. -/
def mergedWordings (first second : Occasion) (said : List Setter) : List Wording :=
  (givenFrom alias? first 0 said ++ givenFrom alias? second 0 said).settled.map
    (assignmentWording part alias?)

/-- What rows must meet: a condition as it stands, or all filters, whose values have names behind
those of the assigned values. -/
def conditionWordings (said : List Setter) : List Wording :=
  if rawCondition said = "" then
    Filter.wordings part alias? (said.map taken).sum (said.filterMap filter?)
  else [[.text (rawCondition said)]]

/-- Where the names stand that setters are called with, in a statement on a table. What part of the
wording an alias and a column of the order are is left open. -/
def places (kind : StatementKind) (table : String) (said : List Setter) : Places where
  target :=
    .name table :: match alias? with
      | none => []
      | some qualifier => [.text " ", part qualifier]
  columns := said.foldl (selected part alias?) []
  written :=
    match kind with
    | .insert | .upsert => mergedWordings part alias? .onInsert .always said
    | .update => mergedWordings part alias? .always .onUpdate said
    | .select | .delete => []
  overwritten :=
    match kind with
    | .upsert => mergedWordings part alias? .always .onUpdate said
    | .select | .insert | .update | .delete => []
  conditions := conditionWordings part alias? said
  ordering := said.foldl (ordered part) []

end Places

/-! ### Assigned columns -/

section Given

variable {alias? : Option String} {occasion : Occasion}

/-- The columns as they are given go along with the columns as they are resolved. -/
theorem parallel_givenFrom (next : Nat) (said : List Setter) :
    (givenFrom alias? occasion next said).Parallel (fun x expression ↦ x.2 = expression)
      (writtenFrom alias? occasion next said) := by
  induction said generalizing next with
  | nil => exact .nil
  | cons setter said ih =>
    rw [givenFrom, writtenFrom]
    refine List.rel_append ?_ (ih _)
    cases setter
    case assign o column v =>
      rw [given?, written?]
      split
      · exact .cons ⟨rfl, rfl⟩ .nil
      · exact .nil
    case assignRaw o column expression =>
      rw [given?, written?]
      split
      · exact .cons ⟨rfl, rfl⟩ .nil
      · exact .nil
    all_goals exact .nil

theorem resolve_of_mem_givenFrom {next : Nat} {said : List Setter}
    {entry : String × String × String} (h : entry ∈ givenFrom alias? occasion next said) :
    Identifier.resolve alias? entry.2.1 = entry.1 := by
  induction said generalizing next with
  | nil => exact absurd h List.not_mem_nil
  | cons setter said ih =>
    rw [givenFrom, List.mem_append, Option.mem_toList] at h
    rcases h with hnow | hlater
    · cases setter
      case assign o column v =>
        rw [given?, Option.ite_none_right_eq_some] at hnow
        rw [← Option.some.inj hnow.2]
      case assignRaw o column expression =>
        rw [given?, Option.ite_none_right_eq_some] at hnow
        rw [← Option.some.inj hnow.2]
      all_goals cases hnow
    · exact ih hlater

/-- **Assignments are spelled** with their columns as names. -/
theorem forall₂_mergedWordings {part : String → Part}
    (halias : ∀ qualifier ∈ alias?, SpelledBy [part qualifier] qualifier)
    (first second : Occasion) (said : List Setter) :
    List.Forall₂ SpelledBy (mergedWordings part alias? first second said)
      ((writtenFrom alias? first 0 said ++ writtenFrom alias? second 0 said).settled.map
        Places.assignmentSql) := by
  have hparallel : History.Parallel (fun x expression ↦ x.2 = expression)
      (givenFrom alias? first 0 said ++ givenFrom alias? second 0 said)
      (writtenFrom alias? first 0 said ++ writtenFrom alias? second 0 said) :=
    List.rel_append (parallel_givenFrom 0 said) (parallel_givenFrom 0 said)
  have hresolved : ∀ entry ∈
      (givenFrom alias? first 0 said ++ givenFrom alias? second 0 said).settled,
      Identifier.resolve alias? entry.2.1 = entry.1 := by
    intro entry hentry
    rcases List.mem_append.1 (History.mem_of_mem_settled hentry) with hfirst | hsecond
    · exact resolve_of_mem_givenFrom hfirst
    · exact resolve_of_mem_givenFrom hsecond
  rw [mergedWordings, List.forall₂_map_left_iff, List.forall₂_map_right_iff]
  refine ((List.forall₂_and_left _ _).2 ⟨hresolved, hparallel.settled⟩).imp ?_
  rintro ⟨key, column, expression⟩ ⟨other, text⟩ ⟨hkey, rfl, rfl⟩
  have hcolumn := Wording.spelledBy_resolve halias column
  rw [show Identifier.resolve alias? column = key from hkey] at hcolumn
  rw [Places.assignmentSql, String.append_assoc]
  exact hcolumn.ended (" = " ++ expression)

end Given

end Setter

namespace Builder

/-! ### What a builder has been told -/

variable {part : String → Part} {alias? : Option String}

/-- A fragment that each setter changes as it changes a list of wordings spells these wordings after
several setters. -/
theorem forall₂_foldl_apply (view : Clauses → List String)
    (change : List Wording → Setter → List Wording) {alias? : Option String} {said : List Setter}
    (hchange : ∀ (b : Builder) (ws : List Wording), ∀ setter ∈ said, b.alias? = alias? →
      List.Forall₂ SpelledBy ws (view b.clauses) →
      List.Forall₂ SpelledBy (change ws setter) (view (b.apply setter).clauses))
    {b : Builder} {ws : List Wording} (hb : b.alias? = alias?)
    (h : List.Forall₂ SpelledBy ws (view b.clauses)) :
    List.Forall₂ SpelledBy (said.foldl change ws) (view (said.foldl apply b).clauses) := by
  induction said generalizing b ws with
  | nil => exact h
  | cons setter said ih =>
    have hb' : (b.apply setter).alias? = alias? :=
      (congrArg (·.2.1) (apply_origin b setter)).trans hb
    rw [List.foldl_cons, List.foldl_cons]
    exact ih (fun b ws s hs ↦ hchange b ws s (List.mem_cons_of_mem _ hs)) hb'
      (hchange b ws setter List.mem_cons_self hb h)

/-- What is selected after a setter. -/
theorem forall₂_columns_apply
    (halias : ∀ qualifier ∈ alias?, SpelledBy [part qualifier] qualifier) {b : Builder}
    {ws : List Wording} (setter : Setter) (hb : b.alias? = alias?)
    (h : List.Forall₂ SpelledBy ws b.clauses.columns) :
    List.Forall₂ SpelledBy (setter.selected part alias? ws) (b.apply setter).clauses.columns := by
  cases setter
  case select columns =>
    refine List.rel_append h ?_
    rw [List.forall₂_map_left_iff, List.forall₂_map_right_iff, List.forall₂_same]
    intro column _
    rw [fieldName, hb]
    exact Wording.spelledBy_resolve halias column
  case addSelect expression => exact List.rel_append h (.cons (.ofText expression) .nil)
  case distinct on =>
    rw [b.apply_keyword_keeps (.distinct on) (.inl rfl) (·.clauses.columns) fun _ _ ↦ rfl]
    exact h
  case calcFoundRows on =>
    rw [b.apply_keyword_keeps (.calcFoundRows on) (.inr rfl) (·.clauses.columns) fun _ _ ↦ rfl]
    exact h
  case assign occasion column v => cases occasion <;> exact h
  case assignRaw occasion column expression => cases occasion <;> exact h
  all_goals exact h

theorem spelledBy_orderTerm {column : String} (hcolumn : SpelledBy [part column] column)
    (direction : Direction) :
    SpelledBy (Setter.termWording part column direction) (Setter.orderTerm column direction) := by
  rw [Setter.orderTerm, String.append_assoc]
  exact hcolumn.ended (" " ++ direction.sql)

/-- How rows are ordered after a setter. -/
theorem forall₂_ordering_apply {b : Builder} {ws : List Wording} {setter : Setter}
    (hordered : ∀ column ∈ setter.orderedColumns, SpelledBy [part column] column)
    (h : List.Forall₂ SpelledBy ws b.clauses.ordering) :
    List.Forall₂ SpelledBy (setter.ordered part ws) (b.apply setter).clauses.ordering := by
  cases setter
  case order columns =>
    show List.Forall₂ SpelledBy (columns.map _) (columns.map _)
    rw [List.forall₂_map_left_iff, List.forall₂_map_right_iff, List.forall₂_same]
    intro term hterm
    exact spelledBy_orderTerm (hordered term.1 (List.mem_map_of_mem hterm)) term.2
  case orderBy column direction =>
    exact List.rel_append h
      (.cons (spelledBy_orderTerm (hordered column List.mem_cons_self) direction) .nil)
  case distinct on =>
    rw [b.apply_keyword_keeps (.distinct on) (.inl rfl) (·.clauses.ordering) fun _ _ ↦ rfl]
    exact h
  case calcFoundRows on =>
    rw [b.apply_keyword_keeps (.calcFoundRows on) (.inr rfl) (·.clauses.ordering) fun _ _ ↦ rfl]
    exact h
  case assign occasion column v => cases occasion <;> exact h
  case assignRaw occasion column expression => cases occasion <;> exact h
  all_goals exact h

/-- The number of the next name after several setters. -/
theorem foldl_apply_next (b : Builder) (said : List Setter) :
    (said.foldl apply b).params.next = b.params.next + (said.map Setter.taken).sum := by
  induction said generalizing b with
  | nil => rfl
  | cons setter said ih =>
    rw [List.foldl_cons, ih, apply_next, List.map_cons, List.sum_cons, Nat.add_assoc]

section Made

variable {kind : StatementKind} (table : String) {alias? : Option String} (settings : Settings)
  (said : List Setter)
  (halias : ∀ qualifier ∈ effectiveAlias? kind alias?, SpelledBy [part qualifier] qualifier)
include halias

/-- The target of a statement is spelled from the beginning. -/
theorem spelledBy_target :
    SpelledBy (Setter.places part (effectiveAlias? kind alias?) kind table said).target
      (create kind table alias? settings).target := by
  have htable := Wording.spelledBy_bare table
  have haliased (qualifier? : Option String)
      (hqualifier : ∀ qualifier ∈ qualifier?, SpelledBy [part qualifier] qualifier) :
      SpelledBy (Setter.places part qualifier? kind table said).target
        (initialClauses .select table qualifier?).target := by
    cases qualifier? with
    | none => exact htable
    | some qualifier =>
      show SpelledBy ([.name table] ++ ([.text " "] ++ [part qualifier]))
        (Identifier.bare table ++ " " ++ qualifier)
      rw [String.append_assoc]
      exact htable.append ((SpelledBy.ofText " ").append (hqualifier qualifier rfl))
  cases kind with
  | select | update | delete => exact haliased _ halias
  | insert | upsert =>
    have hnone (kind : StatementKind) (h : kind.supportsAlias = false) :
        effectiveAlias? kind alias? = none := by
      cases alias? <;> simp [effectiveAlias?, h]
    rw [hnone _ rfl]
    exact htable

/-- What rows must meet is spelled once the filters are compiled. -/
theorem forall₂_conditionWordings :
    let c := ((create kind table alias? settings).changeAll said).1.withFilters.clauses
    ∃ texts, List.Forall₂ SpelledBy
        (Setter.conditionWordings part (effectiveAlias? kind alias?) said) texts ∧
      c.condition = " and ".intercalate texts ∧ (c.condition = "" ↔ texts = []) := by
  intro c
  have hkeeps := Keeps.changeAll kind table alias? settings said
  have hnext : ((create kind table alias? settings).changeAll said).1.params.next =
      (said.map Setter.taken).sum := by
    rw [changeAll_eq_foldl rfl, foldl_apply_next]
    exact Nat.zero_add _
  rw [Setter.conditionWordings, ← hkeeps.condition, ← hkeeps.filters, ← hnext]
  rcases withFilters_cases ((create kind table alias? settings).changeAll said).1 with
    ⟨hempty, -, hclauses⟩ | ⟨hraw, hsame⟩
  · rw [if_pos hempty]
    refine ⟨_, Filter.forall₂_wordings_texts halias _ _, ?_, ?_⟩
    · rw [show c = _ from hclauses, hkeeps.qualifier]
      rfl
    · rw [show c = _ from hclauses, hkeeps.qualifier, ← List.isEmpty_iff, Filter.isEmpty_texts,
        Bool.not_eq_true']
      exact Filter.compileAll_eq_empty_iff _ _ _
  · rw [if_neg hraw]
    refine ⟨[_], .cons (.ofText _) .nil, ?_, ?_⟩
    · rw [show c = _ from congrArg Builder.clauses hsame, String.intercalate_singleton]
    · rw [show c = _ from congrArg Builder.clauses hsame]
      exact iff_of_false hraw (List.cons_ne_nil _ _)

/-- What two occasions come to is spelled. -/
theorem forall₂_merged (first second : Occasion) :
    let c := ((create kind table alias? settings).changeAll said).1.withFilters.clauses
    List.Forall₂ SpelledBy
      (Setter.mergedWordings part (effectiveAlias? kind alias?) first second said)
      ((Assignments.merged [c.assignedOn first, c.assignedOn second]).entries.map
        Places.assignmentSql) := by
  intro c
  have hentries := entries_withFilters kind table alias? settings said
  rw [Assignments.merged_pair_of_settled (hentries first) (hentries second)]
  exact Setter.forall₂_mergedWordings halias first second said

/-- **What a builder has been told stands in its places.** -/
theorem spelled_places
    (hordered : ∀ setter ∈ said, ∀ column ∈ setter.orderedColumns,
      SpelledBy [part column] column) :
    (Setter.places part (effectiveAlias? kind alias?) kind table said).Spelled kind
      ((create kind table alias? settings).changeAll said).1.withFilters.clauses := by
  have hmerged (first second : Occasion) :=
    forall₂_merged table settings said halias first second
  have hkept : ∀ b : Builder, b.withFilters.kind = b.kind ∧ b.withFilters.target = b.target ∧
      b.withFilters.clauses.columns = b.clauses.columns ∧
      b.withFilters.clauses.ordering = b.clauses.ordering := fun b ↦
    ⟨b.withFilters_keeps Builder.kind fun _ _ _ ↦ rfl, b.withFilters_keeps target fun _ _ _ ↦ rfl,
      b.withFilters_keeps (·.clauses.columns) fun _ _ _ ↦ rfl,
      b.withFilters_keeps (·.clauses.ordering) fun _ _ _ ↦ rfl⟩
  have hsaid := changeAll_eq_foldl (b := create kind table alias? settings) rfl said
  have horigin := changeAll_origin (create kind table alias? settings) said
  obtain ⟨hkind, htarget, hcolumns, hordering⟩ :=
    hkept ((create kind table alias? settings).changeAll said).1
  have hkind' : ((create kind table alias? settings).changeAll said).1.withFilters.kind = kind :=
    hkind.trans (congrArg Prod.fst horigin)
  refine ⟨?_, ?_, ?_, ?_, forall₂_conditionWordings table settings said halias, ?_⟩
  · have hspelled := spelledBy_target table settings said halias
    rw [← changeAll_target (create kind table alias? settings) said, ← htarget, target, hkind']
      at hspelled
    cases kind <;> exact hspelled
  · rw [hcolumns, hsaid]
    refine forall₂_foldl_apply Clauses.columns _ ?_ rfl ?_
    · exact fun b ws setter _ hb h ↦ forall₂_columns_apply halias setter hb h
    · cases kind <;> exact .nil
  · cases kind with
    | select | delete => exact .nil
    | insert | upsert => exact hmerged .onInsert .always
    | update => exact hmerged .always .onUpdate
  · cases kind with
    | select | insert | update | delete => exact .nil
    | upsert => exact hmerged .always .onUpdate
  · rw [hordering, hsaid]
    refine forall₂_foldl_apply Clauses.ordering _ ?_ rfl ?_
    · exact fun b ws setter hmem _ h ↦ forall₂_ordering_apply (hordered setter hmem) h
    · cases kind <;> exact .nil

end Made

/-! ### What is built -/

/-- The wording of the statement that is built after several steps: the names that have been given
in time, in their places. What part of it an alias and a column of the order are is left open. -/
def wordingAfter (part : String → Part) (kind : StatementKind) (table : String)
    (alias? : Option String) (settings : Settings) (steps : List Step) : Wording :=
  let b := create kind table alias? settings
  (b.after steps).build.2.clauses.wording kind
    (Setter.places part (effectiveAlias? kind alias?) kind table (b.saidIn steps))

/-- The text that is built spells its wording, if an alias and the columns of the order are what the
wording asks for. -/
theorem spelledBy_wordingAfter (kind : StatementKind) (table : String) (alias? : Option String)
    (settings : Settings) (steps : List Step)
    (halias : ∀ qualifier ∈ effectiveAlias? kind alias?, SpelledBy [part qualifier] qualifier)
    (hordered : ∀ setter ∈ (create kind table alias? settings).saidIn steps,
      ∀ column ∈ setter.orderedColumns, SpelledBy [part column] column) :
    (wordingAfter part kind table alias? settings steps).SpelledBy
      ((create kind table alias? settings).after steps).build.1 := by
  have hspelled := (spelled_places table settings _ halias hordered).assemble
  have hclauses : ((create kind table alias? settings).after steps).build.2.clauses = _ :=
    clauses_build_after rfl steps
  rw [wordingAfter, build_after_eq_assemble rfl steps, hclauses]
  exact hspelled

/-- **Names stand in their places.** Whatever is done with a builder, every name of a table and of a
column that is selected, assigned to or compared stands in the text as a name, and so between
backticks if it is a reserved word; the alias and the columns of the order stand in it as they are
given. If these are no reserved words, they stand in the text as names, too. -/
theorem spells_names (kind : StatementKind) (table : String) (alias? : Option String)
    (settings : Settings) (steps : List Step) :
    let b := create kind table alias? settings
    let text := (b.after steps).build.1
    (wordingAfter .given kind table alias? settings steps).SpelledBy text ∧
      ((∀ qualifier ∈ effectiveAlias? kind alias?, ¬ IsReservedWord qualifier) →
        (∀ setter ∈ b.saidIn steps, ∀ column ∈ setter.orderedColumns, ¬ IsReservedWord column) →
        (wordingAfter .name kind table alias? settings steps).SpelledBy text) := by
  intro b text
  refine ⟨spelledBy_wordingAfter kind table alias? settings steps (fun _ _ ↦ .ofGiven _)
    fun _ _ _ _ ↦ .ofGiven _, fun halias hordered ↦ ?_⟩
  exact spelledBy_wordingAfter kind table alias? settings steps
    (fun qualifier hq ↦ .ofName (halias qualifier hq))
    fun setter hs column hc ↦ .ofName (hordered setter hs column hc)

/-- A SELECT on a table and of columns with reserved names, but for its alias and its order. -/
theorem spells_names_select :
    let steps : List Step :=
      [.change [.select ["key", "name"], .filter (.compare "group" .equal (.int 1)),
        .orderBy "total" .descending]]
    let text := ((create .select "order" (some "o") {}).after steps).build.1
    text = "SELECT o.`key`, o.name FROM `order` o WHERE o.`group` = :p_0 ORDER BY total DESC" ∧
      (wordingAfter .name .select "order" (some "o") {} steps).SpelledBy text := by
  intro steps text
  refine ⟨by decide +kernel, (spells_names .select "order" (some "o") {} steps).2 ?_ ?_⟩
  · intro qualifier hq
    obtain rfl := Option.some.inj hq
    decide +kernel
  · decide +kernel

/-- A SELECT that is ordered by a column with a reserved name, and one whose alias is a reserved
word: neither name is between backticks. -/
theorem not_spells_names :
    let steps : List Step := [.change [.orderBy "group" .ascending]]
    let ordered := ((create .select "orders" none {}).after steps).build.1
    let aliased := ((create .select "users" (some "key") {}).after []).build.1
    IsReservedWord "group" ∧ ordered = "SELECT * FROM orders ORDER BY group ASC" ∧
      ¬ (wordingAfter .name .select "orders" none {} steps).SpelledBy ordered ∧
    IsReservedWord "key" ∧ aliased = "SELECT * FROM users key" ∧
      ¬ (wordingAfter .name .select "users" (some "key") {} []).SpelledBy aliased := by
  intro steps ordered aliased
  have hordered : ordered = "SELECT * FROM orders ORDER BY group ASC" := by decide +kernel
  have haliased : aliased = "SELECT * FROM users key" := by decide +kernel
  -- there is no backtick in either text
  have hunquoted {w : Wording} {s n : String} (h : w.SpelledBy s) (hn : .name n ∈ w)
      (hreserved : IsReservedWord n) : Text.tick ∈ s.toList := by
    obtain ⟨before, behind, rfl⟩ := h.exists_quoted hn hreserved
    simp [Text.tick]
  refine ⟨by decide +kernel, hordered, fun h ↦ ?_, by decide +kernel, haliased, fun h ↦ ?_⟩
  · have htick := hunquoted (n := "group") h (by decide +kernel) (by decide +kernel)
    rw [hordered] at htick
    exact absurd htick (by decide +kernel)
  · have htick := hunquoted (n := "key") h (by decide +kernel) (by decide +kernel)
    rw [haliased] at htick
    exact absurd htick (by decide +kernel)

end Builder

end ParamSql
