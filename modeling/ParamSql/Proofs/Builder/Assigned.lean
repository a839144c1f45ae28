import ParamSql.Proofs.Builder.Template

/-!
# What a statement assigns

An assignment is made to the row that is inserted, to the row that is updated, or to either. What
has been assigned on each of these occasions is read off the setters alone (`Setter.writtenFrom`):
the column as it is resolved, and the expression, in which a value is a placeholder. The values of
all occasions share one sequence of names, so the number of the next name is carried along, past
setters that have nothing to do with the occasion.

A statement assigns what two of these histories come to, the second one overriding the first
(`Merges`): the row that is inserted gets what is assigned to inserted rows and then what is
assigned to either; the row that is updated gets what is assigned to either and then what is
assigned to updated rows. An UPSERT has both. Whatever is done with a builder, its statement says
this right behind its head, and assigns nothing else (`assigns_what_was_said`).

A column is what its name resolves to, so two names of one column share one place.
-/

namespace ParamSql

/-! ### What setters assign -/

namespace Setter

/-- How many names a setter takes. -/
def taken : Setter → Nat
  | assign _ _ v => if v.isNull then 0 else 1
  | select _ | addSelect _ | distinct _ | calcFoundRows _ | assignRaw _ _ _ | whereRaw _ | filter _
  | order _ | orderBy _ _ | limit _ | offset _ => 0

/-- What setters assign on an occasion as it is written, oldest first, where the next name has the
given number. -/
def writtenFrom (alias? : Option String) (occasion : Occasion) :
    (next : Nat) → List Setter → History String
  | _, [] => []
  | next, setter :: said =>
    (setter.written? alias? occasion next).toList ++
      writtenFrom alias? occasion (next + setter.taken) said

end Setter

/-! ### One history over another -/

namespace Assignments

/-- The columns that are assigned to, in order. -/
def columns (a : Assignments) : List String :=
  a.entries.map Prod.fst

/-- The assignments are what two histories come to, the second one overriding the first. -/
structure Merges (first second : History String) (a : Assignments) : Prop where
  /-- The columns of the first history come in the order in which they were first assigned to, and
  then the new columns of the second one. -/
  columns : a.columns = first.columns ++ second.columns.filter (· ∉ first.columns)
  /-- No column is there twice. -/
  nodup : a.columns.Nodup
  /-- A column is assigned what the second history says of it last, or else the first one. -/
  get? : ∀ column, a.get? column = (second.last? column).or (first.last? column)

variable {first second : History String} {a : Assignments}

/-- Exactly the columns of the two histories are assigned to. -/
theorem Merges.mem_columns_iff (h : Merges first second a) {column : String} :
    column ∈ a.columns ↔ column ∈ first.columns ∨ column ∈ second.columns := by
  rw [h.columns, List.mem_append, List.mem_filter, decide_eq_true_eq]
  tauto

/-- Merging two lists that are settled merges their histories. -/
theorem merges_merged {list later : Assignments} (hfirst : list.entries = first.settled)
    (hsecond : later.entries = second.settled) : Merges first second (merged [list, later]) := by
  have hentries := merged_pair_of_settled hfirst hsecond
  have hcolumns : (merged [list, later]).columns = (first ++ second).columns := by
    rw [columns, hentries, History.map_fst_settled]
  refine ⟨hcolumns.trans (History.columns_append first second), ?_, fun column ↦ ?_⟩
  · rw [hcolumns]
    exact History.nodup_columns _
  · rw [get?, hentries, History.lookup_settled, History.last?_append]

end Assignments

/-! ### The clauses that assign -/

/-- The part of a statement that assigns: a keyword, and behind it each column with its expression.
A statement that assigns nothing has no such part. -/
def Assignments.part (keyword : String) (a : Assignments) : List String :=
  if a.entries = [] then []
  else [keyword ++ " " ++ ", ".intercalate (a.entries.map fun entry ↦ entry.1 ++ " = " ++ entry.2)]

/-- What a clause assigns, and in which kind of clause. -/
def Clause.assignments? : Clause → Option (ClauseKind × Assignments)
  | assign a => some (.assign, a)
  | onDuplicateKey a => some (.onDuplicateKey, a)
  | select .. | source _ | insertInto _ | update _ | deleteFrom _ | condition _ | ordering _
  | limit _ | offset _ => none

/-- A statement has one clause for each list of assignments that is not empty, and no other ones. -/
theorem Clauses.filterMap_assignments?_arranged (kind : StatementKind) (c : Clauses) :
    (c.arranged kind).filterMap Clause.assignments? =
      [(ClauseKind.assign, c.written kind), (ClauseKind.onDuplicateKey, c.overwritten kind)].filter
        (!·.2.isEmpty) := by
  have hhead : (c.head kind).filterMap Clause.assignments? = [] := by
    cases kind <;> rfl
  have hclosing : c.closingClauses.filterMap Clause.assignments? = [] := by
    rw [closingClauses, trailing]
    cases c.condition.isEmpty <;> cases c.ordering.isEmpty <;> cases c.writtenLimit? <;>
      cases c.writtenOffset? <;> rfl
  rw [c.arranged_eq, openingClauses]
  simp only [List.filterMap_append, hhead, hclosing, List.nil_append, List.append_nil,
    assignmentClause, List.filter]
  cases (c.written kind).isEmpty <;> cases (c.overwritten kind).isEmpty <;> rfl

/-- A statement assigns right behind its head, first to the row that it writes and then to the row
that is already there. -/
theorem Clauses.assemble_eq_part (kind : StatementKind) (c : Clauses) :
    c.assemble kind = " ".intercalate ((c.head kind).map Clause.text ++
      (c.written kind).part "SET" ++ (c.overwritten kind).part "ON DUPLICATE KEY UPDATE" ++
      c.closingClauses.map Clause.text) := by
  have hpart {clause : Assignments → Clause} {keyword : String}
      (hclause : ∀ a, (clause a).text = keyword ++ " " ++
        ", ".intercalate (a.entries.map fun entry ↦ entry.1 ++ " = " ++ entry.2))
      (a : Assignments) : (assignmentClause clause a).map Clause.text = a.part keyword := by
    by_cases hempty : a.entries = []
    · rw [assignmentClause_eq_nil hempty, Assignments.part, if_pos hempty, List.map_nil]
    · rw [assignmentClause_eq_singleton hempty, Assignments.part, if_neg hempty, List.map_singleton,
        hclause]
  have hset : (assignmentClause .assign (c.written kind)).map Clause.text = _ :=
    hpart (fun _ ↦ rfl) _
  have hduplicate : (assignmentClause .onDuplicateKey (c.overwritten kind)).map Clause.text = _ :=
    hpart (fun _ ↦ rfl) _
  rw [c.assemble_eq_text, c.arranged_eq, openingClauses, List.map_append, List.map_append,
    List.map_append, hset, hduplicate]

namespace Builder

/-! ### What a builder has been told to assign -/

theorem apply_next (b : Builder) (setter : Setter) :
    (b.apply setter).params.next = b.params.next + setter.taken := by
  cases setter
  case assign occasion column v =>
    rw [apply, assignValue, Setter.taken]
    cases v.isNull <;> rfl
  case calcFoundRows on =>
    exact b.apply_keyword_keeps _ (.inr rfl) (·.params.next) fun _ _ ↦ rfl
  all_goals rfl

/-- **What has been assigned on an occasion** is what setters say, one after the other. -/
theorem assignedOn_foldl_apply {b : Builder} {occasion : Occasion} {history : History String}
    (h : (b.clauses.assignedOn occasion).entries = history.settled) (said : List Setter) :
    ((said.foldl apply b).clauses.assignedOn occasion).entries =
      History.settled (history ++ Setter.writtenFrom b.alias? occasion b.params.next said) := by
  induction said generalizing b history with
  | nil => rw [List.foldl_nil, Setter.writtenFrom, List.append_nil, h]
  | cons setter said ih =>
    have halias : (b.apply setter).alias? = b.alias? := congrArg (·.2.1) (apply_origin b setter)
    have hstep : ((b.apply setter).clauses.assignedOn occasion).entries =
        History.settled
          (history ++ (setter.written? b.alias? occasion b.params.next).toList) := by
      rw [apply_assignedOn]
      cases setter.written? b.alias? occasion b.params.next with
      | none => rw [Option.toList_none, List.append_nil, h]
      | some entry =>
        rw [Option.toList_some, ← Assignments.put_settled, ← h]
        rfl
    rw [List.foldl_cons, ih hstep, halias, apply_next, Setter.writtenFrom, List.append_assoc]

/-- What has been assigned on an occasion when the statement is built in the end. -/
theorem entries_withFilters (kind : StatementKind) (table : String) (alias? : Option String)
    (settings : Settings) (said : List Setter) (occasion : Occasion) :
    (((create kind table alias? settings).changeAll said).1.withFilters.clauses.assignedOn
        occasion).entries =
      (Setter.writtenFrom (effectiveAlias? kind alias?) occasion 0 said).settled := by
  have hempty : ((create kind table alias? settings).clauses.assignedOn occasion).entries =
      History.settled [] := by
    cases kind <;> cases occasion <;> rfl
  rw [withFilters_assignedOn, changeAll_eq_foldl rfl, assignedOn_foldl_apply hempty said]
  rfl

/-- What two lists come to in the statement that is built in the end. -/
theorem merges_withFilters (kind : StatementKind) (table : String) (alias? : Option String)
    (settings : Settings) (said : List Setter) (first second : Occasion) :
    let on occasion := Setter.writtenFrom (effectiveAlias? kind alias?) occasion 0 said
    let c := ((create kind table alias? settings).changeAll said).1.withFilters.clauses
    Assignments.Merges (on first) (on second)
      (.merged [c.assignedOn first, c.assignedOn second]) := by
  intro on c
  have hentries (occasion : Occasion) : (c.assignedOn occasion).entries = (on occasion).settled :=
    entries_withFilters kind table alias? settings said occasion
  exact Assignments.merges_merged (hentries first) (hentries second)

/-! ### What a statement assigns -/

/-- A statement assigns what has been said, `on` being what was assigned on each occasion. -/
structure AssignsSaid (kind : StatementKind) (on : Occasion → History String)
    (written overwritten : Assignments) : Prop where
  /-- The row that an insertion writes: what is assigned in either case overrides what is assigned
  to inserted rows. -/
  inserted : kind = .insert ∨ kind = .upsert →
    Assignments.Merges (on .onInsert) (on .always) written
  /-- The rows that an UPDATE writes: what is assigned to updated rows overrides what is assigned in
  either case. -/
  updated : kind = .update → Assignments.Merges (on .always) (on .onUpdate) written
  /-- So it does in the row that an UPSERT finds. -/
  found : kind = .upsert → Assignments.Merges (on .always) (on .onUpdate) overwritten
  /-- No other statement says anything about such a row. -/
  notFound : kind ≠ .upsert → overwritten = {}
  /-- What is assigned to inserted rows only is not assigned to any other row. -/
  insertOnly : ∀ column, column ∉ (on .always).columns → column ∉ (on .onUpdate).columns →
    column ∉ overwritten.columns ∧ (kind = .update → column ∉ written.columns)
  /-- What is assigned to updated rows only is not assigned to inserted ones. -/
  updateOnly : ∀ column, column ∉ (on .onInsert).columns → column ∉ (on .always).columns →
    kind = .insert ∨ kind = .upsert → column ∉ written.columns

/-- What a statement assigns, where lists of assignments come to what has been said. -/
theorem assignsSaid_of_merges (kind : StatementKind) {on : Occasion → History String} {c : Clauses}
    (h : ∀ first second, Assignments.Merges (on first) (on second)
      (.merged [c.assignedOn first, c.assignedOn second])) :
    AssignsSaid kind on (c.written kind) (c.overwritten kind) := by
  have hinserted : kind = .insert ∨ kind = .upsert →
      Assignments.Merges (on .onInsert) (on .always) (c.written kind) := by
    rintro (rfl | rfl) <;> exact h .onInsert .always
  have hupdated : kind = .update →
      Assignments.Merges (on .always) (on .onUpdate) (c.written kind) := by
    rintro rfl
    exact h .always .onUpdate
  have hfound : kind = .upsert →
      Assignments.Merges (on .always) (on .onUpdate) (c.overwritten kind) := by
    rintro rfl
    exact h .always .onUpdate
  have hnotFound : kind ≠ .upsert → c.overwritten kind = {} := by
    intro hkind
    cases kind with
    | upsert => exact absurd rfl hkind
    | select | insert | update | delete => rfl
  refine ⟨hinserted, hupdated, hfound, hnotFound, ?_, ?_⟩
  · intro column halways honUpdate
    refine ⟨fun hmem ↦ ?_, fun hkind hmem ↦ ?_⟩
    · by_cases hkind : kind = .upsert
      · exact ((hfound hkind).mem_columns_iff.1 hmem).elim halways honUpdate
      · rw [hnotFound hkind] at hmem
        exact absurd hmem List.not_mem_nil
    · exact ((hupdated hkind).mem_columns_iff.1 hmem).elim halways honUpdate
  · intro column honInsert halways hkind hmem
    exact ((hinserted hkind).mem_columns_iff.1 hmem).elim honInsert halways

/-- **A statement assigns what was said.** Whatever is done with a builder, its statement has one
part for the row that it writes and one for the row that is there already, in this order and right
behind its head, each unless it would be empty. These assign what has been said in time, and no
other clause assigns anything. -/
theorem assigns_what_was_said (kind : StatementKind) (table : String) (alias? : Option String)
    (settings : Settings) (steps : List Step) :
    let b := create kind table alias? settings
    let now := b.after steps
    let c := now.build.2.clauses
    let on occasion :=
      Setter.writtenFrom (effectiveAlias? kind alias?) occasion 0 (b.saidIn steps)
    ∃ written overwritten : Assignments,
      now.build.1 = " ".intercalate ((c.head kind).map Clause.text ++
          written.part "SET" ++ overwritten.part "ON DUPLICATE KEY UPDATE" ++
          c.closingClauses.map Clause.text) ∧
        (c.arranged kind).filterMap Clause.assignments? =
          [(ClauseKind.assign, written), (ClauseKind.onDuplicateKey, overwritten)].filter
            (!·.2.isEmpty) ∧
        AssignsSaid kind on written overwritten := by
  intro b now c on
  refine ⟨_, _, (build_after_eq_assemble rfl steps).trans (c.assemble_eq_part kind),
    c.filterMap_assignments?_arranged kind, assignsSaid_of_merges kind fun first second ↦ ?_⟩
  rw [show c = _ from clauses_build_after rfl steps]
  exact merges_withFilters kind table alias? settings (b.saidIn steps) first second

/-- Two names of one column, and a column that is assigned to once more. -/
example : ((create .update "users" (some "u") {}).after
    [.change [.assign .onInsert "id" (.int 1), .assign .always "name" (.text "ada"),
      .assignRaw .always "age" "0", .assign .always "u.name" (.text "eve"),
      .assignRaw .onUpdate "age" "age + 1"]]).build.1 =
    "UPDATE users u SET u.name = :p_2, u.age = age + 1" := by
  decide +kernel

end Builder

end ParamSql
