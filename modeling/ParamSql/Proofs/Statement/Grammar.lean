import ParamSql.Proofs.Builder.Said
import ParamSql.Proofs.Statement.Settled

/-!
# Which clauses a statement has

Every clause is a keyword with something behind it (`Clause.text`), and what a statement reads as is
its clauses one after the other (`assemble_eq_text`).

The grammar of MySQL admits certain clauses in a statement of each kind, in one order, demands some
of them, and skips rows only behind a limit (`Legal`). A statement that assigns what its kind has to
assign always has its clauses in that order and lacks none that its kind demands. What it may have
are clauses that its kind does not admit: a condition, an order, a limit and an offset are written
for every kind for which they were given. So the statement is legal exactly if its kind admits all
of these that are written (`legal_arranged_iff`).

A statement opens with the clauses that its kind alone decides on and closes with those that are
written whatever the kind is; the two parts are looked at one by one.
-/

namespace ParamSql

/-- The kinds of clause. -/
inductive ClauseKind
  /-- What is selected. -/
  | select
  /-- Where it is selected from. -/
  | source
  /-- The head of an insertion. -/
  | insertInto
  /-- The head of an update. -/
  | update
  /-- The head of a deletion. -/
  | deleteFrom
  /-- Assignments. -/
  | assign
  /-- Assignments to the row that is already there. -/
  | onDuplicateKey
  /-- The condition on rows. -/
  | condition
  /-- The order of rows. -/
  | ordering
  /-- The greatest number of rows. -/
  | limit
  /-- The number of rows skipped. -/
  | offset
deriving DecidableEq

/-- The kind of a clause. -/
def Clause.kind : Clause → ClauseKind
  | select .. => .select
  | source _ => .source
  | insertInto _ => .insertInto
  | update _ => .update
  | deleteFrom _ => .deleteFrom
  | assign _ => .assign
  | onDuplicateKey _ => .onDuplicateKey
  | condition _ => .condition
  | ordering _ => .ordering
  | limit _ => .limit
  | offset _ => .offset

/-! ### Texts -/

/-- The keyword of a kind of clause. -/
def ClauseKind.keyword : ClauseKind → String
  | select => "SELECT"
  | source => "FROM"
  | insertInto => "INSERT INTO"
  | update => "UPDATE"
  | deleteFrom => "DELETE FROM"
  | assign => "SET"
  | onDuplicateKey => "ON DUPLICATE KEY UPDATE"
  | condition => "WHERE"
  | ordering => "ORDER BY"
  | limit => "LIMIT"
  | offset => "OFFSET"

namespace Clause

/-- What stands behind the keyword of a clause. Whatever is listed is separated by commas, but for
the keywords in front of what is selected. -/
def body : Clause → String
  | select modifiers [] => " ".intercalate (modifiers ++ ["*"])
  | select modifiers columns => " ".intercalate (modifiers ++ [", ".intercalate columns])
  | source target | insertInto target | update target | deleteFrom target => target
  | assign assignments | onDuplicateKey assignments =>
    ", ".intercalate (assignments.entries.map fun entry ↦ entry.1 ++ " = " ++ entry.2)
  | condition sql => sql
  | ordering terms => ", ".intercalate terms
  | limit rows | offset rows => Nat.repr rows

/-- A clause as it reads: its keyword and what stands behind it. -/
def text (clause : Clause) : String :=
  clause.kind.keyword ++ " " ++ clause.body

/-- **Every clause is written as it should read.** -/
theorem sql_eq_text (clause : Clause) : clause.sql = clause.text := by
  cases clause with
  | select modifiers columns =>
    have hne (list : String) : modifiers ++ [list] ≠ [] :=
      List.append_ne_nil_of_right_ne_nil _ nofun
    cases columns with
    | nil | cons => exact String.intercalate_cons_of_ne_nil (hne _)
  | _ => rfl

end Clause

/-- **Every statement reads as its clauses**, one after the other. -/
theorem Clauses.assemble_eq_text (kind : StatementKind) (c : Clauses) :
    c.assemble kind = " ".intercalate ((c.arranged kind).map Clause.text) :=
  congrArg (" ".intercalate ·) (List.map_congr_left fun clause _ ↦ clause.sql_eq_text)

/-! ### The grammar -/

namespace StatementKind

/-- The clauses that a statement of a kind opens with, in order. -/
def opening : StatementKind → List ClauseKind
  | select => [.select, .source]
  | insert => [.insertInto, .assign]
  | upsert => [.insertInto, .assign, .onDuplicateKey]
  | update => [.update, .assign]
  | delete => [.deleteFrom]

/-- The clauses that it may close with, in order. -/
def closing : StatementKind → List ClauseKind
  | select => [.condition, .ordering, .limit, .offset]
  | insert | upsert => []
  | update | delete => [.condition, .ordering, .limit]

/-- The clauses that it cannot do without. -/
def demanded : StatementKind → List ClauseKind
  | select => [.select, .source]
  | insert | upsert => [.insertInto, .assign]
  | update => [.update, .assign]
  | delete => [.deleteFrom]

end StatementKind

/-- The clauses of a statement are in order, each at most once, if it may close with the given ones;
none is missing that its kind demands, and rows are skipped only behind a limit. -/
structure InOrder (kind : StatementKind) (closing clauses : List ClauseKind) : Prop where
  /-- The clauses are in order. -/
  ordered : clauses.Sublist (kind.opening ++ closing)
  /-- None is missing. -/
  complete : kind.demanded ⊆ clauses
  /-- There is no offset without a limit. -/
  paged : .offset ∈ clauses → .limit ∈ clauses

/-- The clauses are those that the grammar admits in a statement of the kind. -/
def Legal (kind : StatementKind) (clauses : List Clause) : Prop :=
  InOrder kind kind.closing (clauses.map Clause.kind)

/-- The clauses that are written whatever the kind of the statement is, in order. -/
def ClauseKind.common : List ClauseKind :=
  [.condition, .ordering, .limit, .offset]

namespace Clauses

variable (c : Clauses)

/-- Whether a clause is written that does not depend on the kind of the statement. -/
def writes : ClauseKind → Bool
  | .condition => !c.condition.isEmpty
  | .ordering => !c.ordering.isEmpty
  | .limit => c.writtenLimit?.isSome
  | .offset => c.writtenOffset?.isSome
  | _ => false

/-! ### Opening and closing -/

/-- What a statement opens with. -/
def openingClauses (kind : StatementKind) : List Clause :=
  c.head kind ++ assignmentClause .assign (c.written kind) ++
    assignmentClause .onDuplicateKey (c.overwritten kind)

/-- The clauses behind the condition. -/
def trailing : List Clause :=
  (if c.ordering.isEmpty then [] else [.ordering c.ordering]) ++
  (c.writtenLimit?.map Clause.limit).toList ++
  (c.writtenOffset?.map Clause.offset).toList

/-- What it closes with. -/
def closingClauses : List Clause :=
  (if c.condition.isEmpty then [] else [.condition c.condition]) ++ c.trailing

theorem arranged_eq (kind : StatementKind) :
    c.arranged kind = c.openingClauses kind ++ c.closingClauses := by
  simp only [arranged, openingClauses, closingClauses, trailing, List.append_assoc]

theorem map_kind_trailing :
    c.trailing.map Clause.kind = [ClauseKind.ordering, .limit, .offset].filter c.writes := by
  simp only [trailing, List.filter, writes]
  cases c.ordering.isEmpty <;> cases c.writtenLimit? <;> cases c.writtenOffset? <;> rfl

theorem map_kind_closingClauses :
    c.closingClauses.map Clause.kind = ClauseKind.common.filter c.writes := by
  have hcondition : (if c.condition.isEmpty then [] else [Clause.condition c.condition]).map
      Clause.kind = [ClauseKind.condition].filter c.writes := by
    simp only [List.filter, writes]
    cases c.condition.isEmpty <;> rfl
  rw [closingClauses, List.map_append, hcondition, map_kind_trailing, ← List.filter_append]
  rfl

theorem assignmentClause_eq_singleton {clause : Assignments → Clause} {a : Assignments}
    (h : a.entries ≠ []) : assignmentClause clause a = [clause a] :=
  if_neg (mt List.isEmpty_iff.1 h)

theorem assignmentClause_eq_nil {clause : Assignments → Clause} {a : Assignments}
    (h : a.entries = []) : assignmentClause clause a = [] :=
  if_pos (List.isEmpty_iff.2 h)

theorem map_kind_assignmentClause (clause : Assignments → Clause) (a : Assignments) :
    (assignmentClause clause a).map Clause.kind = if a.isEmpty then [] else [(clause a).kind] := by
  rw [assignmentClause]
  split <;> rfl

theorem map_kind_assignmentClause_sublist (clause : Assignments → Clause) (a : Assignments) :
    ((assignmentClause clause a).map Clause.kind).Sublist [(clause a).kind] := by
  rw [map_kind_assignmentClause]
  split
  · exact List.nil_sublist _
  · exact .refl _

/-- What a statement opens with is in order. -/
theorem map_kind_openingClauses_sublist (kind : StatementKind) :
    ((c.openingClauses kind).map Clause.kind).Sublist kind.opening := by
  have hassign := map_kind_assignmentClause_sublist .assign (c.written kind)
  have hoverwrite := map_kind_assignmentClause_sublist .onDuplicateKey (c.overwritten kind)
  rw [openingClauses, List.map_append, List.map_append]
  cases kind with
  | select | delete => exact .refl _
  | insert | update =>
    show (_ ++ []).Sublist _
    rw [List.append_nil]
    exact hassign.cons_cons _
  | upsert => exact (hassign.append hoverwrite).cons_cons _

/-- A statement that assigns what its kind has to assign opens with all that is demanded. -/
theorem demanded_subset_map_kind {kind : StatementKind}
    (h : .assign ∈ kind.opening → (c.written kind).isEmpty = false) :
    kind.demanded ⊆ (c.openingClauses kind).map Clause.kind := by
  rw [openingClauses, List.map_append, List.map_append, map_kind_assignmentClause,
    map_kind_assignmentClause]
  cases kind with
  | select | delete => exact List.Subset.refl _
  | insert | update | upsert =>
    rw [h (by decide)]
    exact List.subset_append_left _ _

theorem writes_offset_iff : c.writes .offset = true ↔ 0 < c.offset := by
  rw [writes, writtenOffset?]
  split <;> simp_all

/-- There is a limit if one is asked for, and if rows are skipped. -/
theorem writes_limit_iff : c.writes .limit = true ↔ 0 ≤ c.limit ∨ 0 < c.offset := by
  rw [writes, writtenLimit?]
  by_cases hlimit : 0 ≤ c.limit
  · simp [hlimit]
  · by_cases hoffset : 0 < c.offset <;> simp [hlimit, hoffset]

/-- Rows are skipped only behind a limit. -/
theorem writes_limit_of_writes_offset (h : c.writes .offset = true) : c.writes .limit = true :=
  c.writes_limit_iff.2 (.inr (c.writes_offset_iff.1 h))

end Clauses

/-! ### Legal statements -/

section Legality

variable {kind : StatementKind} {c : Clauses}

/-- No statement opens with a clause that all kinds have in common. -/
theorem ClauseKind.not_mem_opening {k : ClauseKind} (hk : k ∈ ClauseKind.common) :
    k ∉ kind.opening := by
  revert k
  cases kind <;> decide

/-- A statement that assigns what its kind has to assign is in order, if it may close with any of
the clauses that all kinds have in common. -/
theorem inOrder_arranged (h : .assign ∈ kind.opening → (c.written kind).isEmpty = false) :
    InOrder kind ClauseKind.common ((c.arranged kind).map Clause.kind) := by
  rw [c.arranged_eq, List.map_append, c.map_kind_closingClauses]
  refine ⟨(c.map_kind_openingClauses_sublist kind).append List.filter_sublist,
    List.Subset.trans (c.demanded_subset_map_kind h) (List.subset_append_left _ _), ?_⟩
  intro hoffset
  rcases List.mem_append.1 hoffset with hopening | hclosing
  · have hmem := (c.map_kind_openingClauses_sublist kind).subset hopening
    exact absurd hmem (ClauseKind.not_mem_opening (by decide))
  · have hwrites := c.writes_limit_of_writes_offset (List.mem_filter.1 hclosing).2
    exact List.mem_append_right _ (List.mem_filter.2 ⟨by decide, hwrites⟩)

/-- A clause that all kinds have in common is in a statement exactly if it is written. -/
theorem mem_map_kind_arranged_iff {k : ClauseKind} (hk : k ∈ ClauseKind.common) :
    k ∈ (c.arranged kind).map Clause.kind ↔ c.writes k = true := by
  have hopening : k ∉ (c.openingClauses kind).map Clause.kind := fun hmem ↦
    ClauseKind.not_mem_opening hk ((c.map_kind_openingClauses_sublist kind).subset hmem)
  rw [c.arranged_eq, List.map_append, List.mem_append, c.map_kind_closingClauses, List.mem_filter,
    or_iff_right hopening, and_iff_right hk]

/-- **When the clauses of a statement are legal**: exactly if its kind admits all clauses that are
written whatever the kind is. -/
theorem legal_arranged_iff (h : .assign ∈ kind.opening → (c.written kind).isEmpty = false) :
    Legal kind (c.arranged kind) ↔
      ∀ k ∈ ClauseKind.common, k ∈ (c.arranged kind).map Clause.kind → k ∈ kind.closing := by
  have horder := inOrder_arranged h
  constructor
  · intro hlegal k hk hmem
    exact (List.mem_append.1 (hlegal.ordered.subset hmem)).resolve_left
      (ClauseKind.not_mem_opening hk)
  · intro hadmits
    refine ⟨?_, horder.complete, horder.paged⟩
    -- of the common clauses those are written that the kind admits
    have hadmitted : ClauseKind.common.filter c.writes = kind.closing.filter c.writes := by
      have hclosing : kind.closing = ClauseKind.common.filter (· ∈ kind.closing) := by
        cases kind <;> decide
      rw [hclosing, List.filter_filter]
      refine List.filter_congr fun k hk ↦ ?_
      cases hwrites : c.writes k with
      | true => simpa using hadmits k hk ((mem_map_kind_arranged_iff hk).2 hwrites)
      | false => rfl
    rw [c.arranged_eq, List.map_append, c.map_kind_closingClauses, hadmitted]
    exact (c.map_kind_openingClauses_sublist kind).append List.filter_sublist

end Legality

/-! ### Statements that pass the check -/

namespace Builder

/-- What a run builds reads as the clauses that its builder shows. -/
theorem build_after_eq_text {b : Builder} (h : b.isBuilt = false) (steps : List Step) :
    (b.after steps).build.1 =
      " ".intercalate (((b.after steps).build.2.clauses.arranged b.kind).map Clause.text) :=
  (build_after_eq_assemble h steps).trans (Clauses.assemble_eq_text _ _)

/-- Filters have no part in what is assigned. -/
theorem lacksAssignments_build (b : Builder) :
    b.build.2.lacksAssignments = b.lacksAssignments :=
  b.build_keeps lacksAssignments fun _ _ _ _ ↦ rfl

/-- A builder lacks assignments if its kind demands some and nothing would be assigned. -/
theorem isEmpty_written_eq_false {b : Builder} (h : b.lacksAssignments = false)
    (hassign : .assign ∈ b.kind.opening) : (b.clauses.written b.kind).isEmpty = false := by
  rw [lacksAssignments] at h
  cases hkind : b.kind with
  | select | delete =>
    rw [hkind] at hassign
    exact absurd hassign (by decide)
  | insert | upsert =>
    rw [hkind] at h
    rw [Clauses.written, Assignments.isEmpty_merged_pair, Bool.and_comm]
    exact h
  | update =>
    rw [hkind] at h
    rw [Clauses.written, Assignments.isEmpty_merged_pair]
    exact h

/-- What passes the check lacks no assignments. -/
theorem lacksAssignments_of_validate {b : Builder} (h : b.validate = .ok ()) :
    b.lacksAssignments = false := by
  have hnone := validate_eq_ok_iff.1 h
  by_contra hlacks
  rw [misuse?] at hnone
  split at hnone
  · cases hnone
  · rw [if_pos (Bool.of_not_eq_false hlacks)] at hnone
    split at hnone <;> cases hnone

end Builder

end ParamSql
