import ParamSql.Proofs.Param.Clean
import ParamSql.Proofs.Statement.Grammar
import ParamSql.Proofs.Statement.Rows

/-!
# Templates of statements

A statement has values in three places: what it assigns, what it assigns to the row that is already
there, and its condition. Given what stands there (`Contents`), the rest of the statement is taken
from its clauses (`Clauses.template`), and so is the rest of the counting statement
(`Clauses.countTemplate`).

The text of a statement spells its template if its assignments and its condition do
(`Contents.Spelled.assemble`), and the text of the counting statement spells the template of that
(`Contents.Spelled.countSql`). The template is clean if all that is put into it is
(`Clauses.clean_template`).
-/

namespace ParamSql

open Template (IsSpelledBy SpelledBy joined ofText)

/-- What stands in those places of a statement in which there are values. -/
structure Contents where
  /-- What is assigned to the row that is written. -/
  written : History Template := []
  /-- What is assigned to the row that is already there. -/
  overwritten : History Template := []
  /-- The condition on rows. -/
  condition : Template := []

/-! ### Templates -/

namespace Clauses

variable (c : Clauses)

/-- The template of a clause that assigns, if it assigns anything. -/
def assignmentTemplates (keyword : String) (assignments : History Template) : List Template :=
  if assignments.isEmpty then []
  else
    let parts := assignments.map fun entry ↦ ofText (entry.1 ++ " = ") ++ entry.2
    [ofText keyword ++ joined ", " parts]


/-- The templates of the clauses of a statement of the given kind, in order. -/
def templates (kind : StatementKind) (contents : Contents) : List Template :=
  (c.head kind).map (ofText ·.text) ++
  assignmentTemplates "SET " contents.written ++
  assignmentTemplates "ON DUPLICATE KEY UPDATE " contents.overwritten ++
  ((if contents.condition.isEmpty then [] else [ofText "WHERE " ++ contents.condition]) ++
    c.trailing.map (ofText ·.text))

/-- The template of a statement of the given kind. -/
def template (kind : StatementKind) (contents : Contents) : Template :=
  joined " " (c.templates kind contents)

/-- The template of the statement that counts the rows of a SELECT. A selection of distinct rows is
kept whole in it. -/
def countTemplate (contents : Contents) : Template :=
  if c.isDistinctSelection then
    ofText "SELECT COUNT(*) FROM (" ++ c.distinctRows.template .select contents ++
      ofText ") AS counted"
  else { c.unpaged with modifiers := [], columns := ["COUNT(*)"] }.template .select contents

/-- A selection of distinct rows is counted as a whole. -/
theorem countSql_of_isDistinctSelection (h : c.isDistinctSelection = true) :
    c.countSql = "SELECT COUNT(*) FROM (" ++ c.distinctRows.assemble .select ++ ") AS counted" := by
  have harranged : c.counting.arranged .select =
      [.select [] ["COUNT(*)"], .source c.distinctRows.derivedTable] := by
    rw [counting, if_pos h]
    simp [arranged, head, assignmentClause, written, overwritten, Assignments.isEmpty, unpaged,
      writtenLimit?, writtenOffset?, derivedTable, distinctRows]
  have hselect : (Clause.select [] ["COUNT(*)"]).sql = "SELECT COUNT(*)" := by decide +kernel
  -- only literals are compared by evaluation, for the statement inside is no closed text
  have hopening : "SELECT COUNT(*) FROM (" = "SELECT COUNT(*)" ++ " " ++ ("FROM " ++ "(") := by
    decide +kernel
  have hsource (target : String) : (Clause.source target).sql = "FROM " ++ target := rfl
  rw [countSql, assemble, harranged, hopening]
  simp only [List.map_cons, List.map_nil, String.intercalate_cons_cons,
    String.intercalate_singleton, hselect, hsource, derivedTable, String.append_assoc]

end Clauses

/-! ### Texts spell templates -/

namespace Contents

variable {stands : Nat → Value → Prop} {contents : Contents} {kind : StatementKind} {c : Clauses}

/-- The clauses of a statement have the contents in their places. -/
structure Spelled (stands : Nat → Value → Prop) (contents : Contents) (kind : StatementKind)
    (c : Clauses) : Prop where
  /-- What is assigned is spelled. -/
  written : contents.written.Parallel (IsSpelledBy stands) (c.written kind).entries
  /-- What is assigned to the row that is already there is spelled. -/
  overwritten : contents.overwritten.Parallel (IsSpelledBy stands) (c.overwritten kind).entries
  /-- The condition is spelled. -/
  condition : IsSpelledBy stands contents.condition c.condition

/-- A clause that assigns spells its template, and is absent with it. -/
theorem forall₂_isSpelledBy_assignmentClause {clause : Assignments → Clause} {keyword : String}
    (hclause : ∀ a, (clause a).text =
      keyword ++ ", ".intercalate (a.entries.map fun entry ↦ entry.1 ++ " = " ++ entry.2))
    {assignments : History Template} {a : Assignments}
    (h : assignments.Parallel (IsSpelledBy stands) a.entries) :
    List.Forall₂ (IsSpelledBy stands) (Clauses.assignmentTemplates keyword assignments)
      ((Clauses.assignmentClause clause a).map Clause.text) := by
  have hparts : List.Forall₂ (IsSpelledBy stands)
      (assignments.map fun entry ↦ ofText (entry.1 ++ " = ") ++ entry.2)
      (a.entries.map fun entry ↦ entry.1 ++ " = " ++ entry.2) := by
    rw [List.forall₂_map_left_iff, List.forall₂_map_right_iff]
    refine h.imp fun x y hentry ↦ ?_
    rw [hentry.1, IsSpelledBy, String.toList_append]
    exact (SpelledBy.ofText _).append hentry.2
  have hclauseText : IsSpelledBy stands
      (ofText keyword ++
        joined ", " (assignments.map fun entry ↦ ofText (entry.1 ++ " = ") ++ entry.2))
      (clause a).text := by
    rw [hclause, IsSpelledBy, String.toList_append]
    exact (SpelledBy.ofText keyword).append (.joined ", " hparts)
  obtain ⟨entries⟩ := a
  cases h with
  | nil => exact .nil
  | cons _ _ => exact .cons hclauseText .nil

theorem forall₂_isSpelledBy_text (clauses : List Clause) :
    List.Forall₂ (IsSpelledBy stands) (clauses.map (ofText ·.text)) (clauses.map Clause.text) := by
  rw [List.forall₂_map_left_iff, List.forall₂_map_right_iff, List.forall₂_same]
  exact fun clause _ ↦ .ofText clause.text

namespace Spelled

/-- **The text of a statement spells its template.** -/
theorem assemble (h : Spelled stands contents kind c) :
    IsSpelledBy stands (c.template kind contents) (c.assemble kind) := by
  have hwhere : IsSpelledBy stands (ofText "WHERE " ++ contents.condition)
      ("WHERE " ++ c.condition) := by
    rw [IsSpelledBy, String.toList_append]
    exact (SpelledBy.ofText "WHERE ").append h.condition
  have hcondition : List.Forall₂ (IsSpelledBy stands)
      (if contents.condition.isEmpty then [] else [ofText "WHERE " ++ contents.condition])
      ((if c.condition.isEmpty then [] else [Clause.condition c.condition]).map Clause.text) := by
    have hempty : contents.condition.isEmpty = c.condition.isEmpty := by
      rw [Bool.eq_iff_iff, List.isEmpty_iff, h.condition.eq_nil_iff, String.toList_eq_nil_iff,
        String.isEmpty_iff]
    rw [hempty]
    cases c.condition.isEmpty with
    | true => exact .nil
    | false => exact .cons hwhere .nil
  rw [c.assemble_eq_text]
  refine .joined " " ?_
  rw [c.arranged_eq, Clauses.openingClauses, Clauses.closingClauses, List.map_append,
    List.map_append, List.map_append, List.map_append]
  refine List.rel_append (List.rel_append (List.rel_append ?_ ?_) ?_)
    (List.rel_append hcondition ?_)
  · exact forall₂_isSpelledBy_text (c.head kind)
  · exact forall₂_isSpelledBy_assignmentClause (fun _ ↦ rfl) h.written
  · exact forall₂_isSpelledBy_assignmentClause (fun _ ↦ rfl) h.overwritten
  · exact forall₂_isSpelledBy_text c.trailing

/-- **The text of the counting statement spells its template.** -/
theorem countSql (h : Spelled stands contents .select c) :
    IsSpelledBy stands (c.countTemplate contents) c.countSql := by
  unfold Clauses.countTemplate
  split
  · rename_i hdistinct
    have hinner : Spelled stands contents .select c.distinctRows :=
      ⟨h.written, h.overwritten, h.condition⟩
    rw [c.countSql_of_isDistinctSelection hdistinct, IsSpelledBy, String.toList_append,
      String.toList_append]
    exact ((SpelledBy.ofText _).append hinner.assemble).append (.ofText _)
  · rename_i hplain
    have hcounting : c.counting = { c.unpaged with modifiers := [], columns := ["COUNT(*)"] } := by
      rw [Clauses.counting, if_neg hplain]
    have hinner : Spelled stands contents .select c.counting := by
      rw [hcounting]
      exact ⟨h.written, h.overwritten, h.condition⟩
    rw [Clauses.countSql, ← hcounting]
    exact hinner.assemble

end Spelled

/-- All that stands in a statement is clean. -/
structure Clean (contents : Contents) : Prop where
  /-- What is assigned is clean. -/
  written : ∀ entry ∈ contents.written, Template.Clean (ofText entry.1) ∧ Template.Clean entry.2
  /-- What is assigned to the row that is already there is clean. -/
  overwritten :
    ∀ entry ∈ contents.overwritten, Template.Clean (ofText entry.1) ∧ Template.Clean entry.2
  /-- The condition is clean. -/
  condition : Template.Clean contents.condition

end Contents

/-! ### Templates are clean -/

namespace Clauses

/-- The texts that have been collected are clean, except for those in which there are values. -/
structure Clean (c : Clauses) : Prop where
  /-- The keywords are clean. -/
  modifiers : ∀ m ∈ c.modifiers, Template.Clean (ofText m)
  /-- The selected columns and expressions are clean. -/
  columns : ∀ column ∈ c.columns, Template.Clean (ofText column)
  /-- The order is clean. -/
  ordering : ∀ term ∈ c.ordering, Template.Clean (ofText term)
  /-- The target is clean. -/
  target : Template.Clean (ofText c.target)
  /-- The target of an insertion is clean. -/
  insertTarget : Template.Clean (ofText c.insertTarget)

/-- Clean texts are clean when they are joined. -/
theorem clean_ofText_intercalate {separator : String} (h : Template.IsSeparator separator)
    {texts : List String} (htexts : ∀ text ∈ texts, Template.Clean (ofText text)) :
    Template.Clean (ofText (separator.intercalate texts)) := by
  rw [Template.ofText_intercalate]
  refine .joined h fun t ht ↦ ?_
  obtain ⟨text, hmem, rfl⟩ := List.mem_map.1 ht
  exact htexts text hmem

/-- There is no colon in a keyword, so a clause is clean if what stands behind its keyword is. -/
theorem clean_text {clause : Clause} (h : Template.Clean (ofText clause.body)) :
    Template.Clean (ofText clause.text) := by
  have hkeyword : ∀ kind : ClauseKind, ':' ∉ (kind.keyword ++ " ").toList := by
    intro kind
    cases kind <;> decide
  rw [Clause.text, Template.ofText_append]
  exact h.opened (hkeyword clause.kind)

theorem clean_repr (n : Nat) : Template.Clean (ofText (Nat.repr n)) := by
  refine (Template.plain_ofText fun hcolon ↦ ?_).clean
  rw [Nat.toList_repr] at hcolon
  exact absurd (Nat.isDigit_of_mem_toDigits (by decide) (by decide) hcolon) (by decide)

variable {c : Clauses}

theorem Clean.head (h : c.Clean) (kind : StatementKind) :
    ∀ clause ∈ c.head kind, Template.Clean (ofText clause.text) := by
  have hselect : Template.Clean (ofText (Clause.select c.modifiers c.columns).body) := by
    have hlist {list : String} (hlist : Template.Clean (ofText list)) :
        Template.Clean (ofText (" ".intercalate (c.modifiers ++ [list]))) :=
      clean_ofText_intercalate (by decide)
        (List.forall_mem_append.2 ⟨h.modifiers, List.forall_mem_singleton.2 hlist⟩)
    have hcolumns := h.columns
    generalize c.columns = columns at hcolumns ⊢
    cases columns with
    | nil => exact hlist (Template.plain_ofText (by decide)).clean
    | cons => exact hlist (clean_ofText_intercalate (by decide) hcolumns)
  cases kind with
  | select =>
    exact List.forall_mem_cons.2
      ⟨clean_text hselect, List.forall_mem_singleton.2 (clean_text h.target)⟩
  | insert | upsert => exact List.forall_mem_singleton.2 (clean_text h.insertTarget)
  | update | delete => exact List.forall_mem_singleton.2 (clean_text h.target)

theorem Clean.trailing (h : c.Clean) :
    ∀ clause ∈ c.trailing, Template.Clean (ofText clause.text) := by
  intro clause hclause
  rw [Clauses.trailing] at hclause
  rcases List.mem_append.1 hclause with hrest | hoffset
  rcases List.mem_append.1 hrest with hordering | hlimit
  · split at hordering
    · cases hordering
    · obtain rfl := List.mem_singleton.1 hordering
      exact clean_text (clean_ofText_intercalate (by decide) h.ordering)
  · obtain ⟨n, -, rfl⟩ := Option.map_eq_some_iff.1 (Option.mem_toList.1 hlimit)
    exact clean_text (clean_repr n)
  · obtain ⟨n, -, rfl⟩ := Option.map_eq_some_iff.1 (Option.mem_toList.1 hoffset)
    exact clean_text (clean_repr n)

theorem clean_of_mem_assignmentTemplates {keyword : String} (h : ':' ∉ keyword.toList)
    {assignments : History Template}
    (hassignments : ∀ entry ∈ assignments,
      Template.Clean (ofText entry.1) ∧ Template.Clean entry.2) :
    ∀ t ∈ assignmentTemplates keyword assignments, Template.Clean t := by
  intro t ht
  unfold assignmentTemplates at ht
  split at ht
  · cases ht
  · obtain rfl := List.mem_singleton.1 ht
    refine Template.Clean.opened h (.joined (by decide) fun part hpart ↦ ?_)
    obtain ⟨entry, hmem, rfl⟩ := List.mem_map.1 hpart
    obtain ⟨hcolumn, hexpression⟩ := hassignments entry hmem
    rw [Template.ofText_append, List.append_assoc]
    exact hcolumn.separated (by decide) hexpression

/-- **The template of a statement is clean** if all that is put into it is. -/
theorem clean_template (h : c.Clean) {contents : Contents} (hcontents : contents.Clean)
    (kind : StatementKind) : Template.Clean (c.template kind contents) := by
  refine .joined (by decide) fun t ht ↦ ?_
  rw [templates] at ht
  rcases List.mem_append.1 ht with hopening | hclosing
  · rcases List.mem_append.1 hopening with hset | hoverwritten
    · rcases List.mem_append.1 hset with hhead | hwritten
      · obtain ⟨clause, hclause, rfl⟩ := List.mem_map.1 hhead
        exact h.head kind clause hclause
      · exact clean_of_mem_assignmentTemplates (by decide) hcontents.written t hwritten
    · exact clean_of_mem_assignmentTemplates (by decide) hcontents.overwritten t hoverwritten
  · rcases List.mem_append.1 hclosing with hcondition | htrailing
    · split at hcondition
      · cases hcondition
      · obtain rfl := List.mem_singleton.1 hcondition
        exact hcontents.condition.opened (by decide)
    · obtain ⟨clause, hclause, rfl⟩ := List.mem_map.1 htrailing
      exact h.trailing clause hclause

end Clauses

end ParamSql
