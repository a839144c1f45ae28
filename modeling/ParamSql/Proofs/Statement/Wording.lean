import ParamSql.Proofs.Filter.Leaves
import ParamSql.Proofs.Identifier.Wording
import ParamSql.Proofs.Statement.Grammar

/-!
# Wordings of filters and statements

Where names stand in a condition and in a statement. The wording of a filter follows the tree
(`Filter.wording?`), and the text of the filter spells it (`Filter.forall₂_wordings_texts`).

A statement has names in the places that `Places` lists; given what stands there, the rest of its
wording is keywords and numbers, which are taken from its clauses (`Clauses.wording`). The text of a
statement spells its wording as soon as the fragments that have been collected for it spell what
belongs into these places (`Places.Spelled.assemble`).
-/

namespace ParamSql

open Wording (SpelledBy joined ofColumn)

/-! ### Filters -/

namespace Filter

section Wording

variable (part : String → Part) (alias? : Option String)

/-- The wording of a comparison with a value that is bound under the number `start`. -/
def comparisonWording (column : String) (comparison : Comparison) (value : Value) (start : Nat) :
    Wording :=
  ofComparison comparison value (ofColumn part alias? column ++ [.text " is null"])
    (ofColumn part alias? column ++ [.text " is not null"]) [.text alwaysFalse]
    (ofColumn part alias? column ++
      [.text (" " ++ comparison.sql ++ " " ++ Params.placeholderAt start)])

/-- The wording of membership in a list of `count` values that are bound under the numbers from
`start` on. -/
def membershipWording (column : String) (count start : Nat) : Wording :=
  let placeholders := (List.range' start count).map Params.placeholderAt
  ofMembership count [.text alwaysFalse]
    (ofColumn part alias? column ++ [.text (" in (" ++ ", ".intercalate placeholders ++ ")")])

/-- The wording of a group, if there is anything in it. -/
def groupWording? (separator : String) (wordings : List Wording) : Option Wording :=
  if wordings.isEmpty then none else some (.text "(" :: joined separator wordings ++ [.text ")"])

mutual

/-- The wording of a filter whose values are bound under the numbers from `start` on; nothing if
there is no condition in it. -/
def wording? : (start : Nat) → Filter → Option Wording
  | start, all children => groupWording? " and " (wordings start children)
  | start, any children => groupWording? " or " (wordings start children)
  | start, compare column comparison value =>
    some (comparisonWording part alias? column comparison value start)
  | start, oneOf column values => some (membershipWording part alias? column values.length start)

/-- The wordings of those of several filters that have one. -/
def wordings : (start : Nat) → List Filter → List Wording
  | _, [] => []
  | start, filter :: rest =>
    (wording? start filter).toList ++ wordings (start + filter.bound.length) rest

end

end Wording

variable {part : String → Part} {alias? : Option String}

section Leaf

variable (halias : ∀ qualifier ∈ alias?, SpelledBy [part qualifier] qualifier)
include halias

theorem comparisonWording_spelledBy (column : String) (comparison : Comparison) (value : Value)
    (start : Nat) :
    SpelledBy (comparisonWording part alias? column comparison value start)
      (comparisonSql (Identifier.resolve alias? column) comparison value start) := by
  have hcolumn := Wording.spelledBy_resolve halias column
  rw [comparisonSql_eq]
  refine ofComparison_rel (hcolumn.ended _) (hcolumn.ended _) (.ofText _) fun _ ↦ ?_
  have hended := hcolumn.ended (" " ++ comparison.sql ++ " " ++ Params.placeholderAt start)
  simpa only [String.append_assoc] using hended

theorem membershipWording_spelledBy (column : String) (count start : Nat) :
    SpelledBy (membershipWording part alias? column count start)
      (membershipSql (Identifier.resolve alias? column) count start) := by
  rw [membershipSql_eq]
  refine ofMembership_rel (.ofText _) ?_
  have hended := (Wording.spelledBy_resolve halias column).ended
    (" in (" ++ ", ".intercalate ((List.range' start count).map Params.placeholderAt) ++ ")")
  simpa only [String.append_assoc] using hended

end Leaf

/-- A group spells the wording of a group, and is absent with it. -/
theorem forall₂_groupWording_group? (separator : String) {wordings : List Wording}
    {texts : List String} (h : List.Forall₂ SpelledBy wordings texts) :
    List.Forall₂ SpelledBy (groupWording? separator wordings).toList
      (group? separator texts).toList := by
  cases h with
  | nil => exact .nil
  | cons hfirst hrest =>
    refine .cons ?_ .nil
    exact ((SpelledBy.joined separator (.cons hfirst hrest)).text "(").ended ")"

/-- **The texts of filters spell their wordings.** -/
theorem forall₂_wordings_texts
    (halias : ∀ qualifier ∈ alias?, SpelledBy [part qualifier] qualifier) (start : Nat)
    (filters : List Filter) :
    List.Forall₂ SpelledBy (wordings part alias? start filters) (texts alias? start filters) := by
  induction filters using list_induction generalizing start with
  | nil => exact .nil
  | cons filter rest hfirst hrest =>
    simp only [wordings, texts, List.append_nil] at hfirst ⊢
    exact List.rel_append (hfirst start) (hrest _)
  | all children ih | any children ih =>
    simp only [wordings, wording?, texts, sql?, List.append_nil]
    exact forall₂_groupWording_group? _ (ih start)
  | compare column comparison value =>
    exact .cons (comparisonWording_spelledBy halias column comparison value start) .nil
  | oneOf column values =>
    exact .cons (membershipWording_spelledBy halias column values.length start) .nil

end Filter

/-! ### Statements -/

/-- What stands in those places of a statement in which there are names. -/
structure Places where
  /-- What is selected from, changed, removed from or inserted into. -/
  target : Wording
  /-- What is selected. -/
  columns : List Wording := []
  /-- What is assigned to the row that is written. -/
  written : List Wording := []
  /-- What is assigned to the row that is already there. -/
  overwritten : List Wording := []
  /-- What rows must meet. -/
  conditions : List Wording := []
  /-- How rows are ordered. -/
  ordering : List Wording := []

namespace Clauses

/-- The wording of a clause that lists what a keyword is about, if there is anything to list. -/
def listWordings (keyword separator : String) (items : List Wording) : List Wording :=
  if items.isEmpty then [] else [.text keyword :: joined separator items]

/-- The wordings of the clauses that a kind begins with. -/
def headWordings (kind : StatementKind) (c : Clauses) (p : Places) : List Wording :=
  match kind with
  | .select =>
    let list := if p.columns.isEmpty then [.text "*"] else joined ", " p.columns
    [joined " " (("SELECT" :: c.modifiers).map (fun keyword ↦ [.text keyword]) ++ [list]),
      .text "FROM " :: p.target]
  | .insert | .upsert => [.text "INSERT INTO " :: p.target]
  | .update => [.text "UPDATE " :: p.target]
  | .delete => [.text "DELETE FROM " :: p.target]

/-- The wordings of the clauses of a statement of the given kind, in order. -/
def wordings (kind : StatementKind) (c : Clauses) (p : Places) : List Wording :=
  c.headWordings kind p ++
  listWordings "SET " ", " p.written ++
  listWordings "ON DUPLICATE KEY UPDATE " ", " p.overwritten ++
  listWordings "WHERE " " and " p.conditions ++
  listWordings "ORDER BY " ", " p.ordering ++
  (c.writtenLimit?.map fun n ↦ [.text (Clause.limit n).text]).toList ++
  (c.writtenOffset?.map fun n ↦ [.text (Clause.offset n).text]).toList

/-- The wording of a statement of the given kind. -/
def wording (kind : StatementKind) (c : Clauses) (p : Places) : Wording :=
  joined " " (c.wordings kind p)

end Clauses

namespace Places

variable {kind : StatementKind} {p : Places} {c : Clauses}

/-- An assignment as it is written. -/
def assignmentSql (entry : String × String) : String :=
  entry.1 ++ " = " ++ entry.2

/-- The clauses of a statement have in them what belongs into the places for names. -/
structure Spelled (kind : StatementKind) (p : Places) (c : Clauses) : Prop where
  /-- The target is spelled. -/
  target : SpelledBy p.target
    (match kind with
      | .insert | .upsert => c.insertTarget
      | .select | .update | .delete => c.target)
  /-- What is selected is spelled. -/
  columns : List.Forall₂ SpelledBy p.columns c.columns
  /-- What is assigned is spelled. -/
  written : List.Forall₂ SpelledBy p.written ((c.written kind).entries.map assignmentSql)
  /-- What is assigned to the row that is already there is spelled. -/
  overwritten :
    List.Forall₂ SpelledBy p.overwritten ((c.overwritten kind).entries.map assignmentSql)
  /-- The conditions are spelled by texts that make up the condition. -/
  conditions : ∃ texts, List.Forall₂ SpelledBy p.conditions texts ∧
    c.condition = " and ".intercalate texts ∧ (c.condition = "" ↔ texts = [])
  /-- The order is spelled. -/
  ordering : List.Forall₂ SpelledBy p.ordering c.ordering

/-- A clause that lists spells its wording, and is absent with it. -/
theorem forall₂_listWordings (keyword separator : String) {items : List Wording}
    {texts : List String} (h : List.Forall₂ SpelledBy items texts) :
    List.Forall₂ SpelledBy (Clauses.listWordings keyword separator items)
      (if texts.isEmpty then [] else [keyword ++ separator.intercalate texts]) := by
  cases h with
  | nil => exact .nil
  | cons hfirst hrest =>
    exact .cons ((SpelledBy.joined separator (.cons hfirst hrest)).text keyword) .nil

theorem Spelled.head (h : Spelled kind p c) :
    List.Forall₂ SpelledBy (c.headWordings kind p) ((c.head kind).map Clause.text) := by
  have htarget := h.target
  cases kind with
  | select =>
    have hlist : SpelledBy (if p.columns.isEmpty then [.text "*"] else joined ", " p.columns)
        (if c.columns.isEmpty then "*" else ", ".intercalate c.columns) := by
      have hcolumns := h.columns
      revert hcolumns
      generalize p.columns = wordings, c.columns = texts
      intro hcolumns
      cases hcolumns with
      | nil => exact .ofText "*"
      | cons hfirst hrest => exact .joined ", " (.cons hfirst hrest)
    have hkeywords : List.Forall₂ SpelledBy
        (("SELECT" :: c.modifiers).map fun keyword ↦ [.text keyword])
        ("SELECT" :: c.modifiers) := by
      rw [List.forall₂_map_left_iff, List.forall₂_same]
      exact fun keyword _ ↦ .ofText keyword
    refine .cons ?_ (.cons (htarget.text "FROM ") .nil)
    rw [← Clause.sql_eq_text]
    exact .joined " " (List.rel_append hkeywords (.cons hlist .nil))
  | insert => exact .cons (htarget.text "INSERT INTO ") .nil
  | upsert => exact .cons (htarget.text "INSERT INTO ") .nil
  | update => exact .cons (htarget.text "UPDATE ") .nil
  | delete => exact .cons (htarget.text "DELETE FROM ") .nil

/-- A clause that assigns spells its wording, and is absent with it. -/
theorem forall₂_assignmentClause {clause : Assignments → Clause} {keyword : String}
    (hclause : ∀ a, (clause a).text = keyword ++ ", ".intercalate (a.entries.map assignmentSql))
    {items : List Wording} {a : Assignments}
    (h : List.Forall₂ SpelledBy items (a.entries.map assignmentSql)) :
    List.Forall₂ SpelledBy (Clauses.listWordings keyword ", " items)
      ((Clauses.assignmentClause clause a).map Clause.text) := by
  have htext : (Clauses.assignmentClause clause a).map Clause.text =
      if (a.entries.map assignmentSql).isEmpty then []
      else [keyword ++ ", ".intercalate (a.entries.map assignmentSql)] := by
    rw [Clauses.assignmentClause, Assignments.isEmpty, List.isEmpty_map]
    split
    · rfl
    · rw [List.map_singleton, hclause]
  rw [htext]
  exact forall₂_listWordings keyword ", " h

/-- **The text of a statement spells its wording.** -/
theorem Spelled.assemble (h : Spelled kind p c) :
    SpelledBy (c.wording kind p) (c.assemble kind) := by
  obtain ⟨texts, htexts, hcondition, hempty⟩ := h.conditions
  have hwhere :
      (if c.condition.isEmpty then [] else [Clause.condition c.condition]).map Clause.text =
      if texts.isEmpty then [] else ["WHERE " ++ " and ".intercalate texts] := by
    rw [Bool.eq_iff_iff.2 (String.isEmpty_iff.trans (hempty.trans List.isEmpty_iff.symm)),
      hcondition]
    split <;> rfl
  have horder : (if c.ordering.isEmpty then [] else [Clause.ordering c.ordering]).map Clause.text =
      if c.ordering.isEmpty then [] else ["ORDER BY " ++ ", ".intercalate c.ordering] := by
    split <;> rfl
  have hnumber (clause : Nat → Clause) (n? : Option Nat) : List.Forall₂ SpelledBy
      (n?.map fun n ↦ [.text (clause n).text]).toList ((n?.map clause).toList.map Clause.text) := by
    cases n? with
    | none => exact .nil
    | some n => exact .cons (.ofText _) .nil
  rw [c.assemble_eq_text]
  refine .joined " " ?_
  simp only [Clauses.arranged, List.map_append, hwhere, horder]
  refine List.rel_append (List.rel_append (List.rel_append (List.rel_append (List.rel_append
    (List.rel_append h.head ?_) ?_) ?_) ?_) ?_) ?_
  · exact forall₂_assignmentClause (fun _ ↦ rfl) h.written
  · exact forall₂_assignmentClause (fun _ ↦ rfl) h.overwritten
  · exact forall₂_listWordings "WHERE " " and " htexts
  · exact forall₂_listWordings "ORDER BY " ", " h.ordering
  · exact hnumber Clause.limit c.writtenLimit?
  · exact hnumber Clause.offset c.writtenOffset?

end Places

end ParamSql
