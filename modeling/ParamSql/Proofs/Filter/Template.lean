import ParamSql.Filter.Sql
import ParamSql.Proofs.Filter.Meaning
import ParamSql.Proofs.Identifier.Resolve
import ParamSql.Proofs.Param.Clean
import ParamSql.Proofs.Param.Numbered

/-!
# Templates of filters

What a filter says, with its literals in their places: the same tree walk that writes the text of a
filter, without numbers. A group without any condition has no template, as it has no text.

The text of a filter spells its template as soon as the numbers that it was written with stand for
its values (`forall₂_spelledBy_texts`). The proof is an induction over the tree in which the number
of the next placeholder moves along with the values that are bound.

The template is clean if the names of columns are, as they are resolved; what is written between
them consists of separators (`clean_of_mem_templates`).
-/

namespace ParamSql

namespace Filter

/-! ### Templates -/

open Template (Clean IsSeparator IsSpelledBy SpelledBy joined ofText)

/-- The template of a comparison. The absent value is written out where it is compared with. -/
def comparisonTemplate (column : String) (comparison : Comparison) (literal : Value) : Template :=
  ofComparison comparison literal (ofText (column ++ " is null"))
    (ofText (column ++ " is not null")) (ofText alwaysFalse)
    (ofText (column ++ " " ++ comparison.sql ++ " ") ++ [.value literal])

/-- The template of membership in a list. -/
def membershipTemplate (column : String) (literals : List Value) : Template :=
  ofMembership literals.length (ofText alwaysFalse)
    (ofText (column ++ " in (") ++ joined ", " (literals.map fun v ↦ [.value v]) ++ ofText ")")

/-- The template of a group, if there is anything in it. -/
def groupTemplate? (separator : String) (parts : List Template) : Option Template :=
  if parts.isEmpty then none else some (ofText "(" ++ joined separator parts ++ ofText ")")

mutual

/-- The template of a filter, columns being resolved against the alias; nothing if there is no
condition in it. -/
def template? (alias? : Option String) : Filter → Option Template
  | all children => groupTemplate? " and " (templates alias? children)
  | any children => groupTemplate? " or " (templates alias? children)
  | compare column comparison literal =>
    some (comparisonTemplate (Identifier.resolve alias? column) comparison literal)
  | oneOf column literals =>
    some (membershipTemplate (Identifier.resolve alias? column) literals)

/-- The templates of those of several filters that have one. -/
def templates (alias? : Option String) : List Filter → List Template
  | [] => []
  | filter :: rest => (template? alias? filter).toList ++ templates alias? rest

end

/-! ### Texts spell templates -/

section Spelling

variable {ps : Params}

theorem spelledBy_comparisonSql (column : String) (comparison : Comparison) {literal : Value}
    {start : Nat} (hps : ps.Binds start (if literal.isNull then [] else [literal])) :
    IsSpelledBy ps.Refers (comparisonTemplate column comparison literal)
      (comparisonSql column comparison literal start) := by
  rw [comparisonSql_eq]
  refine ofComparison_rel (.ofText _) (.ofText _) (.ofText _) fun hnull ↦ ?_
  rw [hnull, if_neg Bool.false_ne_true, Params.binds_cons_iff] at hps
  rw [IsSpelledBy, String.toList_append]
  exact (SpelledBy.ofText _).append (.placeholder hps.1)

/-- Consecutive placeholders spell the values that are bound to them. -/
theorem forall₂_spelledBy_placeholders {literals : List Value} {start : Nat}
    (hps : ps.Binds start literals) :
    List.Forall₂ (IsSpelledBy ps.Refers)
      (literals.map fun v ↦ [.value v])
      ((List.range' start literals.length).map Params.placeholderAt) := by
  induction literals generalizing start with
  | nil => exact .nil
  | cons literal literals ih =>
    obtain ⟨hfirst, hrest⟩ := Params.binds_cons_iff.1 hps
    exact .cons (.placeholder hfirst) (ih hrest)

theorem spelledBy_membershipSql (column : String) {literals : List Value} {start : Nat}
    (hps : ps.Binds start literals) :
    IsSpelledBy ps.Refers (membershipTemplate column literals)
      (membershipSql column literals.length start) := by
  rw [membershipSql_eq]
  refine ofMembership_rel (.ofText _) ?_
  rw [IsSpelledBy, String.toList_append, String.toList_append]
  exact ((SpelledBy.ofText _).append (.joined _ (forall₂_spelledBy_placeholders hps))).append
    (.ofText _)

/-- A group spells the template of a group. -/
theorem forall₂_spelledBy_group? (separator : String) {parts : List Template} {texts : List String}
    (h : List.Forall₂ (IsSpelledBy ps.Refers) parts texts) :
    List.Forall₂ (IsSpelledBy ps.Refers)
      (groupTemplate? separator parts).toList (group? separator texts).toList := by
  cases h with
  | nil => exact .nil
  | cons hfirst hrest =>
    refine .cons ?_ .nil
    rw [IsSpelledBy, String.toList_append, String.toList_append]
    exact ((SpelledBy.ofText "(").append (.joined separator (.cons hfirst hrest))).append
      (.ofText ")")

/-- **The texts of filters spell their templates.** -/
theorem forall₂_spelledBy_texts (alias? : Option String) (start : Nat) (filters : List Filter)
    (hps : ps.Binds start (boundIn filters)) :
    List.Forall₂ (IsSpelledBy ps.Refers) (templates alias? filters)
      (texts alias? start filters) := by
  induction filters using list_induction generalizing start with
  | nil => exact .nil
  | cons filter rest hfirst hrest =>
    rw [boundIn, Params.binds_append_iff] at hps
    simp only [boundIn, templates, texts, List.append_nil] at hfirst ⊢
    exact List.rel_append (hfirst start hps.1) (hrest _ hps.2)
  | all children ih | any children ih =>
    simp only [boundIn, bound, List.append_nil] at hps
    simp only [templates, template?, texts, sql?, List.append_nil]
    exact forall₂_spelledBy_group? _ (ih start hps)
  | compare column comparison literal =>
    simp only [boundIn, bound, List.append_nil] at hps
    exact .cons (spelledBy_comparisonSql _ comparison hps) .nil
  | oneOf column literals =>
    simp only [boundIn, bound, List.append_nil] at hps
    exact .cons (spelledBy_membershipSql _ hps) .nil

/-- Compiled filters spell their templates, connected. -/
theorem spelledBy_compileAll (alias? : Option String) (filters : List Filter) (hps : ps.Issued) :
    IsSpelledBy (compileAll filters alias? ps).2.Refers (joined " and " (templates alias? filters))
      (compileAll filters alias? ps).1 :=
  .joined " and " (forall₂_spelledBy_texts alias? ps.next filters (hps.binds_bindAll _))

end Spelling

/-! ### Templates are clean -/

/-- The columns of several filters are those of each of them. -/
theorem mem_columnsIn {filters : List Filter} {column : String} :
    column ∈ columnsIn filters ↔ ∃ filter ∈ filters, column ∈ filter.columns := by
  induction filters with
  | nil => simp [columnsIn]
  | cons filter filters ih => simp [columnsIn, ih]

/-- A name is written clean where it stands alone. -/
theorem clean_bare {name : String} (h : Clean (ofText name)) :
    Clean (ofText (Identifier.bare name)) := by
  rw [Identifier.bare]
  split
  · rename_i hreserved
    -- there is no colon in a reserved word, and quoting adds none
    refine (Template.plain_ofText fun hcolon ↦ ?_).clean
    rcases Identifier.mem_toList_quote hcolon with htick | hmem
    · exact absurd htick (by decide)
    · have hfree := Identifier.isReserved_eq_false_of_isWordChar hmem (by decide)
      rw [hreserved] at hfree
      exact Bool.false_ne_true hfree.symm
  · exact h

/-- A column is resolved clean. -/
theorem clean_resolve {alias? : Option String} (halias : ∀ qualifier ∈ alias?,
    Clean (ofText qualifier)) {column : String} (h : Clean (ofText column)) :
    Clean (ofText (Identifier.resolve alias? column)) := by
  rcases Identifier.resolve_eq_or alias? column with hbare | ⟨qualifier, hq, hqualified⟩
  · rw [hbare]
    exact clean_bare h
  · rw [hqualified, Template.ofText_append, Template.ofText_append, List.append_assoc]
    exact (halias qualifier hq).separated (by decide) (clean_bare h)

theorem clean_alwaysFalse : Clean (ofText alwaysFalse) :=
  (Template.plain_ofText (by decide)).clean

section Column

variable {column : String} (hcolumn : Clean (ofText column))
include hcolumn

theorem clean_comparisonTemplate (comparison : Comparison) (literal : Value) :
    Clean (comparisonTemplate column comparison literal) := by
  unfold comparisonTemplate ofComparison
  split
  · cases comparison
    case equal =>
      show Clean (ofText (column ++ " is null"))
      rw [Template.ofText_append]
      exact hcolumn.ended (by decide)
    case notEqual =>
      show Clean (ofText (column ++ " is not null"))
      rw [Template.ofText_append]
      exact hcolumn.ended (by decide)
    all_goals exact clean_alwaysFalse
  · have hoperator : IsSeparator (" " ++ comparison.sql ++ " ") := by
      cases comparison <;> decide
    have htext : column ++ " " ++ comparison.sql ++ " " =
        column ++ (" " ++ comparison.sql ++ " ") := by
      simp only [String.append_assoc]
    rw [htext, Template.ofText_append, List.append_assoc]
    exact hcolumn.separated hoperator (Template.clean_value literal)

theorem clean_membershipTemplate (literals : List Value) :
    Clean (membershipTemplate column literals) := by
  unfold membershipTemplate ofMembership
  split
  · exact clean_alwaysFalse
  · have hliterals : Clean (joined ", " (literals.map fun v ↦ [.value v])) := by
      refine .joined (by decide) fun t ht ↦ ?_
      obtain ⟨v, -, rfl⟩ := List.mem_map.1 ht
      exact Template.clean_value v
    rw [Template.ofText_append, List.append_assoc, List.append_assoc]
    exact hcolumn.separated (by decide) (hliterals.ended (by decide))

end Column

/-- A group of clean templates is clean. -/
theorem clean_of_mem_groupTemplate? {separator : String} (h : IsSeparator separator)
    {parts : List Template} (hparts : ∀ t ∈ parts, Clean t) :
    ∀ t ∈ groupTemplate? separator parts, Clean t := by
  intro t ht
  unfold groupTemplate? at ht
  split at ht
  · cases ht
  · obtain rfl := Option.some.inj ht
    rw [List.append_assoc]
    exact ((Clean.joined h hparts).ended (by decide)).opened (by decide)

/-- **The templates of filters are clean** if the names of their columns are. -/
theorem clean_of_mem_templates {alias? : Option String}
    (halias : ∀ qualifier ∈ alias?, Clean (ofText qualifier)) (filters : List Filter)
    (hcolumns : ∀ column ∈ columnsIn filters, Clean (ofText column)) :
    ∀ t ∈ templates alias? filters, Clean t := by
  induction filters using list_induction with
  | nil => exact List.forall_mem_nil _
  | cons filter rest hfirst hrest =>
    obtain ⟨hcolumn, hcolumns⟩ := List.forall_mem_append.1 hcolumns
    simp only [columnsIn, templates, List.append_nil] at hfirst
    exact List.forall_mem_append.2 ⟨hfirst hcolumn, hrest hcolumns⟩
  | all children ih | any children ih =>
    simp only [columnsIn, columns, List.append_nil] at hcolumns
    simp only [templates, template?, List.append_nil, Option.mem_toList]
    exact clean_of_mem_groupTemplate? (by decide) (ih hcolumns)
  | compare column comparison literal =>
    have hcolumn := clean_resolve halias (hcolumns column List.mem_cons_self)
    exact List.forall_mem_singleton.2 (clean_comparisonTemplate hcolumn comparison literal)
  | oneOf column literals =>
    have hcolumn := clean_resolve halias (hcolumns column List.mem_cons_self)
    exact List.forall_mem_singleton.2 (clean_membershipTemplate hcolumn literals)

end Filter

end ParamSql
