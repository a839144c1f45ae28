import ParamSql.Proofs.Builder.Closed
import ParamSql.Proofs.Param.Inlined

/-!
# Showing a statement is writing it with literals

A statement is shown by inlining its finished text. That is the text which one would have written by
putting, wherever a value is bound, its literal there at once (`debugSql_eq_write`), whatever the
literals look like and however many parameters there are.

It takes that the caller does not spell out placeholders in the texts that are put into the
statement as they stand. Then all that a builder collects is clean (`apply_clean`), for it adds
nothing but keywords and separators, and so is the template of what has been said.
-/

namespace ParamSql

open Template (Clean joined ofText)
open Text (LacksPlaceholders)

/-! ### Texts of the caller -/

/-- The texts that a setter puts into a statement as they stand, or as names of columns. -/
def Setter.texts : Setter → List String
  | select columns => columns
  | addSelect expression => [expression]
  | assign _ column _ => [column]
  | assignRaw _ column expression => [column, expression]
  | whereRaw sql => [sql]
  | filter condition => condition.columns
  | order columns => columns.map Prod.fst
  | orderBy column _ => [column]
  | distinct _ | calcFoundRows _ | limit _ | offset _ => []

/-- A text without colon does not spell out a placeholder. -/
theorem Text.lacksPlaceholders_of_not_mem {text : String} (h : ':' ∉ text.toList) :
    LacksPlaceholders text :=
  fun _ _ hwithin ↦ h (hwithin.subset List.mem_cons_self)

namespace Builder

/-! ### What is collected is clean -/

theorem clean_orderTerm {column : String} (h : Clean (ofText column)) (direction : Direction) :
    Clean (ofText (Setter.orderTerm column direction)) := by
  have hdirection : Template.IsSeparator (" " ++ direction.sql) := by
    cases direction <;> decide
  rw [Setter.orderTerm, String.append_assoc, Template.ofText_append]
  exact h.ended hdirection

/-- **What a setter adds is clean** if the texts of the caller are. -/
theorem apply_clean {b : Builder} (halias : ∀ qualifier ∈ b.alias?, Clean (ofText qualifier))
    {setter : Setter} (htexts : ∀ text ∈ setter.texts, Clean (ofText text))
    (h : b.clauses.Clean) : (b.apply setter).clauses.Clean := by
  have hkeyword {on : Bool} (hsetter : setter = .distinct on ∨ setter = .calcFoundRows on) :
      (b.apply setter).clauses.Clean := by
    obtain ⟨modifiers, hmem, hsame⟩ := b.apply_keyword setter hsetter
    rw [hsame]
    refine ⟨fun m hm ↦ ?_, h.columns, h.ordering, h.target, h.insertTarget⟩
    rcases hmem m hm with hold | rfl | rfl
    · exact h.modifiers m hold
    · exact (Template.plain_ofText (by decide)).clean
    · exact (Template.plain_ofText (by decide)).clean
  cases setter
  case select columns =>
    refine ⟨h.modifiers, fun column hcolumn ↦ ?_, h.ordering, h.target, h.insertTarget⟩
    rcases List.mem_append.1 hcolumn with hold | hnew
    · exact h.columns column hold
    · obtain ⟨name, hname, rfl⟩ := List.mem_map.1 hnew
      exact Filter.clean_resolve halias (htexts name hname)
  case addSelect expression =>
    refine ⟨h.modifiers, fun column hcolumn ↦ ?_, h.ordering, h.target, h.insertTarget⟩
    rcases List.mem_append.1 hcolumn with hold | hnew
    · exact h.columns column hold
    · obtain rfl := List.mem_singleton.1 hnew
      exact htexts _ List.mem_cons_self
  case distinct on => exact hkeyword (.inl rfl)
  case calcFoundRows on => exact hkeyword (.inr rfl)
  case order columns =>
    refine ⟨h.modifiers, h.columns, fun term hterm ↦ ?_, h.target, h.insertTarget⟩
    obtain ⟨⟨column, direction⟩, hmem, rfl⟩ := List.mem_map.1 hterm
    exact clean_orderTerm (htexts column (List.mem_map.2 ⟨_, hmem, rfl⟩)) direction
  case orderBy column direction =>
    refine ⟨h.modifiers, h.columns, fun term hterm ↦ ?_, h.target, h.insertTarget⟩
    rcases List.mem_append.1 hterm with hold | hnew
    · exact h.ordering term hold
    · obtain rfl := List.mem_singleton.1 hnew
      exact clean_orderTerm (htexts column List.mem_cons_self) direction
  case assign occasion column v =>
    cases occasion <;> exact ⟨h.modifiers, h.columns, h.ordering, h.target, h.insertTarget⟩
  case assignRaw occasion column expression =>
    cases occasion <;> exact ⟨h.modifiers, h.columns, h.ordering, h.target, h.insertTarget⟩
  all_goals exact ⟨h.modifiers, h.columns, h.ordering, h.target, h.insertTarget⟩

/-- The clauses of a builder that nothing has been said to are clean. -/
theorem initialClauses_clean {table : String} (htable : Clean (ofText table))
    {alias? : Option String} (halias : ∀ qualifier ∈ alias?, Clean (ofText qualifier))
    (kind : StatementKind) : (initialClauses kind table alias?).Clean := by
  have hwritten := Filter.clean_bare htable
  have hnone : ∀ text ∈ ([] : List String), Clean (ofText text) := List.forall_mem_nil _
  cases kind with
  | select | update | delete =>
    refine ⟨hnone, hnone, hnone, ?_, Template.clean_nil⟩
    cases alias? with
    | none => exact hwritten
    | some qualifier =>
      show Clean (ofText (Identifier.bare table ++ " " ++ qualifier))
      rw [Template.ofText_append, Template.ofText_append, List.append_assoc]
      exact hwritten.separated (by decide) (halias qualifier rfl)
  | insert | upsert => exact ⟨hnone, hnone, hnone, Template.clean_nil, hwritten⟩

end Builder

/-! ### What is said is clean -/

namespace Setter

variable {alias? : Option String} (halias : ∀ qualifier ∈ alias?, Clean (ofText qualifier))
  {said : List Setter}
  (htexts : ∀ setter ∈ said, ∀ text ∈ setter.texts, Clean (ofText text))

include halias htexts in
theorem clean_of_mem_history {occasion : Occasion} {entry : String × Template}
    (h : entry ∈ history alias? occasion said) :
    Clean (ofText entry.1) ∧ Clean entry.2 := by
  obtain ⟨setter, hmem, hassigned⟩ := List.mem_filterMap.1 h
  have htexts := htexts setter hmem
  cases setter
  case assign o column v =>
    rw [assigned?] at hassigned
    split at hassigned
    · obtain rfl := Option.some.inj hassigned
      refine ⟨Filter.clean_resolve halias (htexts column List.mem_cons_self), ?_⟩
      show Clean (Template.ofAssigned v)
      rw [Template.ofAssigned]
      split
      · exact (Template.plain_ofText (by decide)).clean
      · exact Template.clean_value v
    · cases hassigned
  case assignRaw o column expression =>
    rw [assigned?] at hassigned
    split at hassigned
    · obtain rfl := Option.some.inj hassigned
      exact ⟨Filter.clean_resolve halias (htexts column List.mem_cons_self),
        htexts expression (List.mem_cons_of_mem _ List.mem_cons_self)⟩
    · cases hassigned
  all_goals cases hassigned

include halias htexts in
/-- What two lists of assignments come to is clean. -/
theorem clean_of_mem_settled {first second : Occasion} {entry : String × Template}
    (h : entry ∈ (history alias? first said ++ history alias? second said).settled) :
    Clean (ofText entry.1) ∧ Clean entry.2 := by
  rcases List.mem_append.1 (History.mem_of_mem_settled h) with hfirst | hsecond
  · exact clean_of_mem_history halias htexts hfirst
  · exact clean_of_mem_history halias htexts hsecond

include halias htexts in
theorem clean_conditionTemplate : Clean (conditionTemplate alias? said) := by
  rw [conditionTemplate]
  split
  · refine .joined (by decide) (Filter.clean_of_mem_templates halias _ fun column hcolumn ↦ ?_)
    obtain ⟨condition, hcondition, hmem⟩ := Filter.mem_columnsIn.1 hcolumn
    obtain ⟨setter, hsetter, hfilter⟩ := List.mem_filterMap.1 hcondition
    cases setter
    case filter other =>
      obtain rfl := Option.some.inj hfilter
      exact htexts _ hsetter column hmem
    all_goals cases hfilter
  · rename_i hraw
    rw [rawCondition] at hraw ⊢
    cases hlast : (said.filterMap condition?).getLast? with
    | none =>
      rw [hlast] at hraw
      exact absurd rfl hraw
    | some sql =>
      obtain ⟨setter, hsetter, hsql⟩ := List.mem_filterMap.1 (List.mem_of_getLast? hlast)
      cases setter
      case whereRaw other =>
        obtain rfl := Option.some.inj hsql
        exact htexts _ hsetter _ List.mem_cons_self
      all_goals cases hsql

include halias htexts in
/-- **What is said is clean** if the texts of the caller are. -/
theorem clean_contents (kind : StatementKind) : (contents kind alias? said).Clean := by
  have hnone : ∀ entry ∈ ([] : History Template), Clean (ofText entry.1) ∧ Clean entry.2 :=
    List.forall_mem_nil _
  refine ⟨?_, ?_, clean_conditionTemplate halias htexts⟩
  · cases kind with
    | select | delete => exact hnone
    | insert | upsert | update => exact fun _ ↦ clean_of_mem_settled halias htexts
  · cases kind with
    | select | insert | update | delete => exact hnone
    | upsert => exact fun _ ↦ clean_of_mem_settled halias htexts

end Setter

/-! ### Shown statements -/

namespace Builder

/-- The template of what has been said is clean if the texts of the caller are. -/
theorem clean_template (kind : StatementKind) {table : String} (htable : Clean (ofText table))
    {alias? : Option String} (halias : ∀ qualifier ∈ alias?, Clean (ofText qualifier))
    (settings : Settings) {said : List Setter}
    (htexts : ∀ setter ∈ said, ∀ text ∈ setter.texts, Clean (ofText text)) :
    Clean ((create kind table alias? settings).template said) := by
  have hqualifier : ∀ qualifier ∈ effectiveAlias? kind alias?, Clean (ofText qualifier) :=
    fun qualifier hq ↦ halias qualifier (Option.filter_eq_some_iff.1 hq).1
  have hclauses : ((create kind table alias? settings).changeAll said).1.clauses.Clean := by
    refine And.right (changeAll_invariant
      (P := fun now ↦ now.alias? = effectiveAlias? kind alias? ∧ now.clauses.Clean) rfl
      ⟨rfl, initialClauses_clean htable hqualifier kind⟩ ?_)
    intro now setter hsetter ⟨hsame, hclean⟩
    exact ⟨(congrArg (·.2.1) (apply_origin now setter)).trans hsame,
      apply_clean (hsame ▸ hqualifier) (htexts setter hsetter) hclean⟩
  exact Clauses.clean_template hclauses (Setter.clean_contents hqualifier htexts kind) kind

/-- **Showing a statement is writing it with literals.** Whatever is done with a builder, and
whatever the escaper: if no text of the caller spells out a placeholder, the statement is shown as
it would be written with a literal in the place of every value: `null` for the absent value, two
quotes for the empty text, and what the escaper makes of any other. Showing it does to the builder
what building it does. -/
theorem debugSql_eq_write (kind : StatementKind) (table : String) (alias? : Option String)
    (settings : Settings) (steps : List Step) (escaper : Escaper) :
    let b := create kind table alias? settings
    (∀ text ∈ table :: alias?.toList ++ (b.saidIn steps).flatMap Setter.texts,
      LacksPlaceholders text) →
    (b.after steps).debugSql escaper =
      ((b.template (b.saidIn steps)).write (Value.shown escaper), (b.after steps).build.2) := by
  intro b htexts
  have hclean : Clean (b.template (b.saidIn steps)) := by
    refine clean_template kind ?_ ?_ settings ?_
    · exact Template.clean_ofText (htexts table List.mem_cons_self)
    · intro qualifier hq
      refine Template.clean_ofText (htexts qualifier ?_)
      exact List.mem_append_left _ (List.mem_cons_of_mem _ (Option.mem_toList.2 hq))
    · intro setter hsetter text htext
      refine Template.clean_ofText (htexts text (List.mem_append_right _ ?_))
      exact List.mem_flatMap.2 ⟨setter, hsetter, htext⟩
  have hspelled := isSpelledBy_build kind table alias? settings steps
  have hinline := Params.inline_of_isSpelledBy
    (numbered_build kind table alias? settings steps) hspelled hclean escaper
  exact congrArg (·, (b.after steps).build.2) hinline

/-- Eleven numbers and a text that looks like the second of their placeholders. -/
theorem debugSql_eq_write_placeholder :
    let numbers := (List.range 11).map fun n ↦ Value.int (.ofNat n)
    let shown := "SELECT * FROM users u WHERE u.id in (0, 1, 2, 3, 4, 5, 6, 7, 8, 9, 10)" ++
      " and u.name = :p_1"
    let steps : List Step :=
      [.change [.filter (.oneOf "id" numbers), .filter (.compare "name" .equal (.text ":p_1"))]]
    let b := create .select "users" (some "u") {}
    (∀ text ∈ "users" :: (some "u").toList ++ (b.saidIn steps).flatMap Setter.texts,
      LacksPlaceholders text) ∧
      (b.after steps).debugSql Value.display = (shown, (b.after steps).build.2) := by
  intro numbers shown steps b
  have htexts : ∀ text ∈ "users" :: (some "u").toList ++ (b.saidIn steps).flatMap Setter.texts,
      LacksPlaceholders text := by
    have hcolonless : ∀ text ∈ ["users", "u", "id", "name"], ':' ∉ text.toList := by decide
    exact fun text htext ↦ Text.lacksPlaceholders_of_not_mem (hcolonless text htext)
  have hshown := debugSql_eq_write .select "users" (some "u") {} steps Value.display htexts
  have hwritten : (b.template (b.saidIn steps)).write (Value.shown Value.display) = shown := by
    decide +kernel
  exact ⟨htexts, hshown.trans (congrArg (·, (b.after steps).build.2) hwritten)⟩

end Builder

end ParamSql
