import ParamSql.Proofs.Builder.Said
import ParamSql.Proofs.Filter.Template
import ParamSql.Proofs.Statement.Template

/-!
# The template of what has been said

What the values in a statement are, read off the setters alone: each column is assigned what was
said of it last, in the list of assignments that supplies it (`Setter.contents`); filters stand for
their literals, unless a condition as it stands takes their place.

A builder keeps up with this while setters are called (`Keeps.apply`): whatever has been said is in
its lists as a text that spells it. So the statement that is built in the end spells the template of
what has been said (`Keeps.spelled`), although its values have been bound one by one, some of them
for expressions that were overwritten or are not used in statements of its kind.
-/

namespace ParamSql

open Template (IsSpelledBy SpelledBy joined ofText)

/-- The template of an assigned value. The absent value is written out. -/
def Template.ofAssigned (v : Value) : Template :=
  if v.isNull then ofText "NULL" else [.value v]

/-! ### What setters say -/

namespace Setter

/-- What a setter assigns on an occasion: the column as it is written, and the expression. -/
def assigned? (alias? : Option String) (occasion : Occasion) : Setter → Option (String × Template)
  | assign o column v =>
    if o = occasion then some (Identifier.resolve alias? column, .ofAssigned v) else none
  | assignRaw o column expression =>
    if o = occasion then some (Identifier.resolve alias? column, ofText expression) else none
  | select _ | addSelect _ | distinct _ | calcFoundRows _ | whereRaw _ | filter _ | order _
  | orderBy _ _ | limit _ | offset _ => none

/-- What a setter assigns on an occasion as it is written: a value by the next name, and the absent
value as it stands. -/
def written? (alias? : Option String) (occasion : Occasion) (next : Nat) :
    Setter → Option (String × String)
  | assign o column v =>
    if o = occasion then
      some (Identifier.resolve alias? column,
        if v.isNull then "NULL" else Params.placeholderAt next)
    else none
  | assignRaw o column expression =>
    if o = occasion then some (Identifier.resolve alias? column, expression) else none
  | select _ | addSelect _ | distinct _ | calcFoundRows _ | whereRaw _ | filter _ | order _
  | orderBy _ _ | limit _ | offset _ => none

/-- The condition that a setter sets as it stands. -/
def condition? : Setter → Option String
  | whereRaw sql => some sql
  | select _ | addSelect _ | distinct _ | calcFoundRows _ | assign _ _ _ | assignRaw _ _ _
  | filter _ | order _ | orderBy _ _ | limit _ | offset _ => none

/-- The filter that a setter adds. -/
def filter? : Setter → Option Filter
  | filter condition => some condition
  | select _ | addSelect _ | distinct _ | calcFoundRows _ | assign _ _ _ | assignRaw _ _ _
  | whereRaw _ | order _ | orderBy _ _ | limit _ | offset _ => none

/-- What setters assign on an occasion, oldest first. -/
def history (alias? : Option String) (occasion : Occasion) (said : List Setter) :
    History Template :=
  said.filterMap (assigned? alias? occasion)

/-- The condition that was last set as it stands. -/
def rawCondition (said : List Setter) : String :=
  (said.filterMap condition?).getLast?.getD ""

/-- The template of the condition. -/
def conditionTemplate (alias? : Option String) (said : List Setter) : Template :=
  if rawCondition said = "" then
    joined " and " (Filter.templates alias? (said.filterMap filter?))
  else ofText (rawCondition said)

/-- What setters put into those places of a statement in which there are values. -/
def contents (kind : StatementKind) (alias? : Option String) (said : List Setter) : Contents where
  written :=
    match kind with
    | .insert | .upsert => (history alias? .onInsert said ++ history alias? .always said).settled
    | .update => (history alias? .always said ++ history alias? .onUpdate said).settled
    | .select | .delete => []
  overwritten :=
    match kind with
    | .upsert => (history alias? .always said ++ history alias? .onUpdate said).settled
    | .select | .insert | .update | .delete => []
  condition := conditionTemplate alias? said

end Setter

/-- The assignments that are made on an occasion. -/
def Clauses.assignedOn (c : Clauses) : Occasion → Assignments
  | .always => c.assigned
  | .onInsert => c.assignedOnInsert
  | .onUpdate => c.assignedOnUpdate

namespace Builder

/-! ### What one setter does -/

/-- The keywords after one of them has been switched on or off; nothing else changes. -/
theorem toggle_eq (c : Clauses) (keyword : String) (on : Bool) :
    ∃ modifiers, (∀ m ∈ modifiers, m ∈ c.modifiers ∨ m = keyword) ∧
      c.toggle keyword on = { c with modifiers } := by
  rw [Clauses.toggle]
  split
  · split
    · exact ⟨c.modifiers, fun _ ↦ .inl, rfl⟩
    · refine ⟨c.modifiers ++ [keyword], fun m hm ↦ ?_, rfl⟩
      exact (List.mem_append.1 hm).imp_right List.mem_singleton.1
  · exact ⟨_, fun m hm ↦ .inl (List.mem_filter.1 hm).1, rfl⟩

/-- A setter that switches a keyword on or off changes the keywords only. -/
theorem apply_keyword (b : Builder) (setter : Setter) {on : Bool}
    (h : setter = .distinct on ∨ setter = .calcFoundRows on) :
    ∃ modifiers,
      (∀ m ∈ modifiers,
        m ∈ b.clauses.modifiers ∨ m = distinctKeyword ∨ m = rememberCountKeyword) ∧
      b.apply setter = { b with clauses := { b.clauses with modifiers } } := by
  rcases h with rfl | rfl
  · obtain ⟨modifiers, hmem, heq⟩ := toggle_eq b.clauses distinctKeyword on
    exact ⟨modifiers, fun m hm ↦ (hmem m hm).imp_right .inl, by rw [apply, heq]⟩
  · rw [apply]
    split
    · obtain ⟨modifiers, hmem, heq⟩ := toggle_eq b.clauses rememberCountKeyword on
      exact ⟨modifiers, fun m hm ↦ (hmem m hm).imp_right .inr, by rw [heq]⟩
    · exact ⟨b.clauses.modifiers, fun _ ↦ .inl, rfl⟩

/-- What does not look at the keywords does not see such a setter. -/
theorem apply_keyword_keeps {α : Type} (b : Builder) (setter : Setter) {on : Bool}
    (h : setter = .distinct on ∨ setter = .calcFoundRows on) (view : Builder → α)
    (hview : ∀ b modifiers, view { b with clauses := { b.clauses with modifiers } } = view b) :
    view (b.apply setter) = view b := by
  obtain ⟨modifiers, -, hsame⟩ := b.apply_keyword setter h
  rw [hsame, hview]

/-- A setter binds values and does nothing else to the parameters. -/
theorem apply_params_extends (b : Builder) (setter : Setter) :
    (b.apply setter).params.Extends b.params := by
  cases setter
  case assign occasion column v =>
    show (assignValue b occasion column v).params.Extends b.params
    rw [assignValue]
    cases v.isNull with
    | true => exact .refl _
    | false => exact .bind _ v
  case calcFoundRows on =>
    rw [b.apply_keyword_keeps (.calcFoundRows on) (.inr rfl) params fun _ _ ↦ rfl]
    exact .refl _
  all_goals exact .refl _

theorem apply_filters (b : Builder) (setter : Setter) :
    (b.apply setter).filters = b.filters ++ setter.filter?.toList := by
  cases setter
  case filter condition => rfl
  case calcFoundRows on =>
    rw [b.apply_keyword_keeps (.calcFoundRows on) (.inr rfl) filters fun _ _ ↦ rfl]
    exact (List.append_nil _).symm
  all_goals exact (List.append_nil _).symm

theorem apply_condition (b : Builder) (setter : Setter) :
    (b.apply setter).clauses.condition = setter.condition?.getD b.clauses.condition := by
  cases setter
  case distinct on =>
    exact b.apply_keyword_keeps _ (.inl rfl) (·.clauses.condition) fun _ _ ↦ rfl
  case calcFoundRows on =>
    exact b.apply_keyword_keeps _ (.inr rfl) (·.clauses.condition) fun _ _ ↦ rfl
  case assign occasion column v => cases occasion <;> rfl
  case assignRaw occasion column expression => cases occasion <;> rfl
  all_goals rfl

/-- The assignments of an occasion after a further assignment. -/
theorem assignedOn_insert (c : Clauses) (occasion other : Occasion) (column expression : String) :
    (c.insert occasion column expression).assignedOn other =
      if occasion = other then (c.assignedOn other).insert column expression
      else c.assignedOn other := by
  cases occasion <;> cases other <;> rfl

/-- **What a setter assigns on an occasion.** -/
theorem apply_assignedOn (b : Builder) (setter : Setter) (occasion : Occasion) :
    (b.apply setter).clauses.assignedOn occasion =
      match setter.written? b.alias? occasion b.params.next with
      | none => b.clauses.assignedOn occasion
      | some (column, text) => (b.clauses.assignedOn occasion).insert column text := by
  have hkept (b : Builder) (modifiers : List String) :
      { b with clauses := { b.clauses with modifiers } }.clauses.assignedOn occasion =
        b.clauses.assignedOn occasion := by
    cases occasion <;> rfl
  cases setter
  case assign o column v =>
    have hclauses : (b.apply (.assign o column v)).clauses =
        b.clauses.insert o (b.fieldName column)
          (if v.isNull then "NULL" else Params.placeholderAt b.params.next) := by
      rw [apply, assignValue]
      cases v.isNull <;> rfl
    rw [hclauses, assignedOn_insert, Setter.written?]
    split <;> rfl
  case assignRaw o column expression =>
    rw [apply, assignedOn_insert, Setter.written?]
    split <;> rfl
  case distinct on =>
    exact b.apply_keyword_keeps _ (.inl rfl) (·.clauses.assignedOn occasion) hkept
  case calcFoundRows on =>
    exact b.apply_keyword_keeps _ (.inr rfl) (·.clauses.assignedOn occasion) hkept
  all_goals rfl

/-- What a setter assigns is written as a text that spells it. -/
theorem spelled_written? {b : Builder} (h : b.params.Issued) (setter : Setter)
    (occasion : Occasion) :
    Option.Rel (fun entry text ↦ entry.1 = text.1 ∧
        IsSpelledBy (b.apply setter).params.Refers entry.2 text.2)
      (setter.assigned? b.alias? occasion)
      (setter.written? b.alias? occasion b.params.next) := by
  cases setter
  case assign o column v =>
    have hspelled : IsSpelledBy (b.apply (.assign o column v)).params.Refers (.ofAssigned v)
        (if v.isNull then "NULL" else Params.placeholderAt b.params.next) := by
      rw [apply, assignValue, Template.ofAssigned]
      cases v.isNull with
      | true => exact .ofText "NULL"
      | false => exact .placeholder (h.get?_bind_next v)
    rw [Setter.assigned?, Setter.written?]
    split
    · exact .some ⟨rfl, hspelled⟩
    · exact .none
  case assignRaw o column expression =>
    rw [Setter.assigned?, Setter.written?]
    split
    · exact .some ⟨rfl, .ofText expression⟩
    · exact .none
  all_goals exact .none

/-! ### What compiling filters does -/

/-- Compiling filters binds values and changes the condition only. -/
theorem withFilters_cases (b : Builder) :
    (b.clauses.condition = "" ∧
        b.withFilters.params = (Filter.compileAll b.filters b.alias? b.params).2 ∧
        b.withFilters.clauses =
          { b.clauses with condition := (Filter.compileAll b.filters b.alias? b.params).1 }) ∨
      b.clauses.condition ≠ "" ∧ b.withFilters = b := by
  rw [withFilters]
  by_cases hempty : b.clauses.condition.isEmpty = true
  · rw [if_pos hempty]
    exact .inl ⟨String.isEmpty_iff.1 hempty, rfl, rfl⟩
  · rw [if_neg hempty]
    exact .inr ⟨mt String.isEmpty_iff.2 hempty, rfl⟩

/-- Filters have no part in what is assigned. -/
theorem withFilters_assignedOn (b : Builder) (occasion : Occasion) :
    b.withFilters.clauses.assignedOn occasion = b.clauses.assignedOn occasion :=
  b.withFilters_keeps (·.clauses.assignedOn occasion) fun _ _ _ ↦ by cases occasion <;> rfl

theorem withFilters_params_extends (b : Builder) : b.withFilters.params.Extends b.params := by
  rcases withFilters_cases b with ⟨-, hparams, -⟩ | ⟨-, hsame⟩
  · exact ⟨Filter.boundIn b.filters, hparams⟩
  · rw [hsame]
    exact .refl _

/-! ### What a builder keeps of what has been said -/

/-- A builder has kept what has been said, in texts that spell it. -/
structure Keeps (alias? : Option String) (said : List Setter) (b : Builder) : Prop where
  /-- Columns are resolved against the alias. -/
  qualifier : b.alias? = alias?
  /-- Parameters have been issued. -/
  issued : b.params.Issued
  /-- All filters are there. -/
  filters : b.filters = said.filterMap Setter.filter?
  /-- The condition that was last set as it stands is there. -/
  condition : b.clauses.condition = Setter.rawCondition said
  /-- What was assigned on an occasion is there. -/
  assigned : ∀ occasion, ∃ texts : History String,
    (b.clauses.assignedOn occasion).entries = texts.settled ∧
      (Setter.history alias? occasion said).Parallel (IsSpelledBy b.params.Refers) texts

namespace Keeps

variable {alias? : Option String} {said : List Setter} {b : Builder}

/-- A builder that nothing has been said to has kept it. -/
theorem create (kind : StatementKind) (table : String) (alias? : Option String)
    (settings : Settings) :
    Keeps (effectiveAlias? kind alias?) [] (create kind table alias? settings) where
  qualifier := rfl
  issued := .empty
  filters := rfl
  condition := by cases kind <;> rfl
  assigned occasion := ⟨[], by cases kind <;> cases occasion <;> rfl, .nil⟩

/-- What has been assigned on an occasion is still there after a further setter. -/
theorem assigned_apply (h : Keeps alias? said b) (setter : Setter) (occasion : Occasion) :
    ∃ texts : History String,
      ((b.apply setter).clauses.assignedOn occasion).entries = texts.settled ∧
        (Setter.history alias? occasion (said ++ [setter])).Parallel
          (IsSpelledBy (b.apply setter).params.Refers) texts := by
  obtain ⟨texts, hentries, hspelled⟩ := h.assigned occasion
  -- the setter may bind a value, which leaves the placeholders there are with their meanings
  have hmono : (Setter.history alias? occasion said).Parallel
      (IsSpelledBy (b.apply setter).params.Refers) texts :=
    hspelled.imp fun _ _ hentry ↦
      ⟨hentry.1, hentry.2.mono fun _ _ ↦ (b.apply_params_extends setter).refers⟩
  have hassigned := b.apply_assignedOn setter occasion
  have htext := spelled_written? h.issued setter occasion
  rw [h.qualifier] at hassigned htext
  rw [Setter.history, List.filterMap_append, List.filterMap_cons, List.filterMap_nil]
  revert hassigned htext
  generalize setter.assigned? alias? occasion = assigned?, setter.written? alias? occasion _ = text?
  intro hassigned htext
  cases htext with
  | none =>
    rw [List.append_nil]
    exact ⟨texts, (congrArg Assignments.entries hassigned).trans hentries, hmono⟩
  | @some entry text htext =>
    have hinsert : (b.apply setter).clauses.assignedOn occasion =
        (b.clauses.assignedOn occasion).insert text.1 text.2 := hassigned
    refine ⟨texts ++ [text], ?_, List.rel_append hmono (.cons htext .nil)⟩
    rw [hinsert, Assignments.insert, hentries, Assignments.put_settled]

/-- **A builder goes on keeping what is said.** -/
theorem apply (h : Keeps alias? said b) (setter : Setter) :
    Keeps alias? (said ++ [setter]) (b.apply setter) := by
  refine ⟨?_, ?_, ?_, ?_, h.assigned_apply setter⟩
  · exact (congrArg (·.2.1) (apply_origin b setter)).trans h.qualifier
  · obtain ⟨values, hvalues⟩ := b.apply_params_extends setter
    exact hvalues ▸ h.issued.bindAll values
  · rw [apply_filters, h.filters, List.filterMap_append]
    cases setter <;> rfl
  · rw [apply_condition, h.condition, Setter.rawCondition, Setter.rawCondition,
      List.filterMap_append]
    cases setter <;> simp [Setter.condition?]

/-- What has been said in one go has been kept. -/
theorem changeAll (kind : StatementKind) (table : String) (alias? : Option String)
    (settings : Settings) (said : List Setter) :
    Keeps (effectiveAlias? kind alias?) said
      ((Builder.create kind table alias? settings).changeAll said).1 := by
  rw [changeAll_eq_foldl rfl]
  -- by induction on what is yet to be said, whatever has been said before
  suffices hmore : ∀ (before : List Setter) (b : Builder),
      Keeps (effectiveAlias? kind alias?) before b →
        Keeps (effectiveAlias? kind alias?) (before ++ said) (said.foldl Builder.apply b) from
    hmore [] _ (create kind table alias? settings)
  induction said with
  | nil =>
    intro before b hb
    rwa [List.append_nil]
  | cons setter said ih =>
    intro before b hb
    have hnext := ih (before ++ [setter]) (b.apply setter) (hb.apply setter)
    rwa [List.append_assoc] at hnext

/-! ### What is built -/

/-- Two lists of assignments, merged, spell what was said, one list overriding the other. -/
theorem merged (h : Keeps alias? said b) {ps : Params} (hps : ps.Extends b.params)
    (first second : Occasion) :
    (Setter.history alias? first said ++ Setter.history alias? second said).settled.Parallel
      (IsSpelledBy ps.Refers)
      (Assignments.merged [b.clauses.assignedOn first, b.clauses.assignedOn second]).entries := by
  obtain ⟨texts₁, hentries₁, hspelled₁⟩ := h.assigned first
  obtain ⟨texts₂, hentries₂, hspelled₂⟩ := h.assigned second
  rw [Assignments.merged_pair_of_settled hentries₁ hentries₂]
  refine History.Parallel.settled ((List.rel_append hspelled₁ hspelled₂).imp ?_)
  exact fun _ _ hentry ↦ ⟨hentry.1, hentry.2.mono fun _ _ ↦ hps.refers⟩

/-- **What is built spells what has been said.** -/
theorem spelled (h : Keeps alias? said b) :
    (Setter.contents b.kind alias? said).Spelled b.withFilters.params.Refers b.kind
      b.withFilters.clauses := by
  have hextends := withFilters_params_extends b
  have hcondition : IsSpelledBy b.withFilters.params.Refers
      (Setter.conditionTemplate alias? said) b.withFilters.clauses.condition := by
    rw [Setter.conditionTemplate, ← h.condition]
    rcases withFilters_cases b with ⟨hempty, hparams, hclauses⟩ | ⟨hraw, hsame⟩
    · rw [if_pos hempty, hparams, hclauses, h.filters, h.qualifier]
      exact Filter.spelledBy_compileAll alias? _ h.issued
    · rw [if_neg hraw, hsame]
      exact .ofText _
  -- filters come later than all assignments, and leave these as they are
  have hmerged (first second : Occasion) := h.merged hextends first second
  simp only [← b.withFilters_assignedOn] at hmerged
  refine ⟨?_, ?_, hcondition⟩
  · cases hkind : b.kind with
    | select | delete => exact .nil
    | insert | upsert => exact hmerged .onInsert .always
    | update => exact hmerged .always .onUpdate
  · cases hkind : b.kind with
    | select | insert | update | delete => exact .nil
    | upsert => exact hmerged .always .onUpdate

end Keeps

end Builder

end ParamSql
