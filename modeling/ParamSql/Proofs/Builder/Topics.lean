import ParamSql.Proofs.Builder.Said

/-!
# Setters on different topics

Each setter speaks about one part of a statement, its topic. It looks at nothing but that part and
what the builder was made with, and it changes nothing but that part. Both are said by a single
equation (`apply_adopt`): a builder that has adopted a part from another one does with it what the
other one does.

Hence setters on different topics commute (`apply_comm`), and a builder does not remember how the
calls on different topics were interleaved (`changeAll_eq_of_topics`).

Parameters belong to the assignments. Filters are a topic of their own although they bind values,
because they do so only when the statement is built; numbering their values where a filter is added
would make the numbers depend on whether it comes before an assignment or behind it.
-/

namespace ParamSql

/-- The parts of a statement that setters speak about. -/
inductive Topic
  /-- What is selected. -/
  | columns
  /-- The keywords in front of what is selected. -/
  | modifiers
  /-- What is assigned, on whichever occasion, and the parameters. -/
  | assignments
  /-- The condition as it stands. -/
  | condition
  /-- The filters. -/
  | filters
  /-- The order of rows. -/
  | ordering
  /-- The greatest number of rows. -/
  | limit
  /-- The number of rows skipped. -/
  | offset
deriving DecidableEq

namespace Setter

/-- The topic of a setter. -/
def topic : Setter → Topic
  | select _ | addSelect _ => .columns
  | distinct _ | calcFoundRows _ => .modifiers
  | assign _ _ _ | assignRaw _ _ _ => .assignments
  | whereRaw _ => .condition
  | filter _ => .filters
  | order _ | orderBy _ _ => .ordering
  | limit _ => .limit
  | offset _ => .offset

/-- What is said on a topic, in order. -/
def on (topic : Topic) (said : List Setter) : List Setter :=
  said.filter (·.topic = topic)

theorem on_cons_of_eq {topic : Topic} {setter : Setter} (h : setter.topic = topic)
    (said : List Setter) : on topic (setter :: said) = setter :: on topic said :=
  List.filter_cons_of_pos (decide_eq_true h)

theorem on_cons_of_ne {topic : Topic} {setter : Setter} (h : setter.topic ≠ topic)
    (said : List Setter) : on topic (setter :: said) = on topic said :=
  List.filter_cons_of_neg (by simpa using h)

theorem on_append (topic : Topic) (first second : List Setter) :
    on topic (first ++ second) = on topic first ++ on topic second :=
  List.filter_append first second

theorem on_eq_nil {topic : Topic} {said : List Setter} (h : ∀ setter ∈ said, setter.topic ≠ topic) :
    on topic said = [] :=
  List.filter_eq_nil_iff.2 fun setter hmem ↦ by simpa using h setter hmem

end Setter

namespace Builder

/-! ### Parts of a builder -/

/-- The builder with what another one holds on a topic. -/
def adopt (b : Builder) (topic : Topic) (other : Builder) : Builder :=
  match topic with
  | .columns => { b with clauses.columns := other.clauses.columns }
  | .modifiers => { b with clauses.modifiers := other.clauses.modifiers }
  | .assignments =>
    { b with
      params := other.params
      clauses.assigned := other.clauses.assigned
      clauses.assignedOnInsert := other.clauses.assignedOnInsert
      clauses.assignedOnUpdate := other.clauses.assignedOnUpdate }
  | .condition => { b with clauses.condition := other.clauses.condition }
  | .filters => { b with filters := other.filters }
  | .ordering => { b with clauses.ordering := other.clauses.ordering }
  | .limit => { b with clauses.limit := other.clauses.limit }
  | .offset => { b with clauses.offset := other.clauses.offset }

@[simp]
theorem adopt_self (b : Builder) (topic : Topic) : b.adopt topic b = b := by
  cases topic <;> rfl

/-- Parts on different topics do not overlap. -/
theorem adopt_comm (b x y : Builder) {topic other : Topic} (h : topic ≠ other) :
    (b.adopt topic x).adopt other y = (b.adopt other y).adopt topic x := by
  cases topic <;> cases other <;> try rfl
  -- left are the pairs of one topic with itself
  all_goals exact absurd rfl h

/-! ### What a setter looks at and what it changes -/

/-- Switching a keyword looks at the keywords only, and changes nothing else. -/
theorem toggle_modifiers (c other : Clauses) (keyword : String) (on : Bool) :
    { c with modifiers := other.modifiers }.toggle keyword on =
      { c with modifiers := (other.toggle keyword on).modifiers } := by
  cases on with
  | false => rfl
  | true =>
    show (if other.hasModifier keyword then _ else _) = _
    rw [Clauses.toggle, if_pos rfl]
    split <;> rfl

/-- **A setter stays on its topic**: it looks at what is held on it, and at what the builder was
made with, and changes nothing else. -/
theorem apply_adopt {b other : Builder} (h : b.origin = other.origin) (setter : Setter) :
    (b.adopt setter.topic other).apply setter = b.adopt setter.topic (other.apply setter) := by
  obtain ⟨-, hrest⟩ := Prod.mk.inj h
  obtain ⟨halias, hsettings⟩ := Prod.mk.inj hrest
  have hname (topic : Topic) : (b.adopt topic other).fieldName = other.fieldName := by
    funext column
    cases topic <;> exact congrArg (Identifier.resolve · column) halias
  have hmode : (b.adopt .modifiers other).foundRowsMode = other.foundRowsMode :=
    congrArg Settings.foundRows hsettings
  have htoggle (keyword : String) (on : Bool) :
      { b with clauses := (b.adopt .modifiers other).clauses.toggle keyword on } =
        b.adopt .modifiers { other with clauses := other.clauses.toggle keyword on } :=
    congrArg (fun clauses ↦ { b with clauses }) (toggle_modifiers _ _ keyword on)
  cases setter with
  | select columns =>
    simp only [Setter.topic, apply, hname]
    rfl
  | distinct on => exact htoggle distinctKeyword on
  | calcFoundRows on =>
    simp only [Setter.topic, apply, hmode]
    split
    · exact htoggle rememberCountKeyword on
    · rfl
  | assign occasion column v =>
    simp only [Setter.topic, apply, assignValue, hname]
    cases occasion <;> rfl
  | assignRaw occasion column expression =>
    simp only [Setter.topic, apply, hname]
    cases occasion <;> rfl
  | addSelect | whereRaw | filter | order | orderBy | limit | offset => rfl

/-- What a setter has not changed is everything on other topics. -/
theorem apply_eq_adopt (b : Builder) (setter : Setter) :
    b.apply setter = b.adopt setter.topic (b.apply setter) := by
  have hsame := apply_adopt (b := b) rfl setter
  rwa [adopt_self] at hsame

/-- A setter after one on another topic: it does what it would have done before it. -/
theorem apply_apply (b : Builder) {setter later : Setter} (h : setter.topic ≠ later.topic) :
    (b.apply setter).apply later = (b.apply setter).adopt later.topic (b.apply later) := by
  -- on its own topic the builder is as it was before
  have hkept : (b.apply setter).adopt later.topic b = b.apply setter := by
    rw [apply_eq_adopt b setter, adopt_comm _ _ _ h, adopt_self]
  rw [← apply_adopt (apply_origin b setter), hkept]

/-- **Setters on different topics commute.** -/
theorem apply_comm (b : Builder) {setter later : Setter} (h : setter.topic ≠ later.topic) :
    (b.apply setter).apply later = (b.apply later).apply setter := by
  calc (b.apply setter).apply later
      = (b.apply setter).adopt later.topic (b.apply later) := apply_apply b h
    _ = (b.adopt setter.topic (b.apply setter)).adopt later.topic (b.apply later) := by
        rw [← apply_eq_adopt]
    _ = (b.adopt later.topic (b.apply later)).adopt setter.topic (b.apply setter) :=
        adopt_comm _ _ _ h
    _ = (b.apply later).adopt setter.topic (b.apply setter) := by rw [← apply_eq_adopt]
    _ = (b.apply later).apply setter := (apply_apply b h.symm).symm

/-! ### Interleaved setters -/

/-- A setter may as well be called before all setters on other topics that are called before it. -/
theorem foldl_apply_append_cons (b : Builder) {before : List Setter} {setter : Setter}
    (h : ∀ earlier ∈ before, earlier.topic ≠ setter.topic) (behind : List Setter) :
    (before ++ setter :: behind).foldl apply b =
      (before ++ behind).foldl apply (b.apply setter) := by
  induction before generalizing b with
  | nil => rfl
  | cons earlier before ih =>
    obtain ⟨hearlier, hbefore⟩ := List.forall_mem_cons.1 h
    rw [List.cons_append, List.foldl_cons, ih _ hbefore, apply_comm b hearlier]
    rfl

/-- **Only the order on each topic matters.** By induction on the first list: its first setter is
the first on its topic in the second list as well, and is taken out of both. -/
theorem foldl_apply_eq_of_topics {first second : List Setter}
    (h : ∀ topic, Setter.on topic first = Setter.on topic second) (b : Builder) :
    first.foldl apply b = second.foldl apply b := by
  induction first generalizing second b with
  | nil =>
    cases second with
    | nil => rfl
    | cons setter second =>
      have hnone := h setter.topic
      rw [Setter.on_cons_of_eq rfl] at hnone
      cases hnone
  | cons setter first ih =>
    have hown := (h setter.topic).symm
    rw [Setter.on_cons_of_eq rfl, Setter.on, List.filter_eq_cons_iff] at hown
    obtain ⟨before, behind, rfl, hother, -, -⟩ := hown
    have hbefore : ∀ earlier ∈ before, earlier.topic ≠ setter.topic := by
      simpa using hother
    rw [foldl_apply_append_cons b hbefore, List.foldl_cons]
    refine ih (fun topic ↦ ?_) (b.apply setter)
    have htopic := h topic
    rw [Setter.on_append] at htopic ⊢
    by_cases hsetter : setter.topic = topic
    · have hnone : Setter.on topic before = [] := Setter.on_eq_nil (hsetter ▸ hbefore)
      rw [Setter.on_cons_of_eq hsetter, Setter.on_cons_of_eq hsetter, hnone] at htopic
      rw [hnone]
      exact List.tail_eq_of_cons_eq htopic
    · rwa [Setter.on_cons_of_ne hsetter, Setter.on_cons_of_ne hsetter] at htopic

/-- **Builders do not remember how setters were interleaved.** If two lists of setters say the same
on every topic, it makes no difference which of them is called: the builders are the same, with all
that they show before and after they are built. -/
theorem changeAll_eq_of_topics (kind : StatementKind) (table : String) (alias? : Option String)
    (settings : Settings) {first second : List Setter}
    (h : ∀ topic, Setter.on topic first = Setter.on topic second) :
    let b := create kind table alias? settings
    b.changeAll first = b.changeAll second := by
  intro b
  have hopen : b.isBuilt = false := rfl
  refine Prod.ext ?_ ?_
  · rw [changeAll_eq_foldl hopen, changeAll_eq_foldl hopen]
    exact foldl_apply_eq_of_topics h b
  · rw [changeAll_events hopen, changeAll_events hopen]

/-- An UPDATE of two columns, told in two ways: its page and its filter first, or last. -/
theorem changeAll_eq_of_topics_update :
    let paged : List Setter := .filter (.compare "id" .equal (.int 7)) :: Setter.page 2 10
    let name : Setter := .assign .always "name" (.text "ada")
    let seen : Setter := .assign .onUpdate "seen" (.int 3)
    let first := paged ++ [name, .orderBy "u.id" .ascending, seen]
    let second := name :: seen :: .orderBy "u.id" .ascending :: paged.reverse
    let b := create .update "users" (some "u") {}
    (∀ topic, Setter.on topic first = Setter.on topic second) ∧
      b.changeAll first = b.changeAll second ∧
      (b.changeAll first).1.build.1 =
        "UPDATE users u SET u.name = :p_0, u.seen = :p_1 WHERE u.id = :p_2 ORDER BY u.id ASC" ++
          " LIMIT 10 OFFSET 10" := by
  intro paged name seen first second b
  have h : ∀ topic, Setter.on topic first = Setter.on topic second := by
    intro topic
    cases topic <;> rfl
  exact ⟨h, changeAll_eq_of_topics .update "users" (some "u") {} h, by decide +kernel⟩

end Builder

end ParamSql
