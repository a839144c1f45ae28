import ParamSql.Proofs.Builder.Template

/-!
# What is counted

The order of rows, the page that is asked for and the keyword that has the database remember a
number have no part in how many rows there are. So they have none in the counting statement: it is
the same for a builder to which nothing of the kind has been said, and it is made from the statement
that this builder builds, with the same parameters (`countSql_eq_of_counts`).

Setters that have a part in the count cannot see what the other ones change. The part of a builder
that they see (`Builder.countable`) goes along with each of them and stays as it is with the others,
so after a list of setters it is what comes of leaving the others out
(`countable_foldl_apply`). Filters are compiled in this part as well (`countable_withFilters`), and
the counting statement is made from nothing else (`Clauses.countSql_countable`).
-/

namespace ParamSql

/-- Whether what a setter says has a part in the number of rows. -/
def Setter.counts : Setter → Bool
  | calcFoundRows _ | order _ | orderBy _ _ | limit _ | offset _ => false
  | select _ | addSelect _ | distinct _ | assign _ _ _ | assignRaw _ _ _ | whereRaw _ | filter _ =>
    true

/-! ### The clauses that are counted -/

namespace Clauses

/-- The clauses without those that have no part in the number of rows. -/
def countable (c : Clauses) : Clauses :=
  { c.unpaged with modifiers := c.modifiers.filter (· != rememberCountKeyword) }

theorem hasModifier_countable (c : Clauses) {keyword : String}
    (h : keyword ≠ rememberCountKeyword) :
    c.countable.hasModifier keyword = c.hasModifier keyword := by
  have hmem : keyword ∈ c.countable.modifiers ↔ keyword ∈ c.modifiers := by
    rw [countable, List.mem_filter, and_iff_left (bne_iff_ne.2 h)]
  rw [Bool.eq_iff_iff, hasModifier, hasModifier, List.contains_iff_mem, List.contains_iff_mem, hmem]

/-- Another keyword is switched as it is where rows are not remembered. -/
theorem countable_toggle (c : Clauses) {keyword : String} (h : keyword ≠ rememberCountKeyword)
    (on : Bool) : (c.toggle keyword on).countable = c.countable.toggle keyword on := by
  rw [toggle, toggle, hasModifier_countable c h]
  cases on with
  | true =>
    cases c.hasModifier keyword with
    | true => rfl
    | false =>
      have hlast : [keyword].filter (· != rememberCountKeyword) = [keyword] := by
        simp [h]
      simp only [if_true, if_false, Bool.false_eq_true, countable, unpaged, List.filter_append,
        hlast]
  | false =>
    simp only [if_false, Bool.false_eq_true, countable, unpaged, List.filter_filter, Bool.and_comm]

/-- Having rows remembered changes nothing that is counted. -/
theorem countable_toggle_rememberCount (c : Clauses) (on : Bool) :
    (c.toggle rememberCountKeyword on).countable = c.countable := by
  rw [toggle]
  cases on with
  | true =>
    cases c.hasModifier rememberCountKeyword with
    | true => rfl
    | false => simp [countable, unpaged]
  | false => simp [countable, unpaged]

/-- **The counting statement is made from what is counted.** -/
theorem countSql_countable (c : Clauses) : c.countable.countSql = c.countSql := by
  have hdistinct : c.countable.isDistinctSelection = c.isDistinctSelection := by
    rw [isDistinctSelection, isDistinctSelection, hasModifier_countable c (by decide)]
    rfl
  rw [countSql, countSql, counting, counting, hdistinct]
  cases c.isDistinctSelection <;> rfl

/-- **What the counting statement is made of**, where there is neither order nor page and no keyword
but one: a selection of distinct rows is kept whole, and of any other one the selected columns are
replaced. -/
theorem countSql_of_unpaged {c : Clauses} (hunpaged : c.unpaged = c)
    (hmodifiers : c.modifiers = [] ∨ c.modifiers = [distinctKeyword]) :
    if c.hasModifier distinctKeyword = true ∧ c.columns ≠ [] then
      c.countSql = "SELECT COUNT(*) FROM (" ++ c.assemble .select ++ ") AS counted"
    else
      ∃ rest, c.arranged .select = .select c.modifiers c.columns :: rest ∧
        c.countSql = " ".intercalate ((.select [] ["COUNT(*)"] :: rest).map Clause.text) := by
  have hselection : c.isDistinctSelection = true ↔
      c.hasModifier distinctKeyword = true ∧ c.columns ≠ [] := by
    rw [isDistinctSelection, Bool.and_eq_true, Bool.not_eq_true', List.isEmpty_eq_false_iff]
  split
  · rename_i hdistinct
    -- the keyword is there, so it is all there is
    have hkeyword : c.modifiers = [distinctKeyword] := by
      refine hmodifiers.resolve_left fun hnone ↦ ?_
      rw [hasModifier, hnone] at hdistinct
      exact absurd hdistinct.1 (by decide)
    have hwhole : c.distinctRows = c := by
      rw [distinctRows, hunpaged, ← hkeyword]
    rw [countSql_of_isDistinctSelection c (hselection.2 hdistinct), hwhole]
  · rename_i hplain
    have hcounting : c.counting = { c with modifiers := [], columns := ["COUNT(*)"] } := by
      rw [counting, if_neg (mt hselection.1 hplain), hunpaged]
    exact ⟨(c.arranged .select).tail, rfl, by rw [countSql, hcounting, assemble_eq_text]; rfl⟩

end Clauses

namespace Builder

/-! ### The builder that is counted -/

/-- The builder without what has no part in the number of rows. -/
def countable (b : Builder) : Builder :=
  { b with clauses := b.clauses.countable }

/-- What a setter does to the part of a builder that is counted: what it does to any builder, or
nothing. -/
theorem countable_apply (b : Builder) (setter : Setter) :
    (b.apply setter).countable =
      if setter.counts then b.countable.apply setter else b.countable := by
  cases setter
  case distinct on =>
    have htoggle :=
      b.clauses.countable_toggle (show distinctKeyword ≠ rememberCountKeyword by decide)
    exact congrArg (fun c ↦ { b with clauses := c }) (htoggle on)
  case calcFoundRows on =>
    show (apply b _).countable = b.countable
    rw [apply]
    split
    · have htoggle := b.clauses.countable_toggle_rememberCount on
      exact congrArg (fun c ↦ { b with clauses := c }) htoggle
    · rfl
  case assign occasion column v => cases occasion <;> rfl
  case assignRaw occasion column expression => cases occasion <;> rfl
  all_goals rfl

/-- **After a list of setters** the part of a builder that is counted is what comes of leaving those
out that have no part in the count. -/
theorem countable_foldl_apply (b : Builder) (said : List Setter) :
    (said.foldl apply b).countable = (said.filter Setter.counts).foldl apply b.countable := by
  induction said generalizing b with
  | nil => rfl
  | cons setter said ih =>
    rw [List.foldl_cons, ih, countable_apply, List.filter_cons]
    split <;> rfl

/-- Filters are compiled in it as they are. -/
theorem countable_withFilters (b : Builder) :
    b.countable.withFilters = b.withFilters.countable := by
  rw [withFilters, withFilters]
  show (if b.clauses.condition.isEmpty then _ else _) = _
  split <;> rfl

/-- Of the keywords only that for distinct rows has a part in the count. -/
theorem modifiers_apply {b : Builder} {setter : Setter} (hcounts : setter.counts = true)
    (h : b.clauses.modifiers = [] ∨ b.clauses.modifiers = [distinctKeyword]) :
    (b.apply setter).clauses.modifiers = [] ∨
      (b.apply setter).clauses.modifiers = [distinctKeyword] := by
  cases setter
  case distinct on =>
    have happly : (b.apply (.distinct on)).clauses = b.clauses.toggle distinctKeyword on := rfl
    rw [happly, Clauses.toggle, Clauses.hasModifier]
    rcases h with h | h <;> cases on <;> simp [h]
  case assign occasion column v => cases occasion <;> exact h
  case assignRaw occasion column expression => cases occasion <;> exact h
  case calcFoundRows | order | orderBy | limit | offset => cases hcounts
  all_goals exact h

/-! ### The counting statement -/

section Run

variable (table : String) (alias? : Option String) (settings : Settings) (steps : List Step)

/-- The builder of a SELECT to which only that has been said in time which has a part in the
count. -/
def counterpart : Builder :=
  let b := create .select table alias? settings
  (b.changeAll ((b.saidIn steps).filter Setter.counts)).1

/-- It is what is counted of the builder to which everything has been said. -/
theorem counterpart_eq_countable :
    counterpart table alias? settings steps =
      ((create .select table alias? settings).asSaid steps).countable := by
  rw [counterpart, asSaid, changeAll_eq_foldl rfl, changeAll_eq_foldl rfl, countable_foldl_apply]
  rfl

theorem isBuilt_counterpart : (counterpart table alias? settings steps).isBuilt = false := by
  rw [counterpart_eq_countable]
  exact isBuilt_asSaid rfl steps

/-- And it builds what is counted of what the other one builds. -/
theorem build_counterpart :
    let now := (create .select table alias? settings).after steps
    let counted := counterpart table alias? settings steps
    counted.kind = .select ∧ counted.build.2.clauses = now.build.2.clauses.countable ∧
      counted.build.2.params = now.build.2.params := by
  intro now counted
  have hcounted : counted.withFilters =
      ((create .select table alias? settings).asSaid steps).withFilters.countable := by
    rw [← countable_withFilters, ← counterpart_eq_countable]
  refine ⟨?_, ?_, ?_⟩
  · rw [show counted = _ from counterpart_eq_countable table alias? settings steps]
    exact congrArg Prod.fst (asSaid_origin _ steps)
  · rw [build_of_not_isBuilt (isBuilt_counterpart ..), clauses_build_after rfl, hcounted]
    rfl
  · rw [build_of_not_isBuilt (isBuilt_counterpart ..), params_build_after rfl, hcounted]
    rfl

/-- There is at most the keyword for distinct rows in it. -/
theorem modifiers_build_counterpart :
    (counterpart table alias? settings steps).build.2.clauses.modifiers = [] ∨
      (counterpart table alias? settings steps).build.2.clauses.modifiers = [distinctKeyword] := by
  have hsaid : (counterpart table alias? settings steps).clauses.modifiers = [] ∨
      (counterpart table alias? settings steps).clauses.modifiers = [distinctKeyword] := by
    refine changeAll_invariant
      (P := fun b ↦ b.clauses.modifiers = [] ∨ b.clauses.modifiers = [distinctKeyword]) rfl
      (.inl rfl) fun b setter hmem h ↦ ?_
    exact modifiers_apply (List.mem_filter.1 hmem).2 h
  rw [build_of_not_isBuilt (isBuilt_counterpart ..)]
  rcases withFilters_cases (counterpart table alias? settings steps) with
    ⟨-, -, hclauses⟩ | ⟨-, hsame⟩
  · rw [hclauses]
    exact hsaid
  · rw [hsame]
    exact hsaid

end Run

/-- **What is counted follows from what is selected.** Whatever is done with a builder of a SELECT,
its counting statement is that of the builder to which nothing has been said about order and page
and about remembering rows. What that one builds is kept whole if its rows are distinct and columns
are named, and otherwise has its selected columns replaced. Both have the same parameters. -/
theorem countSql_eq_of_counts (table : String) (alias? : Option String) (settings : Settings)
    (steps : List Step) :
    let now := (create .select table alias? settings).after steps
    let counted := counterpart table alias? settings steps
    let c := counted.build.2.clauses
    now.build.2.countSql? = counted.build.2.countSql? ∧
      now.build.2.params = counted.build.2.params ∧
      if c.hasModifier distinctKeyword = true ∧ c.columns ≠ [] then
        now.build.2.countSql? =
          some ("SELECT COUNT(*) FROM (" ++ counted.build.1 ++ ") AS counted")
      else
        ∃ rest,
          counted.build.1 =
            " ".intercalate ((.select c.modifiers c.columns :: rest).map Clause.text) ∧
          now.build.2.countSql? =
            some (" ".intercalate ((.select [] ["COUNT(*)"] :: rest).map Clause.text)) := by
  intro now counted c
  obtain ⟨hkind, hclauses, hparams⟩ := build_counterpart table alias? settings steps
  have hsql : counted.build.1 = c.assemble .select := by
    rw [show c = counted.build.2.clauses from rfl, build_of_not_isBuilt (isBuilt_counterpart ..),
      show counted.kind = .select from hkind]
  have hnow : now.build.2.countSql? = some c.countSql := by
    have hselect : now.build.2.kind = .select := kind_build_after _ steps
    rw [countSql?, hselect, show c = _ from hclauses, Clauses.countSql_countable]
  have hcounted : counted.build.2.countSql? = some c.countSql := by
    rw [countSql?, (build_kind counted).trans hkind]
  have hunpaged : c.unpaged = c := by
    rw [show c = _ from hclauses]
    rfl
  have hshape := Clauses.countSql_of_unpaged hunpaged
    (modifiers_build_counterpart table alias? settings steps)
  refine ⟨hnow.trans hcounted.symm, hparams.symm, ?_⟩
  rw [hnow]
  split
  · rename_i hdistinct
    rw [if_pos hdistinct] at hshape
    rw [hshape, hsql]
  · rename_i hplain
    rw [if_neg hplain] at hshape
    obtain ⟨rest, harranged, hreplaced⟩ := hshape
    exact ⟨rest, by rw [hsql, Clauses.assemble_eq_text, harranged], congrArg some hreplaced⟩

/-- A page of distinct rows, and its counting statement. -/
example : ((create .select "users" (some "u") {}).after
    [.change [.order [("name", .ascending)], .select ["name"], .distinct true, .limit 10,
      .filter (.compare "age" .greater (.int 20))]]).build.2.countSql? =
    some ("SELECT COUNT(*) FROM (SELECT DISTINCT u.name FROM users u WHERE u.age > :p_0)" ++
      " AS counted") := by
  decide +kernel

end Builder

end ParamSql
