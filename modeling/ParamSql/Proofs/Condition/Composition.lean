import ParamSql.Proofs.Condition.Reader

/-!
# Conditions put together

`ReadsAs` says what a list of tokens amounts to wherever a condition may stand: the reader, in
whatever groups it is, goes on as if it had been given the condition itself. Single conditions are
read by going through their tokens; groups are read from the readings of their parts
(`ReadsAs.group`), and so is the condition of a statement, which stands in no parentheses
(`read?_eq_some`). The order of the parts is kept, and connected parts are grouped to the left.

`Means` says what a condition comes to for a row, as far as holding is concerned, and composes in
the same way (`Means.joined`).
-/

namespace ParamSql.Condition

open Identifier (isNameChar isReserved IsPlain)

/-! ### Running over parts -/

namespace Reading

@[simp]
theorem run_cons (r : Reading) (token : Token) (tokens : List Token) :
    r.run (token :: tokens) = (r.step token).bind (run · tokens) :=
  rfl

theorem run_append (r : Reading) (first second : List Token) :
    r.run (first ++ second) = (r.run first).bind (run · second) :=
  List.foldlM_append

end Reading

/-- The tokens amount to the condition, wherever a condition may stand. -/
def ReadsAs (tokens : List Token) (c : Condition) : Prop :=
  ∀ (outer : List Group) (group : Group),
    Reading.run ⟨outer, group, .start⟩ tokens = some ⟨outer, group.add c, .done⟩

/-! ### Words -/

/-- The token that a word is. -/
def wordToken (word : String) : Token :=
  .word word.toList

/-- A plain name that is not reserved names a column. -/
theorem column?_toList {name : String} (hplain : IsPlain name) (hfree : isReserved name = false) :
    column? name.toList = some name := by
  have hall : name.toList.all isNameChar = true := List.all_eq_true.2 hplain.2
  rw [column?, String.ofList_toList, hall, hfree]
  simp

/-- The mark of a placeholder is followed by a name. -/
theorem placeholder?_toList (name : String) : placeholder? (":" ++ name).toList = some name := by
  rw [String.toList_append, show ":".toList = [':'] from rfl, List.singleton_append, placeholder?,
    String.ofList_toList]

/-! ### Single conditions -/

variable {column : String}

theorem ReadsAs.isNull (hcolumn : column? column.toList = some column) :
    ReadsAs [wordToken column, wordToken "is", wordToken "null"] (.isNull column) := by
  intro outer group
  simp only [wordToken, Reading.run_cons, Reading.step, Reading.stepOperand, Reading.inPhase,
    Option.bind_some, hcolumn, show comparison? "is".toList = none from rfl]
  rfl

theorem ReadsAs.isNotNull (hcolumn : column? column.toList = some column) :
    ReadsAs [wordToken column, wordToken "is", wordToken "not", wordToken "null"]
      (.isNotNull column) := by
  intro outer group
  simp only [wordToken, Reading.run_cons, Reading.step, Reading.stepOperand, Reading.inPhase,
    Option.bind_some, hcolumn, show comparison? "is".toList = none from rfl]
  rfl

/-- The words of a comparison. -/
def comparisonTokens : Comparison → List Token
  | .notLike => [wordToken "not", wordToken "like"]
  | comparison => [wordToken comparison.sql]

/-- After its column and its words, a comparison waits for its right side. -/
theorem run_comparisonTokens (hcolumn : column? column.toList = some column)
    (comparison : Comparison) (outer : List Group) (group : Group) :
    Reading.run ⟨outer, group, .start⟩ (wordToken column :: comparisonTokens comparison) =
      some ⟨outer, group, .compared column.toList comparison⟩ := by
  cases comparison
  case notLike =>
    simp only [comparisonTokens, wordToken, Reading.run_cons, Reading.step, Reading.stepOperand,
      Reading.inPhase, Option.bind_some, hcolumn, show comparison? "not".toList = none from rfl]
    rfl
  -- every other comparison is a single word, which is looked up
  all_goals rfl

theorem ReadsAs.compare (hcolumn : column? column.toList = some column) (comparison : Comparison)
    (name : String) :
    ReadsAs (wordToken column :: comparisonTokens comparison ++ [wordToken (":" ++ name)])
      (.compare column comparison name) := by
  intro outer group
  rw [Reading.run_append, run_comparisonTokens hcolumn, Option.bind_some, Reading.run_cons]
  simp only [wordToken, Reading.step, Reading.stepCompared, placeholder?_toList, hcolumn,
    Option.map_some, Option.bind_some]
  rfl

theorem ReadsAs.numeralsEqual_one_zero :
    ReadsAs [wordToken "1", wordToken "=", wordToken "0"] (.numeralsEqual 1 0) := by
  intro outer group
  rfl

/-! ### Membership -/

/-- The placeholders of a list are read one after the other. -/
theorem run_listing (outer : List Group) (group : Group) (name : String)
    (names seen : List String) :
    Reading.run ⟨outer, group, .listing column seen⟩
        ([Token.comma].intercalate ((name :: names).map fun n ↦ [wordToken (":" ++ n)])) =
      some ⟨outer, group, .listed column (seen ++ name :: names)⟩ := by
  induction names generalizing name seen with
  | nil =>
    simp only [List.map_cons, List.map_nil, List.intercalate_singleton, wordToken,
      Reading.run_cons, Reading.step, placeholder?_toList, Option.map_some, Option.bind_some]
    rfl
  | cons next names ih =>
    have hrest := ih next (seen ++ [name])
    rw [List.append_assoc, List.singleton_append, List.map_cons] at hrest
    rw [List.map_cons, List.map_cons, List.intercalate_cons_cons, List.append_assoc,
      List.singleton_append, List.singleton_append, Reading.run_cons]
    simp only [wordToken, Reading.step, placeholder?_toList, Option.map_some, Option.bind_some,
      Reading.inPhase, Reading.run_cons] at hrest ⊢
    exact hrest

theorem ReadsAs.oneOf (hcolumn : column? column.toList = some column) (name : String)
    (names : List String) :
    ReadsAs ([wordToken column, wordToken "in", .opening] ++
        [Token.comma].intercalate ((name :: names).map fun n ↦ [wordToken (":" ++ n)]) ++
        [.closing])
      (.oneOf column (name :: names)) := by
  intro outer group
  have hopen : Reading.run ⟨outer, group, .start⟩ [wordToken column, wordToken "in", .opening] =
      some ⟨outer, group, .listing column []⟩ := by
    simp only [wordToken, Reading.run_cons, Reading.step, Reading.stepOperand, Reading.inPhase,
      Option.bind_some, hcolumn, show comparison? "in".toList = none from rfl]
    rfl
  rw [Reading.run_append, Reading.run_append, hopen, Option.bind_some, run_listing,
    Option.bind_some]
  rfl

/-! ### Connected conditions -/

/-- A connective, once read, lets another condition follow. -/
theorem step_connective (connective : Connective) (outer : List Group) (group : Group) :
    Reading.step ⟨outer, group, .done⟩ (wordToken connective.word) =
      some ⟨outer, group.next connective, .start⟩ := by
  cases connective <;> rfl

/-- Connected conditions are added to the group one after the other. -/
theorem run_connected (connective : Connective) (outer : List Group) {first : List Token}
    {c : Condition} (hfirst : ReadsAs first c) {parts : List (List Token)} {cs : List Condition}
    (hparts : List.Forall₂ ReadsAs parts cs) (group : Group) :
    Reading.run ⟨outer, group, .start⟩
        ([wordToken connective.word].intercalate (first :: parts)) =
      some ⟨outer, cs.foldl (fun g d ↦ (g.next connective).add d) (group.add c), .done⟩ := by
  induction hparts generalizing first c group with
  | nil =>
    rw [List.intercalate_singleton]
    exact hfirst outer group
  | @cons second d parts cs hsecond _ ih =>
    rw [List.intercalate_cons_cons, List.append_assoc, Reading.run_append, hfirst outer group,
      Option.bind_some, List.singleton_append, Reading.run_cons, step_connective, Option.bind_some]
    exact ih hsecond ((group.add c).next connective)

/-- A group in which all conditions are connected alike amounts to their combination. -/
theorem result?_foldl_add (connective : Connective) (c : Condition) (cs : List Condition) :
    (cs.foldl (fun g d ↦ (g.next connective).add d) (Group.add {} c)).result? =
      some (cs.foldl connective.join c) := by
  cases connective with
  | and =>
    induction cs generalizing c with
    | nil => rfl
    | cons d cs ih => exact ih (c.and d)
  | or =>
    -- what counts of a group is what it amounts to: the next alternative is added to that
    suffices h : ∀ (g : Group) (c : Condition), g.result? = some c →
        (cs.foldl (fun g d ↦ (g.next .or).add d) g).result? = some (cs.foldl Condition.or c) from
      h _ c rfl
    induction cs with
    | nil => exact fun g c hg ↦ hg
    | cons d cs ih =>
      intro g c hg
      refine ih _ _ ?_
      simp only [Group.next, hg]
      rfl

/-- **Connected conditions between parentheses** amount to their combination. -/
theorem ReadsAs.group (connective : Connective) {first : List Token} {c : Condition}
    (hfirst : ReadsAs first c) {parts : List (List Token)} {cs : List Condition}
    (hparts : List.Forall₂ ReadsAs parts cs) :
    ReadsAs (.opening :: [wordToken connective.word].intercalate (first :: parts) ++ [.closing])
      (cs.foldl connective.join c) := by
  intro outer group
  have hinner := run_connected connective (group :: outer) hfirst hparts {}
  rw [List.cons_append, Reading.run_cons]
  simp only [Reading.step, Option.bind_some]
  rw [Reading.run_append, hinner, Option.bind_some, Reading.run_cons]
  simp only [Reading.step, Reading.leave, result?_foldl_add connective c cs]
  rfl

/-- **Conditions that must all hold, without parentheses around them**, are read as their
conjunction. -/
theorem read?_eq_some {text : String} {first : List Token} {parts : List (List Token)}
    (htext : Token.lex text.toList = [wordToken Connective.and.word].intercalate (first :: parts))
    {c : Condition} (hfirst : ReadsAs first c) {cs : List Condition}
    (hparts : List.Forall₂ ReadsAs parts cs) :
    read? text = some (cs.foldl Condition.and c) := by
  rw [read?, htext, run_connected .and [] hfirst hparts {}, Option.bind_some]
  exact result?_foldl_add .and c cs

/-! ### Meaning -/

/-- The truth of two conditions that are connected. -/
def Connective.combine : Connective → Truth → Truth → Truth
  | .and => Truth.and
  | .or => Truth.or

/-- The truth of conditions that are connected alike. -/
def Connective.truth : Connective → List Truth → Truth
  | .and => Truth.all
  | .or => Truth.any

/-- Several conditions that are connected alike, if there are any. -/
def joined? (connective : Connective) : List Condition → Option Condition
  | [] => none
  | c :: cs => some (cs.foldl connective.join c)

variable {collation : Collation} {row : String → Value} {ps : Params}

/-- A condition has a truth, and it holds where `t` says so. -/
def Means (collation : Collation) (row : String → Value) (ps : Params) (c : Condition) (t : Truth) :
    Prop :=
  ∃ s, c.truth? collation row ps = some s ∧ (s = .holds ↔ t = .holds)

/-- The truth of connected conditions is the combination of their truths. -/
theorem truth?_join {connective : Connective} {c d : Condition} {s t : Truth}
    (hc : c.truth? collation row ps = some s) (hd : d.truth? collation row ps = some t) :
    (connective.join c d).truth? collation row ps = some (connective.combine s t) := by
  cases connective <;> simp [Connective.join, Connective.combine, truth?, hc, hd]

theorem Connective.combine_eq_holds_congr {connective : Connective} {s s' t t' : Truth}
    (hs : s = .holds ↔ s' = .holds) (ht : t = .holds ↔ t' = .holds) :
    connective.combine s t = .holds ↔ connective.combine s' t' = .holds := by
  cases connective <;> simp [Connective.combine, hs, ht]

/-- Combining from the left holds where the connected truths do. -/
theorem Connective.foldl_combine_eq_holds_iff {connective : Connective} {t : Truth}
    {parts : List Truth} :
    parts.foldl connective.combine t = .holds ↔ connective.truth (t :: parts) = .holds := by
  cases connective with
  | and =>
    rw [Connective.truth, Truth.all_eq_holds_iff, List.forall_mem_cons]
    exact Truth.foldl_and_eq_holds_iff
  | or =>
    rw [Connective.truth, Truth.any_eq_holds_iff, List.exists_mem_cons_iff]
    exact Truth.foldl_or_eq_holds_iff

theorem Means.join {connective : Connective} {c d : Condition} {s t : Truth}
    (hc : Means collation row ps c s) (hd : Means collation row ps d t) :
    Means collation row ps (connective.join c d) (connective.combine s t) := by
  obtain ⟨s', hs', hs⟩ := hc
  obtain ⟨t', ht', ht⟩ := hd
  exact ⟨_, truth?_join hs' ht', Connective.combine_eq_holds_congr hs ht⟩

theorem Means.foldl_join {connective : Connective} {c : Condition} {t : Truth}
    (hc : Means collation row ps c t) {cs : List Condition} {ts : List Truth}
    (hcs : List.Forall₂ (Means collation row ps) cs ts) :
    Means collation row ps (cs.foldl connective.join c) (ts.foldl connective.combine t) := by
  induction hcs generalizing c t with
  | nil => exact hc
  | cons hd _ ih => exact ih (hc.join hd)

/-- **Connected conditions mean what their parts mean, connected.** -/
theorem Means.joined (connective : Connective) {c : Condition} {t : Truth}
    (hc : Means collation row ps c t) {cs : List Condition} {ts : List Truth}
    (hcs : List.Forall₂ (Means collation row ps) cs ts) :
    Means collation row ps (cs.foldl connective.join c) (connective.truth (t :: ts)) := by
  obtain ⟨s, hs, hholds⟩ := hc.foldl_join hcs
  exact ⟨s, hs, hholds.trans Connective.foldl_combine_eq_holds_iff⟩

end ParamSql.Condition
