import ParamSql.Filter.Sql
import ParamSql.Proofs.Condition.Composition
import ParamSql.Proofs.Filter.Meaning
import ParamSql.Proofs.Param.Issued

/-!
# Reading compiled filters

A compiled filter, read back, is met by the rows that the filter describes
(`textTruth?_compileAll`). The way there leads over the condition that a filter stands for
(`condition?`): the text of the filter is read as that condition (`forall₂_stands_texts`), and the
condition means what the filter means (`forall₂_means_conditions`). Both are inductions over the
tree in which the number of the next placeholder moves along.

The condition has *not* the truth of the filter in all cases: ordering a column against the absent
value is unknown, and is written as a condition that fails. Filters have no negation, so that the
difference never reaches the rows that meet the condition; this is why the relation between the two
(`Means`) is about holding only.
-/

namespace ParamSql

namespace Filter

open Condition (Connective Means ReadsAs comparisonTokens joined? wordToken)

/-! ### The condition of a filter -/

/-- The condition that a comparison with a literal stands for, the literal being bound under the
number `start`. -/
def comparisonCondition (column : String) (comparison : Comparison) (literal : Value)
    (start : Nat) : Condition :=
  ofComparison comparison literal (.isNull column) (.isNotNull column) (.numeralsEqual 1 0)
    (.compare column comparison (Params.nameAt start))

/-- The condition that membership among `count` values stands for, bound under the numbers from
`start` on. -/
def membershipCondition (column : String) (count start : Nat) : Condition :=
  ofMembership count (.numeralsEqual 1 0)
    (.oneOf column ((List.range' start count).map Params.nameAt))

mutual

/-- The condition that a filter stands for, if it is not absent. -/
def condition? (alias? : Option String) : (start : Nat) → Filter → Option Condition
  | start, all children => joined? .and (conditions alias? start children)
  | start, any children => joined? .or (conditions alias? start children)
  | start, compare column comparison literal =>
    some (comparisonCondition (Identifier.resolve alias? column) comparison literal start)
  | start, oneOf column values =>
    some (membershipCondition (Identifier.resolve alias? column) values.length start)

/-- The conditions that those of several filters stand for that are not absent. -/
def conditions (alias? : Option String) : (start : Nat) → List Filter → List Condition
  | _, [] => []
  | start, filter :: rest =>
    (condition? alias? start filter).toList ++
      conditions alias? (start + filter.bound.length) rest

end

/-! ### The tokens of single conditions -/

theorem lex_plain {name : String} (hname : Identifier.IsPlain name) :
    Token.lex name.toList = [wordToken name] := by
  refine Token.lex_eq_word ?_ fun c hc ↦ ?_
  · rw [ne_eq, String.toList_eq_nil_iff]
    exact hname.1
  · rw [Token.isNamePart, hname.2 c hc, Bool.true_or]

/-- The characters of placeholders belong to one word. -/
theorem lex_placeholderAt (n : Nat) :
    Token.lex (Params.placeholderAt n).toList = [wordToken (":" ++ Params.nameAt n)] := by
  refine Token.lex_eq_word ?_ fun c hc ↦ ?_
  · rw [Params.placeholderAt, ne_eq, String.toList_eq_nil_iff]
    simp
  · rw [Params.placeholderAt, Params.nameAt, String.toList_append, String.toList_append,
      Nat.toList_repr, show ":".toList = [':'] from rfl, show "p_".toList = ['p', '_'] from rfl]
      at hc
    rcases List.mem_append.1 hc with hmark | hname
    · obtain rfl := List.mem_singleton.1 hmark
      rfl
    rcases List.mem_append.1 hname with hletters | hdigits
    · rcases List.mem_cons.1 hletters with rfl | hunderscore
      · rfl
      · obtain rfl := List.mem_singleton.1 hunderscore
        rfl
    · exact Token.isNamePart_of_isDigit
        (Nat.isDigit_of_mem_toDigits (by decide) (by decide) hdigits)

theorem lex_parentheses (text : String) :
    Token.lex ("(" ++ text ++ ")").toList = .opening :: Token.lex text.toList ++ [.closing] := by
  rw [String.toList_append, String.toList_append, List.append_assoc]
  show Token.opening :: Token.lex (text.toList ++ ')' :: []) = _
  rw [Token.lex_append_separator _ rfl]
  rfl

theorem lex_comparison (comparison : Comparison) :
    Token.lex comparison.sql.toList = comparisonTokens comparison := by
  cases comparison <;> rfl

/-! ### Texts of single conditions -/

variable {alias? : Option String}

/-- The text is read as the condition, wherever a condition may stand. -/
def Stands (text : String) (c : Condition) : Prop :=
  ReadsAs (Token.lex text.toList) c

theorem stands_alwaysFalse : Stands alwaysFalse (.numeralsEqual 1 0) :=
  ReadsAs.numeralsEqual_one_zero

section Column

variable {column : String} (hplain : Identifier.IsPlain column)
  (hfree : Identifier.isReserved column = false)
include hplain hfree

theorem stands_comparisonSql (comparison : Comparison) (literal : Value) (start : Nat) :
    Stands (comparisonSql column comparison literal start)
      (comparisonCondition column comparison literal start) := by
  have hcolumn := Condition.column?_toList hplain hfree
  rw [comparisonSql_eq]
  refine ofComparison_rel ?absent ?present stands_alwaysFalse fun _ ↦ ?_
  case absent =>
    rw [Stands, show column ++ " is null" = column ++ " " ++ "is null" by
      rw [String.append_assoc]; rfl, Token.lex_blank, lex_plain hplain]
    exact ReadsAs.isNull hcolumn
  case present =>
    rw [Stands, show column ++ " is not null" = column ++ " " ++ "is not null" by
      rw [String.append_assoc]; rfl, Token.lex_blank, lex_plain hplain]
    exact ReadsAs.isNotNull hcolumn
  rw [Stands, Token.lex_blank, Token.lex_blank, lex_plain hplain, lex_comparison,
    lex_placeholderAt]
  exact ReadsAs.compare hcolumn comparison (Params.nameAt start)

theorem stands_membershipSql (count start : Nat) :
    Stands (membershipSql column count start) (membershipCondition column count start) := by
  rw [membershipSql_eq]
  unfold membershipCondition
  cases count with
  | zero => exact stands_alwaysFalse
  | succ count =>
    have htokens : ((List.range' start (count + 1)).map Params.placeholderAt).map
          (fun text ↦ Token.lex text.toList) =
        ((List.range' start (count + 1)).map Params.nameAt).map
          fun name ↦ [wordToken (":" ++ name)] := by
      rw [List.map_map, List.map_map]
      exact List.map_congr_left fun n _ ↦ lex_placeholderAt n
    have htext (placeholders : String) : column ++ " in (" ++ placeholders ++ ")" =
        column ++ " " ++ "in" ++ " " ++ ("(" ++ placeholders ++ ")") := by
      simp only [String.append_assoc]
      rfl
    refine ofMembership_rel stands_alwaysFalse ?_
    rw [Stands, htext, Token.lex_blank, Token.lex_blank, lex_plain hplain, lex_parentheses,
      Token.lex_intercalate (show ", ".toList = ',' :: [] ++ [' '] from rfl) rfl, htokens]
    exact ReadsAs.oneOf (Condition.column?_toList hplain hfree) _ _

end Column

/-! ### Texts of filters -/

/-- A group stands for its conditions, connected. -/
theorem forall₂_stands_group? (connective : Connective) {texts : List String} {cs : List Condition}
    (h : List.Forall₂ Stands texts cs) :
    List.Forall₂ Stands (group? (" " ++ connective.word ++ " ") texts).toList
      (joined? connective cs).toList := by
  cases h with
  | nil => exact .nil
  | @cons text c texts cs hfirst hrest =>
    have hseparator : (" " ++ connective.word ++ " ").toList =
        ' ' :: connective.word.toList ++ [' '] := by
      rw [String.toList_append, String.toList_append]
      rfl
    have hword : Token.lex (' ' :: connective.word.toList) = [wordToken connective.word] := by
      cases connective <;> rfl
    have htokens : List.Forall₂ ReadsAs (texts.map fun t ↦ Token.lex t.toList) cs :=
      List.forall₂_map_left_iff.2 hrest
    refine .cons ?_ .nil
    rw [Stands, lex_parentheses, Token.lex_intercalate hseparator rfl, hword]
    exact ReadsAs.group connective hfirst htokens

/-- **The texts of filters stand for their conditions.** -/
theorem forall₂_stands_texts (halias : ∀ qualifier ∈ alias?, Identifier.IsPlain qualifier)
    (start : Nat) (filters : List Filter)
    (hplain : ∀ column ∈ columnsIn filters, Identifier.IsPlain column) :
    List.Forall₂ Stands (texts alias? start filters) (conditions alias? start filters) := by
  induction filters using list_induction generalizing start with
  | nil => exact .nil
  | cons filter rest hfirst hrest =>
    obtain ⟨hcolumn, hcolumns⟩ := List.forall_mem_append.1 hplain
    simp only [columnsIn, texts, conditions, List.append_nil] at hfirst ⊢
    exact List.rel_append (hfirst start hcolumn) (hrest _ hcolumns)
  | all children ih =>
    simp only [columnsIn, columns, List.append_nil] at hplain
    simp only [texts, sql?, conditions, condition?, List.append_nil]
    exact forall₂_stands_group? .and (ih start hplain)
  | any children ih =>
    simp only [columnsIn, columns, List.append_nil] at hplain
    simp only [texts, sql?, conditions, condition?, List.append_nil]
    exact forall₂_stands_group? .or (ih start hplain)
  | compare column comparison literal =>
    have hcolumn := (hplain column List.mem_cons_self).resolve halias
    exact .cons (stands_comparisonSql hcolumn (Identifier.isReserved_resolve alias? column)
      comparison literal start) .nil
  | oneOf column values =>
    have hcolumn := (hplain column List.mem_cons_self).resolve halias
    exact .cons (stands_membershipSql hcolumn (Identifier.isReserved_resolve alias? column)
      values.length start) .nil

/-! ### Meaning of filters -/

variable {collation : Collation} {row : String → Value} {ps : Params}

theorem means_comparisonCondition {column : String} {comparison : Comparison} {literal : Value}
    {start : Nat} (hps : ps.Binds start (if literal.isNull then [] else [literal])) :
    Means collation row ps (comparisonCondition column comparison literal start)
      (literalTruth collation (row column) comparison literal) := by
  unfold comparisonCondition ofComparison
  cases hnull : literal.isNull with
  | true =>
    obtain rfl : literal = .null := by cases literal <;> simp_all [Value.isNull]
    rw [if_pos rfl]
    cases comparison
    case equal => exact ⟨_, rfl, Iff.rfl⟩
    case notEqual => exact ⟨_, rfl, Iff.rfl⟩
    -- the text fails where the comparison of the logic is unknown: neither holds
    all_goals
      refine ⟨.fails, rfl, ⟨fun h ↦ absurd h (by decide), fun h ↦ ?_⟩⟩
      exact absurd h (Collation.truth_null_ne_holds rfl)
  | false =>
    rw [hnull, if_neg Bool.false_ne_true, Params.binds_cons_iff] at hps
    rw [if_neg Bool.false_ne_true, literalTruth_of_isNull_eq_false hnull]
    exact ⟨_, by rw [Condition.truth?, hps.1, Option.map_some], Iff.rfl⟩

/-- The names of bound values, looked up one after the other. -/
theorem mapM_get?_of_binds {start : Nat} {values : List Value} (hps : ps.Binds start values) :
    ((List.range' start values.length).map Params.nameAt).mapM ps.get? = some values := by
  induction values generalizing start with
  | nil => rfl
  | cons value values ih =>
    obtain ⟨hfirst, hrest⟩ := Params.binds_cons_iff.1 hps
    rw [List.length_cons, List.range'_succ, List.map_cons, List.mapM_cons, hfirst, ih hrest]
    rfl

theorem means_membershipCondition {column : String} {values : List Value} {start : Nat}
    (hps : ps.Binds start values) :
    Means collation row ps (membershipCondition column values.length start)
      (collation.memberTruth (row column) values) := by
  unfold membershipCondition ofMembership
  cases values with
  | nil => exact ⟨_, rfl, Iff.rfl⟩
  | cons value values =>
    rw [if_neg (by simp)]
    exact ⟨_, by rw [Condition.truth?, mapM_get?_of_binds hps, Option.map_some], Iff.rfl⟩

/-- A group means what its conditions mean, connected, and is absent if there are none. -/
theorem forall₂_means_joined? (connective : Connective) {cs : List Condition} {ts : List Truth}
    (h : List.Forall₂ (Means collation row ps) cs ts) {present : Bool}
    (hpresent : ts = [] ↔ present = false) :
    List.Forall₂ (Means collation row ps) (joined? connective cs).toList
      (if present then [connective.truth ts] else []) := by
  cases h with
  | nil =>
    rw [hpresent.1 rfl]
    exact .nil
  | cons hfirst hrest =>
    rw [Bool.of_not_eq_false (mt hpresent.2 (List.cons_ne_nil _ _))]
    exact .cons (hfirst.joined connective hrest) .nil

/-- **The conditions of filters mean what the filters mean.** -/
theorem forall₂_means_conditions (start : Nat) (filters : List Filter)
    (hps : ps.Binds start (boundIn filters)) :
    List.Forall₂ (Means collation row ps) (conditions alias? start filters)
      (truths collation row alias? filters) := by
  induction filters using list_induction generalizing start with
  | nil => exact .nil
  | cons filter rest hfirst hrest =>
    rw [boundIn, Params.binds_append_iff] at hps
    simp only [boundIn, conditions, truths, List.append_nil] at hfirst ⊢
    -- the truth of the filter is there exactly if its condition is
    have h := List.rel_append (hfirst start hps.1) (hrest _ hps.2)
    cases hleaf : filter.hasLeaf <;> rwa [hleaf] at h
  | all children ih =>
    simp only [boundIn, bound, List.append_nil] at hps
    simp only [conditions, condition?, truths, hasLeaf, truth, List.append_nil]
    exact forall₂_means_joined? .and (ih start hps) truths_eq_nil_iff
  | any children ih =>
    simp only [boundIn, bound, List.append_nil] at hps
    simp only [conditions, condition?, truths, hasLeaf, truth, List.append_nil]
    exact forall₂_means_joined? .or (ih start hps) truths_eq_nil_iff
  | compare column comparison literal =>
    simp only [boundIn, bound, List.append_nil] at hps
    exact .cons (means_comparisonCondition hps) .nil
  | oneOf column values =>
    simp only [boundIn, bound, List.append_nil] at hps
    exact .cons (means_membershipCondition hps) .nil

/-! ### Compiled filters -/

/-- The text of filters that are not all absent is read as the conjunction of their conditions. -/
theorem read?_intercalate_texts {texts : List String} {c : Condition} {cs : List Condition}
    (h : List.Forall₂ Stands texts (c :: cs)) :
    Condition.read? (" and ".intercalate texts) = some (cs.foldl Condition.and c) := by
  cases h with
  | @cons text _ texts _ hfirst hrest =>
    refine Condition.read?_eq_some ?_ hfirst (List.forall₂_map_left_iff.2 hrest)
    exact Token.lex_intercalate
      (show " and ".toList = ' ' :: ['a', 'n', 'd'] ++ [' '] from rfl) rfl (text :: texts)

/-- **Compiled filters are met by the rows that they describe.** Whatever the database makes of
comparisons, and whatever a row holds: the text has a truth, that is, it can be read and all its
placeholders are bound, and it holds exactly where the conjunction of the filters does. There is no
text exactly if the filters are all absent, and then every row is admitted. -/
theorem textTruth?_compileAll (collation : Collation) (row : String → Value)
    {alias? : Option String} (halias : ∀ qualifier ∈ alias?, Identifier.IsPlain qualifier)
    {filters : List Filter} (hplain : ∀ column ∈ columnsIn filters, Identifier.IsPlain column)
    {ps : Params} (hps : ps.Issued) :
    let compiled := compileAll filters alias? ps
    (compiled.1 = "" ↔ anyLeaf filters = false) ∧
      ∃ t, Condition.textTruth? collation row compiled.2 compiled.1 = some t ∧
        (t = .holds ↔ Truth.all (truths collation row alias? filters) = .holds) := by
  intro compiled
  have hstands := forall₂_stands_texts halias ps.next filters hplain
  have hmeans : List.Forall₂ (Means collation row compiled.2) (conditions alias? ps.next filters)
      (truths collation row alias? filters) :=
    forall₂_means_conditions ps.next filters (hps.binds_bindAll (boundIn filters))
  cases hconditions : conditions alias? ps.next filters with
  | nil =>
    rw [hconditions, List.forall₂_nil_right_iff] at hstands
    rw [hconditions, List.forall₂_nil_left_iff] at hmeans
    have hempty : compiled.1 = "" := by
      show " and ".intercalate (texts alias? ps.next filters) = ""
      rw [hstands, String.intercalate_nil]
    refine ⟨iff_of_true hempty (truths_eq_nil_iff.1 hmeans), .holds, ?_, ?_⟩
    · rw [Condition.textTruth?, if_pos hempty]
    · rw [hmeans]
      exact iff_of_true rfl rfl
  | cons c cs =>
    rw [hconditions] at hstands hmeans
    have hread : Condition.read? compiled.1 = some (cs.foldl Condition.and c) :=
      read?_intercalate_texts hstands
    have hne : compiled.1 ≠ "" := by
      intro hempty
      rw [hempty, Condition.read?_empty] at hread
      cases hread
    cases htruths : truths collation row alias? filters with
    | nil =>
      rw [htruths] at hmeans
      cases hmeans
    | cons t ts =>
      rw [htruths] at hmeans
      obtain ⟨hfirst, hrest⟩ := List.forall₂_cons.1 hmeans
      have hleaf : anyLeaf filters ≠ false := fun h ↦
        absurd (truths_eq_nil_iff.2 h) (htruths ▸ List.cons_ne_nil t ts)
      refine ⟨iff_of_false hne hleaf, ?_⟩
      obtain ⟨s, hs, hholds⟩ := hfirst.joined .and hrest
      refine ⟨s, ?_, hholds⟩
      rw [Condition.textTruth?, if_neg hne, hread, Option.bind_some]
      exact hs

/-- An absent group, a reserved word, a comparison with the absent value and a list with the absent
value in it, compiled after a name has been passed over. -/
theorem textTruth?_compileAll_nested :
    let filters : List Filter :=
      [any [compare "order" .less (.int 5), all [compare "gone" .notEqual .null, any []]], all [],
        oneOf "name" [.text "a", .null], compare "t.x" .greater .null]
    let row (column : String) : Value := if column = "u.name" then .text "a" else .int 3
    let ps := (Params.bind {} (.int 7)).takeName.2
    let compiled := compileAll filters (some "u") ps
    (∀ qualifier ∈ some "u", Identifier.IsPlain qualifier) ∧
      (∀ column ∈ columnsIn filters, Identifier.IsPlain column) ∧ ps.Issued ∧
      compiled.1 =
        "(u.`order` < :p_2 or (u.gone is not null)) and u.name in (:p_3, :p_4) and 1 = 0" ∧
      (compiled.1 = "" ↔ anyLeaf filters = false) ∧
      ∃ t, Condition.textTruth? (fun _ a b ↦ a.equals b) row compiled.2 compiled.1 = some t ∧
        (t = .holds ↔
          Truth.all (truths (fun _ a b ↦ a.equals b) row (some "u") filters) = .holds) := by
  intro filters row ps compiled
  have halias : ∀ qualifier ∈ some "u", Identifier.IsPlain qualifier := by
    simp only [Option.mem_def, Option.some.injEq, forall_eq']
    decide
  have hplain : ∀ column ∈ columnsIn filters, Identifier.IsPlain column := by
    show ∀ column ∈ ["order", "gone", "name", "t.x"], Identifier.IsPlain column
    decide
  have hps : ps.Issued := (Params.Issued.empty.bind _).takeName
  refine ⟨halias, hplain, hps, by decide +kernel, ?_⟩
  exact textTruth?_compileAll _ row halias hplain hps

end Filter

end ParamSql
