import ParamSql.Proofs.Filter.Leaves
import ParamSql.Proofs.Identifier.Resolve
import ParamSql.Proofs.Param.Substituted

/-!
# The placeholders of filters

Compiling filters binds one value for each literal that is bound, and writes one placeholder for
each of these values: read from left to right, the placeholders in the text are the new names, in
the order in which the values were bound, and every parenthesis is closed (`references_compileAll`).
The names go on from wherever the parameters have got to. What the parameters hold already, and
whether their names were issued in order, has no part in that.

The texts of a list of filters are looked at together (`InTurn`), since a filter may have none: what
holds of the texts of the members of a group holds of the one text of the group, and of the texts of
two lists of filters together it holds if it holds of those of the first, and of those of the second
from the next number on. That is all that the induction over the tree needs.

The names of columns must have no marks in them: a colon could begin a placeholder, and a
parenthesis would have to be closed.
-/

namespace ParamSql

/-! ### Parentheses -/

namespace Text

/-- Parentheses are opened before they are closed, and all of them are closed. -/
structure Balanced (cs : List Char) : Prop where
  /-- Nowhere have more been closed than opened. -/
  opened : ∀ before, before <+: cs → before.count ')' ≤ before.count '('
  /-- As many are closed as are opened. -/
  closed : cs.count '(' = cs.count ')'

namespace Balanced

variable {cs cs₁ cs₂ : List Char}

theorem of_not_mem (hopen : '(' ∉ cs) (hclose : ')' ∉ cs) : Balanced cs where
  opened before hbefore := by
    rw [List.count_eq_zero_of_not_mem fun hmem ↦ hclose (hbefore.subset hmem)]
    exact Nat.zero_le _
  closed := by rw [List.count_eq_zero_of_not_mem hopen, List.count_eq_zero_of_not_mem hclose]

theorem append (h₁ : Balanced cs₁) (h₂ : Balanced cs₂) : Balanced (cs₁ ++ cs₂) where
  opened before hbefore := by
    rcases List.prefix_or_prefix_of_prefix hbefore (List.prefix_append cs₁ cs₂) with
      hfirst | ⟨second, rfl⟩
    · exact h₁.opened before hfirst
    · have hsecond := h₂.opened second ((List.prefix_append_right_inj cs₁).1 hbefore)
      have hfirst := h₁.closed
      simp only [List.count_append]
      omega
  closed := by rw [List.count_append, List.count_append, h₁.closed, h₂.closed]

/-- A balanced text between parentheses. -/
theorem parenthesized (h : Balanced cs) : Balanced ('(' :: (cs ++ [')'])) where
  opened before hbefore := by
    rcases List.prefix_cons_iff.1 hbefore with rfl | ⟨inside, rfl, hinside⟩
    · exact Nat.le_refl _
    · have hclosed := h.closed
      rcases List.prefix_concat_iff.1 hinside with rfl | hwithin
      · simp [hclosed]
      · have hopened := h.opened inside hwithin
        simp only [List.count_cons, beq_iff_eq, Char.reduceEq, if_false, if_true]
        omega
  closed := by
    have hclosed := h.closed
    simp [hclosed]

theorem intercalate {separator : List Char} (hseparator : Balanced separator)
    {parts : List (List Char)} (hparts : ∀ cs ∈ parts, Balanced cs) :
    Balanced (separator.intercalate parts) := by
  induction parts with
  | nil => exact .of_not_mem List.not_mem_nil List.not_mem_nil
  | cons cs parts ih =>
    obtain ⟨hfirst, hrest⟩ := List.forall_mem_cons.1 hparts
    cases parts with
    | nil => simpa using hfirst
    | cons second parts =>
      rw [List.intercalate_cons_cons]
      exact (hfirst.append hseparator).append (ih hrest)

end Balanced

/-! ### Texts without marks -/

/-- There is no colon in the text, and no parenthesis. -/
def Markless (text : String) : Prop :=
  ∀ c ∈ text.toList, c ≠ ':' ∧ c ≠ '(' ∧ c ≠ ')'

instance (text : String) : Decidable (Markless text) :=
  -- characters of the text are gone through, and not all characters
  decidable_of_iff (text.toList.all (fun c ↦ c ≠ ':' ∧ c ≠ '(' ∧ c ≠ ')') = true) <| by
    simp only [Markless, List.all_eq_true, decide_eq_true_eq]

namespace Markless

variable {text other : String}

theorem colonless (h : Markless text) : ':' ∉ text.toList :=
  fun hmem ↦ (h ':' hmem).1 rfl

theorem balanced (h : Markless text) : Balanced text.toList :=
  .of_not_mem (fun hmem ↦ (h '(' hmem).2.1 rfl) fun hmem ↦ (h ')' hmem).2.2 rfl

theorem append (h : Markless text) (hother : Markless other) : Markless (text ++ other) := by
  intro c hc
  rw [String.toList_append, List.mem_append] at hc
  exact hc.elim (h c) (hother c)

/-- Columns are resolved with backticks and a dot at most, and these are no marks. -/
theorem resolve {alias? : Option String} (halias : ∀ qualifier ∈ alias?, Markless qualifier)
    {column : String} (h : Markless column) : Markless (Identifier.resolve alias? column) := by
  intro c hc
  rcases Identifier.mem_toList_resolve hc with rfl | rfl | hcolumn | ⟨qualifier, hq, hqualifier⟩
  · decide
  · decide
  · exact h c hcolumn
  · exact halias qualifier hq c hqualifier

end Markless

/-! ### References -/

/-- The names in the placeholders of a text, from left to right. -/
def references (cs : List Char) : List String :=
  (Piece.cut cs).filterMap fun
    | .plain _ => none
    | .placeholder digits => some (String.ofList ('p' :: '_' :: digits))

section References

variable {a b : List Char}

theorem references_nil : references [] = [] := by
  rw [references, Piece.cut_nil, List.filterMap_nil]

/-- There are no references where there is no colon. -/
theorem references_append_of_not_mem (h : ':' ∉ a) (b : List Char) :
    references (a ++ b) = references b := by
  induction a with
  | nil => rfl
  | cons c a ih =>
    obtain ⟨hne, hrest⟩ := not_or.1 (mt List.mem_cons.2 h)
    have hfront := Piece.atFront?_cons_of_ne (Ne.symm hne) (a ++ b)
    rw [List.cons_append, references, Piece.cut_cons_of_atFront?_eq_none hfront]
    exact ih hrest

theorem references_of_not_mem (h : ':' ∉ a) : references a = [] := by
  have hnone := references_append_of_not_mem h []
  rwa [List.append_nil, references_nil] at hnone

/-- References in two parts of a text, if the second one stands apart. -/
theorem references_append (a : List Char) (hb : Piece.Apart b) :
    references (a ++ b) = references a ++ references b := by
  rw [references, Piece.cut_append a hb, List.filterMap_append]
  rfl

theorem references_placeholderAt (n : Nat) :
    references (Params.placeholderAt n).toList = [Params.nameAt n] := by
  have htext := Params.toList_placeholderAt_append n []
  have hend : ∀ d ∈ ([] : List Char).head?, Text.isDecimalDigit d = false := by simp
  have hfront := Piece.atFront?_mark_append Nat.toDigits_ne_nil
    (Params.isDecimalDigit_of_mem_toDigits (n := n)) hend
  rw [← List.append_nil (Params.placeholderAt n).toList, references, htext,
    Piece.cut_of_atFront?_eq_some hfront, Piece.cut_nil, ← Params.ofList_toDigits]
  rfl

/-- A placeholder consists of its mark and of what goes on with it. -/
theorem mem_toList_placeholderAt {n : Nat} {c : Char}
    (h : c ∈ (Params.placeholderAt n).toList) :
    c = ':' ∨ (Symbol.char c).continues = true := by
  have htext := Params.toList_placeholderAt_append n []
  rw [List.append_nil, List.append_nil] at htext
  rw [htext] at h
  rcases List.mem_cons.1 h with rfl | h
  · exact .inl rfl
  rcases List.mem_cons.1 h with rfl | h
  · exact .inr (by decide)
  rcases List.mem_cons.1 h with rfl | h
  · exact .inr (by decide)
  · have hdigit := Params.isDecimalDigit_of_mem_toDigits c h
    exact .inr (by simp [Symbol.continues, hdigit])

/-- What begins with a separator stands apart. -/
theorem apart_separator_append {separator : String} (h : Template.IsSeparator separator)
    (b : List Char) : Piece.Apart (separator.toList ++ b) := by
  intro c hc
  have hbreaks := h.breaks_append (b.map .char)
  rw [Template.ofText, ← List.map_append] at hbreaks
  refine hbreaks (.char c) ?_
  rw [List.head?_map, Option.mem_def.1 hc]
  rfl

/-- References in texts that are put together with a separator. -/
theorem references_intercalate {separator : String} (h : Template.IsSeparator separator)
    (texts : List String) :
    references (separator.intercalate texts).toList = texts.flatMap (references ·.toList) := by
  induction texts with
  | nil =>
    rw [String.intercalate_nil]
    exact references_nil
  | cons text texts ih =>
    cases texts with
    | nil => simp
    | cons second rest =>
      rw [List.flatMap_cons, ← ih, String.intercalate_cons_cons, String.toList_append,
        String.toList_append, List.append_assoc, references_append _ (apart_separator_append h _),
        references_append_of_not_mem h.colonless]

end References

end Text

/-! ### Texts of filters -/

namespace Filter

open Text (Balanced Markless references)

/-- What a leaf binds: the literal that it compares with, unless that is the absent value, or all
literals that it lists. -/
def literals : Filter → List Value
  | compare _ _ literal => if literal.isNull then [] else [literal]
  | oneOf _ literals => literals
  | all _ | any _ => []

/-- **What filters bind** is what their leaves bind, from left to right. -/
theorem boundIn_eq_flatMap_leavesIn (filters : List Filter) :
    boundIn filters = (leavesIn filters).flatMap literals := by
  induction filters using list_induction with
  | nil => rfl
  | cons filter rest hfirst hrest =>
    simp only [boundIn, leavesIn, List.append_nil] at hfirst ⊢
    rw [hfirst, hrest, List.flatMap_append]
  | all children ih | any children ih =>
    simpa only [boundIn, bound, leavesIn, leaves, List.append_nil] using ih
  | compare | oneOf => rfl

/-- Read from left to right, the texts refer to as many names as given, with consecutive numbers;
and in each of them parentheses are balanced. -/
structure InTurn (start count : Nat) (texts : List String) : Prop where
  /-- The names have the numbers from the given one on. -/
  references : texts.flatMap (references ·.toList) = (List.range' start count).map Params.nameAt
  /-- Parentheses are balanced. -/
  balanced : ∀ text ∈ texts, Balanced text.toList

namespace InTurn

variable {start m n : Nat} {text other : String} {texts others : List String}

theorem nil : InTurn start 0 [] :=
  ⟨rfl, List.forall_mem_nil _⟩

/-- Further texts go on with the next number. -/
theorem append (h₁ : InTurn start m texts) (h₂ : InTurn (start + m) n others) :
    InTurn start (m + n) (texts ++ others) where
  references := by
    rw [List.flatMap_append, h₁.references, h₂.references, ← List.map_append,
      List.range'_append_1]
  balanced := List.forall_mem_append.2 ⟨h₁.balanced, h₂.balanced⟩

theorem of_markless (h : Markless text) : InTurn start 0 [text] where
  references := by
    rw [List.flatMap_singleton, Text.references_of_not_mem h.colonless]
    rfl
  balanced := List.forall_mem_singleton.2 h.balanced

/-- A text without marks in front of another one. -/
theorem prepend (h : Markless text) (hother : InTurn start n [other]) :
    InTurn start n [text ++ other] where
  references := by
    have hreferences := hother.references
    rw [List.flatMap_singleton] at hreferences ⊢
    rw [String.toList_append, Text.references_append_of_not_mem h.colonless, hreferences]
  balanced := by
    rw [List.forall_mem_singleton, String.toList_append]
    exact h.balanced.append (hother.balanced other List.mem_cons_self)

/-- Texts that are put together. -/
theorem joined {separator : String} (hseparator : Template.IsSeparator separator)
    (hmarkless : Markless separator) (h : InTurn start n texts) :
    InTurn start n [separator.intercalate texts] where
  references := by
    rw [List.flatMap_singleton, Text.references_intercalate hseparator, h.references]
  balanced := by
    rw [List.forall_mem_singleton, String.toList_intercalate]
    exact hmarkless.balanced.intercalate (List.forall_mem_map.2 h.balanced)

/-- A text between parentheses. -/
theorem parenthesized (h : InTurn start n [text]) : InTurn start n ["(" ++ text ++ ")"] := by
  have hopen : "(".toList = ['('] := by decide
  have hclose : ")".toList = [')'] := by decide
  constructor
  · have hreferences := h.references
    have hapart := Text.apart_separator_append (show Template.IsSeparator ")" by decide) []
    rw [List.append_nil] at hapart
    rw [List.flatMap_singleton] at hreferences ⊢
    rw [String.toList_append, String.toList_append, Text.references_append _ hapart,
      Text.references_append_of_not_mem (by decide), hreferences,
      Text.references_of_not_mem (by decide), List.append_nil]
  · rw [List.forall_mem_singleton, String.toList_append, String.toList_append, hopen, hclose]
    exact (h.balanced text List.mem_cons_self).parenthesized

/-- The members of a group and the text of the group. -/
theorem group? {separator : String} (hseparator : Template.IsSeparator separator)
    (hmarkless : Markless separator) (h : InTurn start n texts) :
    InTurn start n (group? separator texts).toList := by
  cases texts with
  | nil => exact h
  | cons text texts => exact (h.joined hseparator hmarkless).parenthesized

/-- Consecutive placeholders. -/
theorem placeholders (start n : Nat) :
    InTurn start n ((List.range' start n).map Params.placeholderAt) where
  references := by
    rw [List.flatMap_map, List.map_eq_flatMap]
    exact List.flatMap_congr fun k _ ↦ Text.references_placeholderAt k
  balanced := by
    refine List.forall_mem_map.2 fun k _ ↦ .of_not_mem (fun hopen ↦ ?_) fun hclose ↦ ?_
    · exact absurd (Text.mem_toList_placeholderAt hopen) (by decide)
    · exact absurd (Text.mem_toList_placeholderAt hclose) (by decide)

end InTurn

section Leaves

variable {column : String} (hcolumn : Markless column)
include hcolumn

theorem inTurn_comparisonSql (comparison : Comparison) (literal : Value) (start : Nat) :
    InTurn start (compare column comparison literal).bound.length
      [comparisonSql column comparison literal start] := by
  have halways : Markless alwaysFalse := by decide
  unfold comparisonSql bound
  cases literal.isNull with
  | true =>
    cases comparison
    case equal => exact .of_markless (hcolumn.append (by decide))
    case notEqual => exact .of_markless (hcolumn.append (by decide))
    all_goals exact .of_markless halways
  | false =>
    have hoperator : Markless comparison.sql := by cases comparison <;> decide
    have hfront : Markless (column ++ " " ++ comparison.sql ++ " ") :=
      ((hcolumn.append (by decide)).append hoperator).append (by decide)
    exact .prepend hfront (.placeholders start 1)

theorem inTurn_membershipSql (count start : Nat) :
    InTurn start count [membershipSql column count start] := by
  rw [membershipSql]
  split
  · rename_i hcount
    rw [hcount]
    exact .of_markless (by decide)
  · have hfront : Markless (column ++ " in ") := hcolumn.append (by decide)
    have hlist : column ++ " in (" ++
        ", ".intercalate ((List.range' start count).map Params.placeholderAt) ++ ")" =
        column ++ " in " ++ ("(" ++
          ", ".intercalate ((List.range' start count).map Params.placeholderAt) ++ ")") := by
      rw [show " in (" = " in " ++ "(" by decide]
      simp only [String.append_assoc]
    rw [hlist]
    exact .prepend hfront (((InTurn.placeholders start count).joined (by decide)
      (by decide)).parenthesized)

end Leaves

/-- **The texts of filters refer to the names that the filters take**, one after the other. -/
theorem inTurn_texts {alias? : Option String} (halias : ∀ qualifier ∈ alias?, Markless qualifier)
    (start : Nat) (filters : List Filter)
    (hcolumns : ∀ column ∈ columnsIn filters, Markless column) :
    InTurn start (boundIn filters).length (texts alias? start filters) := by
  induction filters using list_induction generalizing start with
  | nil => exact .nil
  | cons filter rest hfirst hrest =>
    obtain ⟨hcolumn, hcolumns⟩ := List.forall_mem_append.1 hcolumns
    simp only [columnsIn, boundIn, texts, List.append_nil, List.length_append] at hfirst ⊢
    exact (hfirst start hcolumn).append (hrest _ hcolumns)
  | all children ih | any children ih =>
    simp only [columnsIn, columns, List.append_nil] at hcolumns
    simp only [boundIn, bound, texts, sql?, List.append_nil]
    exact (ih start hcolumns).group? (by decide) (by decide)
  | compare column comparison literal =>
    have hcolumn := (hcolumns column List.mem_cons_self).resolve halias
    rw [boundIn, boundIn, List.append_nil]
    exact inTurn_comparisonSql hcolumn comparison literal start
  | oneOf column literals =>
    have hcolumn := (hcolumns column List.mem_cons_self).resolve halias
    rw [boundIn, boundIn, List.append_nil]
    exact inTurn_membershipSql hcolumn literals.length start

/-! ### Compiled filters -/

/-- **Every literal that is bound has one placeholder, in its turn.** Whatever the parameters hold,
compiling filters appends one binding for each literal of their leaves, from left to right, under
the next names. The text refers to these names, each once and in the same order, and its parentheses
are balanced. -/
theorem references_compileAll {filters : List Filter} {alias? : Option String}
    (halias : ∀ qualifier ∈ alias?, Markless qualifier)
    (hcolumns : ∀ column ∈ columnsIn filters, Markless column) (ps : Params) :
    let values := (leavesIn filters).flatMap literals
    let names := (List.range' ps.next values.length).map Params.nameAt
    let (text, bound) := compileAll filters alias? ps
    bound.entries = ps.entries ++ List.zipWith Parameter.mk names values ∧
      bound.next = ps.next + values.length ∧
      references text.toList = names ∧ names.Nodup ∧ Balanced text.toList := by
  intro values names
  have hvalues : boundIn filters = values := boundIn_eq_flatMap_leavesIn filters
  have hseparator : Template.IsSeparator " and " := by decide
  have hturn := (inTurn_texts halias ps.next filters hcolumns).joined hseparator (by decide)
  rw [hvalues] at hturn
  have hreferences := hturn.references
  rw [List.flatMap_singleton] at hreferences
  rw [compileAll, hvalues]
  exact ⟨Params.bindAll_entries ps values, Params.bindAll_next ps values, hreferences,
    List.Nodup.map (fun m n hname ↦ Params.nameAt_inj.1 hname) List.nodup_range',
    hturn.balanced _ List.mem_cons_self⟩

/-- A group in a group, an empty one, a null that is compared with and one that is listed, and an
empty list, behind a binding under a name that comes up again. -/
theorem references_compileAll_nested :
    let ps : Params := (({} : Params).takeName.2).register "p_2" (.int 9)
    let filters := [any [compare "a" .equal .null, all [], compare "order" .less (.int 1)],
      oneOf "u.b" [.null, .int 2], oneOf "c" [], compare "d" .notLike (.text "(")]
    (∀ qualifier ∈ some "u", Markless qualifier) ∧ (∀ column ∈ columnsIn filters, Markless column) ∧
      references (compileAll filters (some "u") ps).1.toList = ["p_1", "p_2", "p_3", "p_4"] ∧
      Balanced (compileAll filters (some "u") ps).1.toList := by
  intro ps filters
  have halias : ∀ qualifier ∈ some "u", Markless qualifier := by decide
  have hcolumns : ∀ column ∈ columnsIn filters, Markless column := by decide
  obtain ⟨-, -, hreferences, -, hbalanced⟩ := references_compileAll halias hcolumns ps
  exact ⟨halias, hcolumns, hreferences.trans (by decide), hbalanced⟩

end Filter

end ParamSql
