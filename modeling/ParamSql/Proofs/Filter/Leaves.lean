import ParamSql.Filter.Sql
import ParamSql.Proofs.Filter.Meaning

/-!
# No condition is lost

The text of filters that must all hold is made of the texts of those among them that have one, and
these are the filters with a comparison or a membership anywhere below them: compiling all filters
is compiling these one after the other and connecting what comes out (`compileAll_eq`). There is no
text exactly if there are none (`compileAll_eq_empty_iff`), since no condition has an empty text.

Below the filters themselves the same is said of their leaves: the text consists of the texts of all
leaves from left to right, and of nothing else but parentheses and connectives
(`framed_compileAll`).
-/

namespace ParamSql.Filter

/-! ### Texts that are put together -/

/-- What is put around and between conditions. -/
def marks : List String :=
  ["(", ")", " and ", " or "]

/-- A text that consists of pieces, in order, with nothing around and between them but parentheses
and connectives. -/
inductive Framed : List String → String → Prop
  /-- There is no piece, and no text. -/
  | nil : Framed [] ""
  /-- A piece comes first. -/
  | piece (piece : String) {pieces : List String} {text : String} :
      Framed pieces text → Framed (piece :: pieces) (piece ++ text)
  /-- A parenthesis or a connective comes first. -/
  | mark {mark : String} {pieces : List String} {text : String} :
      mark ∈ marks → Framed pieces text → Framed pieces (mark ++ text)

namespace Framed

variable {pieces pieces₁ pieces₂ : List String} {text text₁ text₂ : String}

theorem append (h₁ : Framed pieces₁ text₁) (h₂ : Framed pieces₂ text₂) :
    Framed (pieces₁ ++ pieces₂) (text₁ ++ text₂) := by
  induction h₁ with
  | nil => rwa [List.nil_append, String.empty_append]
  | piece piece _ ih =>
    rw [List.cons_append, String.append_assoc]
    exact ih.piece piece
  | mark hmark _ ih =>
    rw [String.append_assoc]
    exact ih.mark hmark

theorem singleton (text : String) : Framed [text] text := by
  have hpiece := Framed.nil.piece text
  rwa [String.append_empty] at hpiece

theorem intercalate {separator : String} (hseparator : separator ∈ marks)
    {parts : List (List String)} {texts : List String} (h : List.Forall₂ Framed parts texts) :
    Framed parts.flatten (separator.intercalate texts) := by
  induction h with
  | nil => exact .nil
  | @cons pieces text parts texts hfirst hrest ih =>
    cases hrest with
    | nil => simpa using hfirst
    | cons hsecond hrest =>
      rw [String.intercalate_cons_cons, String.append_assoc]
      exact hfirst.append (ih.mark hseparator)

/-- A text between parentheses. -/
theorem parenthesized (h : Framed pieces text) : Framed pieces ("(" ++ text ++ ")") := by
  have hclosed := h.append (Framed.nil.mark (show ")" ∈ marks by decide))
  rw [List.append_nil, String.append_empty] at hclosed
  rw [String.append_assoc]
  exact hclosed.mark (by decide)

end Framed

/-- Texts that consist of pieces together, each of them of the ones that are next. -/
def FramedEach (pieces texts : List String) : Prop :=
  ∃ parts, parts.flatten = pieces ∧ List.Forall₂ Framed parts texts

namespace FramedEach

variable {pieces pieces₁ pieces₂ texts texts₁ texts₂ : List String}

theorem nil : FramedEach [] [] :=
  ⟨[], rfl, .nil⟩

theorem singleton (text : String) : FramedEach [text] [text] :=
  ⟨[[text]], rfl, .cons (.singleton text) .nil⟩

theorem append (h₁ : FramedEach pieces₁ texts₁) (h₂ : FramedEach pieces₂ texts₂) :
    FramedEach (pieces₁ ++ pieces₂) (texts₁ ++ texts₂) := by
  obtain ⟨parts₁, rfl, hframed₁⟩ := h₁
  obtain ⟨parts₂, rfl, hframed₂⟩ := h₂
  exact ⟨parts₁ ++ parts₂, List.flatten_append, List.rel_append hframed₁ hframed₂⟩

variable {separator : String} (hseparator : separator ∈ marks)
include hseparator

theorem intercalate (h : FramedEach pieces texts) :
    Framed pieces (separator.intercalate texts) := by
  obtain ⟨parts, rfl, hframed⟩ := h
  exact .intercalate hseparator hframed

/-- A group consists of what its members consist of. -/
theorem group? (h : FramedEach pieces texts) :
    FramedEach pieces (group? separator texts).toList := by
  cases texts with
  | nil => exact h
  | cons text texts =>
    exact ⟨[pieces], by simp, .cons (h.intercalate hseparator).parenthesized .nil⟩

end FramedEach

/-! ### Filters without a condition -/

theorem anyLeaf_eq_false_iff {filters : List Filter} :
    anyLeaf filters = false ↔ ∀ filter ∈ filters, filter.hasLeaf = false := by
  induction filters with
  | nil => exact iff_of_true rfl (List.forall_mem_nil _)
  | cons filter rest ih => rw [anyLeaf, Bool.or_eq_false_iff, ih, List.forall_mem_cons]

/-- Filters without any leaf bind nothing. -/
theorem boundIn_eq_nil_of_anyLeaf_eq_false {filters : List Filter} (h : anyLeaf filters = false) :
    boundIn filters = [] := by
  induction filters using list_induction with
  | nil => rfl
  | cons filter rest hfirst hrest =>
    obtain ⟨hleaf, hleaves⟩ := Bool.or_eq_false_iff.1 h
    simp only [anyLeaf, boundIn, Bool.or_false, List.append_nil] at hfirst
    rw [boundIn, hfirst hleaf, hrest hleaves, List.append_nil]
  | all children ih | any children ih =>
    simp only [anyLeaf, hasLeaf, Bool.or_false] at h
    simpa only [boundIn, bound, List.append_nil] using ih h
  | compare | oneOf => cases h

/-- A filter without a leaf binds nothing. -/
theorem bound_eq_nil_of_hasLeaf_eq_false {filter : Filter} (h : filter.hasLeaf = false) :
    filter.bound = [] := by
  have hbound : boundIn [filter] = [] :=
    boundIn_eq_nil_of_anyLeaf_eq_false (by rw [anyLeaf, h]; rfl)
  rwa [boundIn, boundIn, List.append_nil] at hbound

/-- A group has a text if there is anything in it. -/
theorem isEmpty_toList_group? (separator : String) (texts : List String) :
    (group? separator texts).toList.isEmpty = texts.isEmpty := by
  cases texts <;> rfl

section Texts

variable (alias? : Option String)

/-- Filters have texts exactly if there is a leaf in one of them. -/
theorem isEmpty_texts (start : Nat) (filters : List Filter) :
    (texts alias? start filters).isEmpty = !anyLeaf filters := by
  induction filters using list_induction generalizing start with
  | nil => rfl
  | cons filter rest hfirst hrest =>
    simp only [texts, anyLeaf, Bool.or_false, List.append_nil] at hfirst ⊢
    rw [Bool.not_or, ← hfirst start, ← hrest]
    cases sql? alias? start filter <;> rfl
  | all children ih | any children ih =>
    simp only [texts, sql?, anyLeaf, hasLeaf, Bool.or_false, List.append_nil]
    rw [isEmpty_toList_group?, ih]
  | compare | oneOf => rfl

/-- A filter has a text exactly if it has a leaf. -/
theorem isSome_sql? (start : Nat) (filter : Filter) :
    (sql? alias? start filter).isSome = filter.hasLeaf := by
  have hempty := isEmpty_texts alias? start [filter]
  simp only [texts, anyLeaf, Bool.or_false, List.append_nil] at hempty
  rw [← Bool.not_inj_iff, ← hempty]
  cases sql? alias? start filter <;> rfl

/-- No filter has an empty text. -/
theorem ne_empty_of_mem_sql? {start : Nat} {filter : Filter} {text : String}
    (h : text ∈ sql? alias? start filter) : text ≠ "" := by
  have hgroup {separator : String} {parts : List String} (h : text ∈ group? separator parts) :
      text ≠ "" := by
    rw [group?] at h
    split at h
    · cases h
    · obtain rfl := Option.some.inj h
      simp [String.append_eq_empty_iff]
  cases filter with
  | all children => exact hgroup h
  | any children => exact hgroup h
  | compare column comparison literal =>
    obtain rfl := Option.some.inj h
    unfold comparisonSql
    cases literal.isNull with
    | true => cases comparison <;> simp [String.append_eq_empty_iff, alwaysFalse]
    | false => simp [String.append_eq_empty_iff]
  | oneOf column literals =>
    obtain rfl := Option.some.inj h
    rw [membershipSql]
    split <;> simp [String.append_eq_empty_iff, alwaysFalse]

theorem ne_empty_of_mem_texts {start : Nat} {filters : List Filter} {text : String}
    (h : text ∈ texts alias? start filters) : text ≠ "" := by
  induction filters generalizing start with
  | nil => exact absurd h List.not_mem_nil
  | cons filter rest ih =>
    rw [texts, List.mem_append] at h
    rcases h with hfirst | hrest
    · exact ne_empty_of_mem_sql? alias? (Option.mem_toList.1 hfirst)
    · exact ih hrest

/-! ### One filter after the other -/

/-- Several filters, each of them compiled on its own, one after the other: their texts, and the
parameters in the end. -/
def compileEach : List Filter → Params → List String × Params
  | [], ps => ([], ps)
  | filter :: rest, ps =>
    let (text, ps) := filter.compile alias? ps
    let (texts, ps) := compileEach rest ps
    (text :: texts, ps)

/-- Filters that all have a leaf are compiled as they are written. -/
theorem compileEach_eq {filters : List Filter} (h : ∀ filter ∈ filters, filter.hasLeaf = true)
    (ps : Params) :
    compileEach alias? filters ps =
      (texts alias? ps.next filters, ps.bindAll (boundIn filters)) := by
  induction filters generalizing ps with
  | nil => rfl
  | cons filter rest ih =>
    obtain ⟨hfirst, hrest⟩ := List.forall_mem_cons.1 h
    rw [← isSome_sql? alias? ps.next, Option.isSome_iff_exists] at hfirst
    obtain ⟨text, htext⟩ := hfirst
    simp only [compileEach, compile, ih hrest, texts, boundIn, htext, Option.getD_some,
      Option.toList_some, List.singleton_append, Params.bindAll_next, Params.bindAll_append]

/-- Filters without a leaf have no part in what is written and bound. -/
theorem texts_filter_hasLeaf (start : Nat) (filters : List Filter) :
    texts alias? start (filters.filter hasLeaf) = texts alias? start filters ∧
      boundIn (filters.filter hasLeaf) = boundIn filters := by
  induction filters generalizing start with
  | nil => exact ⟨rfl, rfl⟩
  | cons filter rest ih =>
    obtain ⟨htexts, hbound⟩ := ih (start + filter.bound.length)
    cases hleaf : filter.hasLeaf with
    | true =>
      rw [List.filter_cons_of_pos hleaf, texts, texts, boundIn, boundIn, htexts, hbound]
      exact ⟨rfl, rfl⟩
    | false =>
      have hnone : sql? alias? start filter = none := by
        rw [← Option.not_isSome_iff_eq_none, isSome_sql?, hleaf]
        exact Bool.false_ne_true
      have hnothing := bound_eq_nil_of_hasLeaf_eq_false hleaf
      rw [hnothing] at htexts
      rw [List.filter_cons_of_neg (by rw [hleaf]; exact Bool.false_ne_true), texts, boundIn, hnone,
        hnothing]
      exact ⟨htexts, hbound⟩

/-- **Filters that must all hold** are compiled by compiling those among them that have a leaf, one
after the other, and connecting their texts. -/
theorem compileAll_eq (filters : List Filter) (ps : Params) :
    compileAll filters alias? ps =
      (" and ".intercalate (compileEach alias? (filters.filter hasLeaf) ps).1,
        (compileEach alias? (filters.filter hasLeaf) ps).2) := by
  obtain ⟨htexts, hbound⟩ := texts_filter_hasLeaf alias? ps.next filters
  rw [compileEach_eq alias? (fun filter h ↦ (List.mem_filter.1 h).2), htexts, hbound, compileAll]

/-- **There is no text exactly if there is no leaf.** -/
theorem compileAll_eq_empty_iff (filters : List Filter) (ps : Params) :
    (compileAll filters alias? ps).1 = "" ↔ anyLeaf filters = false := by
  have hempty := isEmpty_texts alias? ps.next filters
  rw [compileAll, ← Bool.not_eq_true', ← hempty]
  cases htexts : texts alias? ps.next filters with
  | nil =>
    rw [String.intercalate_nil]
    exact iff_of_true rfl rfl
  | cons text rest =>
    have hmem : text ∈ texts alias? ps.next filters := htexts ▸ List.mem_cons_self
    have hne := ne_empty_of_mem_texts alias? hmem
    refine iff_of_false ?_ Bool.false_ne_true
    cases rest with
    | nil => simpa using hne
    | cons second rest => simp [String.intercalate_cons_cons, String.append_eq_empty_iff, hne]

end Texts

/-! ### Leaves -/

mutual

/-- The comparisons and memberships in a filter, from left to right. -/
def leaves : Filter → List Filter
  | all children => leavesIn children
  | any children => leavesIn children
  | compare column comparison literal => [compare column comparison literal]
  | oneOf column literals => [oneOf column literals]

/-- The comparisons and memberships in several filters. -/
def leavesIn : List Filter → List Filter
  | [] => []
  | filter :: rest => filter.leaves ++ leavesIn rest

end

theorem boundIn_append (first second : List Filter) :
    boundIn (first ++ second) = boundIn first ++ boundIn second := by
  induction first with
  | nil => rfl
  | cons filter first ih => rw [List.cons_append, boundIn, boundIn, ih, List.append_assoc]

theorem texts_append (alias? : Option String) (start : Nat) (first second : List Filter) :
    texts alias? start (first ++ second) =
      texts alias? start first ++ texts alias? (start + (boundIn first).length) second := by
  induction first generalizing start with
  | nil => rfl
  | cons filter first ih =>
    rw [List.cons_append, texts, texts, ih, boundIn, List.length_append, List.append_assoc,
      Nat.add_assoc]

/-- What filters bind is what their leaves bind. -/
theorem boundIn_leavesIn (filters : List Filter) :
    boundIn (leavesIn filters) = boundIn filters := by
  induction filters using list_induction with
  | nil => rfl
  | cons filter rest hfirst hrest =>
    simp only [leavesIn, boundIn, List.append_nil] at hfirst ⊢
    rw [boundIn_append, hfirst, hrest]
  | all children ih | any children ih =>
    simpa only [leavesIn, leaves, boundIn, bound, List.append_nil] using ih
  | compare | oneOf => rfl

theorem hasLeaf_of_mem_leavesIn {filters : List Filter} :
    ∀ leaf ∈ leavesIn filters, leaf.hasLeaf = true := by
  induction filters using list_induction with
  | nil => exact List.forall_mem_nil _
  | cons filter rest hfirst hrest =>
    simp only [leavesIn, List.append_nil] at hfirst
    exact List.forall_mem_append.2 ⟨hfirst, hrest⟩
  | all children ih | any children ih => simpa only [leavesIn, leaves, List.append_nil] using ih
  | compare | oneOf => exact List.forall_mem_singleton.2 rfl

section Texts

variable (alias? : Option String)

/-- **The texts of filters consist of the texts of their leaves**, in order. -/
theorem framedEach_texts (start : Nat) (filters : List Filter) :
    FramedEach (texts alias? start (leavesIn filters)) (texts alias? start filters) := by
  induction filters using list_induction generalizing start with
  | nil => exact .nil
  | cons filter rest hfirst hrest =>
    have hbound := boundIn_leavesIn [filter]
    simp only [leavesIn, texts, boundIn, List.append_nil] at hfirst hbound ⊢
    rw [texts_append, hbound]
    exact (hfirst start).append (hrest _)
  | all children ih | any children ih =>
    simp only [leavesIn, leaves, texts, sql?, List.append_nil]
    exact (ih start).group? (by decide)
  | compare | oneOf => exact .singleton _

/-- **No leaf is lost**: compiled filters consist of their leaves, compiled one after the other, and
of parentheses and connectives; and they bind what these bind. -/
theorem framed_compileAll (filters : List Filter) (ps : Params) :
    Framed (compileEach alias? (leavesIn filters) ps).1 (compileAll filters alias? ps).1 ∧
      (compileEach alias? (leavesIn filters) ps).2 = (compileAll filters alias? ps).2 := by
  rw [compileEach_eq alias? hasLeaf_of_mem_leavesIn, boundIn_leavesIn]
  exact ⟨(framedEach_texts alias? ps.next filters).intercalate (by decide), rfl⟩

end Texts

end ParamSql.Filter
