import ParamSql.Statement.Assemble
import Mathlib.Data.List.Dedup
import Mathlib.Data.List.Forall2
import Mathlib.Data.List.Induction

/-!
# What is assigned in the end

A history lists what was assigned to which column, oldest first. What it comes to is stated without
any reference to how lists of assignments are kept: each column is there once, at the place where it
was first assigned to, with what was assigned to it last (`settled`).

Making the assignments of a history one after the other comes to just that (`append_settled`), and
merging lists comes to settling their concatenation (`merged_eq_settled`). A list that has been
settled stands for its history in any longer one (`settled_append_settled`,
`settled_settled_append`).
-/

namespace ParamSql

/-- What was assigned to which column, oldest first. -/
abbrev History (α : Type) :=
  List (String × α)

namespace History

variable {α β : Type}

/-- The columns of a history, in the order in which they were first assigned to. -/
def columns (history : History α) : List String :=
  (history.map Prod.fst).reverse.dedup.reverse

/-- What was assigned to a column last. -/
def last? (history : History α) (column : String) : Option α :=
  history.reverse.lookup column

/-- What a history comes to: each column once, with what was assigned to it last. -/
def settled (history : History α) : History α :=
  history.columns.filterMap fun column ↦ (history.last? column).map (column, ·)

/-! ### Columns -/

theorem mem_columns_iff {history : History α} {column : String} :
    column ∈ history.columns ↔ column ∈ history.map Prod.fst := by
  rw [columns, List.mem_reverse, List.mem_dedup, List.mem_reverse]

theorem nodup_columns (history : History α) : history.columns.Nodup :=
  List.nodup_reverse.2 (List.nodup_dedup _)

/-- A new column comes last, and an old one keeps its place. -/
theorem columns_append_singleton (history : History α) (column : String) (a : α) :
    columns (history ++ [(column, a)]) =
      if column ∈ history.columns then history.columns else history.columns ++ [column] := by
  rw [columns, List.map_append, List.reverse_append]
  show (column :: (history.map Prod.fst).reverse).dedup.reverse = _
  split
  · rename_i hmem
    rw [mem_columns_iff, ← List.mem_reverse] at hmem
    rw [List.dedup_cons_of_mem hmem, columns]
  · rename_i hnew
    rw [mem_columns_iff, ← List.mem_reverse] at hnew
    rw [List.dedup_cons_of_notMem hnew, List.reverse_cons, columns]

/-- The columns of two histories: those of the first one, and then the new ones of the second. -/
theorem columns_append (first second : History α) :
    columns (first ++ second) =
      first.columns ++ second.columns.filter (· ∉ first.columns) := by
  induction second using List.reverseRecOn with
  | nil => simp [columns]
  | append_singleton second entry ih =>
    obtain ⟨column, a⟩ := entry
    rw [← List.append_assoc, columns_append_singleton, columns_append_singleton, ih]
    by_cases hfirst : column ∈ first.columns <;> by_cases hsecond : column ∈ columns second <;>
      simp [hfirst, hsecond]

/-- Columns depend on columns only. -/
theorem columns_eq_of_map_fst_eq {history : History α} {other : History β}
    (h : history.map Prod.fst = other.map Prod.fst) : history.columns = other.columns := by
  rw [columns, columns, h]

/-! ### What was assigned last -/

theorem last?_append (first second : History α) (column : String) :
    last? (first ++ second) column = (second.last? column).or (first.last? column) := by
  rw [last?, List.reverse_append, List.lookup_append, last?, last?]

theorem last?_append_singleton (history : History α) (column other : String) (a : α) :
    last? (history ++ [(column, a)]) other =
      if other = column then some a else history.last? other := by
  rw [last?_append, last?]
  by_cases h : other = column
  · subst h
    simp
  · have hne : (other == column) = false := beq_eq_false_iff_ne.2 h
    simp [List.lookup_cons, h, hne]

/-- Something was assigned to every column of a history. -/
theorem isSome_last?_iff {history : History α} {column : String} :
    (history.last? column).isSome ↔ column ∈ history.columns := by
  rw [last?, List.lookup_isSome_iff, mem_columns_iff, List.mem_map]
  constructor
  · rintro ⟨entry, hmem, hkey⟩
    exact ⟨entry, List.mem_reverse.1 hmem, (beq_iff_eq.1 hkey).symm⟩
  · rintro ⟨entry, hmem, rfl⟩
    exact ⟨entry, List.mem_reverse.2 hmem, BEq.refl _⟩

/-! ### Settled histories -/

/-- **What a settled history says**: of every column what was assigned to it last. -/
theorem mem_settled_iff {history : History α} {column : String} {a : α} :
    (column, a) ∈ history.settled ↔ history.last? column = some a := by
  rw [settled, List.mem_filterMap]
  constructor
  · rintro ⟨other, -, hentry⟩
    obtain ⟨b, hb, heq⟩ := Option.map_eq_some_iff.1 hentry
    obtain ⟨rfl, rfl⟩ := Prod.mk.inj heq
    exact hb
  · intro hlast
    exact ⟨column, isSome_last?_iff.1 (Option.isSome_of_eq_some hlast), by rw [hlast]; rfl⟩

/-- Nothing is in a settled history that has not been assigned. -/
theorem mem_of_mem_settled {history : History α} {entry : String × α}
    (h : entry ∈ history.settled) : entry ∈ history := by
  obtain ⟨before, behind, heq, -⟩ := List.lookup_eq_some_iff.1 (mem_settled_iff.1 h)
  rw [← List.mem_reverse, heq]
  exact List.mem_append_right _ List.mem_cons_self

theorem map_fst_settled (history : History α) : history.settled.map Prod.fst = history.columns := by
  have hkeep : ∀ column ∈ history.columns,
      ((history.last? column).map (column, ·)).map Prod.fst = some column := by
    intro column hmem
    obtain ⟨a, ha⟩ := Option.isSome_iff_exists.1 (isSome_last?_iff.2 hmem)
    rw [ha]
    rfl
  rw [settled, List.map_filterMap, List.filterMap_congr hkeep, List.filterMap_some]

theorem settled_eq_nil_iff {history : History α} : history.settled = [] ↔ history = [] := by
  constructor
  · intro h
    cases history with
    | nil => rfl
    | cons entry rest =>
      have hmem : entry.1 ∈ columns (entry :: rest) := mem_columns_iff.2 List.mem_cons_self
      rw [← map_fst_settled, h] at hmem
      exact absurd hmem List.not_mem_nil
  · rintro rfl
    rfl

/-- Repetitions may be removed from the first of two lists before they are removed from both. -/
theorem dedup_dedup_append (first second : List String) :
    (first.dedup ++ second).dedup = (first ++ second).dedup := by
  rw [List.dedup_append, List.dedup_append]
  induction first with
  | nil => rfl
  | cons column first ih =>
    by_cases hmem : column ∈ first
    · have hunion : column ∈ first ∪ second.dedup := List.mem_union_iff.2 (.inl hmem)
      rw [List.dedup_cons_of_mem hmem, ih, List.cons_union, List.insert_of_mem hunion]
    · rw [List.dedup_cons_of_notMem hmem, List.cons_union, List.cons_union, ih]

theorem columns_append_settled (first second : History α) :
    columns (first ++ second.settled) = columns (first ++ second) := by
  rw [columns, columns, List.map_append, List.map_append, map_fst_settled, List.reverse_append,
    List.reverse_append, columns, List.reverse_reverse, dedup_dedup_append]

/-- In a list of columns with something each, a column is looked up by looking for it. -/
theorem lookup_filterMap (f : String → Option α) (columns : List String) (column : String) :
    (columns.filterMap fun c ↦ (f c).map (c, ·)).lookup column =
      if column ∈ columns then f column else none := by
  induction columns with
  | nil => rfl
  | cons c columns ih =>
    rw [List.filterMap_cons]
    by_cases hc : column = c
    · subst hc
      cases hf : f column with
      | none => simp [ih, hf]
      | some a => simp
    · have hne : (column == c) = false := beq_eq_false_iff_ne.2 hc
      cases hf : f c with
      | none => simp [ih, hc]
      | some a => simp [List.lookup_cons, ih, hc, hne]

theorem ite_mem_columns (history : History α) (column : String) :
    (if column ∈ history.columns then history.last? column else none) = history.last? column := by
  split
  · rfl
  · rename_i hnew
    rw [← isSome_last?_iff, Option.not_isSome_iff_eq_none] at hnew
    exact hnew.symm

/-- Looking a column up in a settled history finds what was assigned to it last. -/
theorem lookup_settled (history : History α) (column : String) :
    history.settled.lookup column = history.last? column := by
  rw [settled, lookup_filterMap, ite_mem_columns]

theorem last?_settled (history : History α) : history.settled.last? = history.last? := by
  funext column
  rw [last?, settled, ← List.filterMap_reverse, lookup_filterMap]
  simp only [List.mem_reverse, ite_mem_columns]

/-- A settled history stands for the history wherever it goes on from another one. -/
theorem settled_append_settled (first second : History α) :
    settled (first ++ second.settled) = settled (first ++ second) := by
  have hlast : last? (first ++ second.settled) = last? (first ++ second) := by
    funext column
    rw [last?_append, last?_append, last?_settled]
  rw [settled, columns_append_settled, hlast]
  rfl

/-- It does so wherever another one goes on from it. -/
theorem settled_settled_append (first second : History α) :
    settled (first.settled ++ second) = settled (first ++ second) := by
  have hcolumns : columns (first.settled ++ second) = columns (first ++ second) := by
    rw [columns, columns, List.map_append, List.map_append, map_fst_settled, List.reverse_append,
      List.reverse_append, columns, List.reverse_reverse, List.dedup_append, List.dedup_append,
      List.dedup_idem]
  have hlast : last? (first.settled ++ second) = last? (first ++ second) := by
    funext column
    rw [last?_append, last?_append, last?_settled]
  rw [settled, hcolumns, hlast]
  rfl

/-! ### Histories that run in parallel -/

/-- Histories that assign to the same columns, and correspond in what they assign. -/
abbrev Parallel (R : α → β → Prop) : History α → History β → Prop :=
  List.Forall₂ fun x y ↦ x.1 = y.1 ∧ R x.2 y.2

namespace Parallel

variable {R : α → β → Prop} {history : History α} {other : History β}

theorem map_fst_eq (h : Parallel R history other) :
    history.map Prod.fst = other.map Prod.fst := by
  induction h with
  | nil => rfl
  | cons hentry _ ih => rw [List.map_cons, List.map_cons, hentry.1, ih]

theorem lookup (h : Parallel R history other) (column : String) :
    Option.Rel R (List.lookup column history) (List.lookup column other) := by
  induction h with
  | nil => exact .none
  | @cons x y xs ys hentry _ ih =>
    obtain ⟨c, a⟩ := x
    obtain ⟨d, b⟩ := y
    obtain ⟨rfl, hab⟩ : c = d ∧ R a b := hentry
    rw [List.lookup_cons, List.lookup_cons]
    cases column == c with
    | true => exact .some hab
    | false => exact ih

/-- What was assigned last corresponds. -/
theorem last? (h : Parallel R history other) (column : String) :
    Option.Rel R (history.last? column) (other.last? column) :=
  lookup (List.forall₂_reverse_iff.2 h) column

/-- **Parallel histories come to what corresponds.** -/
theorem settled (h : Parallel R history other) : Parallel R history.settled other.settled := by
  rw [History.settled, History.settled, columns_eq_of_map_fst_eq h.map_fst_eq]
  induction other.columns with
  | nil => exact .nil
  | cons column columns ih =>
    rw [List.filterMap_cons, List.filterMap_cons]
    have hlast := h.last? column
    revert hlast
    generalize history.last? column = a?, other.last? column = b?
    intro hlast
    cases hlast with
    | none => exact ih
    | some hab => exact .cons ⟨rfl, hab⟩ ih

end Parallel

end History

/-! ### Lists of assignments -/

namespace Assignments

open History (columns last? settled)

/-- Putting an expression in its place in a list of columns with an expression each, of which every
column is there once. -/
theorem put_filterMap {f : String → Option String} {columns : List String} (hnodup : columns.Nodup)
    (hf : ∀ c ∈ columns, (f c).isSome) (column expression : String) :
    put column expression (columns.filterMap fun c ↦ (f c).map (c, ·)) =
      (if column ∈ columns then columns else columns ++ [column]).filterMap fun c ↦
        (if c = column then some expression else f c).map (c, ·) := by
  induction columns with
  | nil => simp [put]
  | cons c columns ih =>
    obtain ⟨hnew, hrest⟩ := List.nodup_cons.1 hnodup
    obtain ⟨hsome, hfrest⟩ := List.forall_mem_cons.1 hf
    obtain ⟨e, he⟩ := Option.isSome_iff_exists.1 hsome
    by_cases hc : c = column
    · subst hc
      -- the columns behind are others, and keep their expressions
      have hothers : ∀ d ∈ columns,
          (if d = c then some expression else f d).map (d, ·) = (f d).map (d, ·) := by
        intro d hd
        have hne : d ≠ c := fun h ↦ hnew (h ▸ hd)
        rw [if_neg hne]
      simp [put, he, List.filterMap_congr hothers]
    · have hcolumn : column ≠ c := fun h ↦ hc h.symm
      simp only [List.filterMap_cons, he, Option.map_some, put, if_neg hc, ih hrest hfrest,
        List.mem_cons, hcolumn, false_or]
      split <;> simp [hc, he]

/-- Putting an expression in its place settles the history that goes on with it. -/
theorem put_settled (history : History String) (column expression : String) :
    put column expression (settled history) = settled (history ++ [(column, expression)]) := by
  rw [settled, settled, put_filterMap (History.nodup_columns history)
    (fun c ↦ History.isSome_last?_iff.2), History.columns_append_singleton]
  exact List.filterMap_congr fun c _ ↦ by rw [History.last?_append_singleton]

/-- **Assignments made one after the other** come to what their history comes to. -/
theorem append_settled (history : History String) (later : Assignments) :
    append ⟨settled history⟩ later = ⟨settled (history ++ later.entries)⟩ := by
  obtain ⟨entries⟩ := later
  show entries.foldl _ _ = _
  induction entries generalizing history with
  | nil => rw [List.foldl_nil, List.append_nil]
  | cons entry entries ih =>
    have hinsert : insert ⟨settled history⟩ entry.1 entry.2 = ⟨settled (history ++ [entry])⟩ :=
      congrArg Assignments.mk (put_settled history entry.1 entry.2)
    rw [List.foldl_cons]
    show entries.foldl _ (insert ⟨settled history⟩ entry.1 entry.2) = _
    rw [hinsert, ih, List.append_assoc, List.singleton_append]

theorem foldl_append_settled (history : History String) (lists : List Assignments) :
    lists.foldl append ⟨settled history⟩ = ⟨settled (history ++ lists.flatMap entries)⟩ := by
  induction lists generalizing history with
  | nil => rw [List.foldl_nil, List.flatMap_nil, List.append_nil]
  | cons list lists ih =>
    rw [List.foldl_cons, append_settled, ih, List.flatMap_cons, List.append_assoc]

/-- **Merging lists** comes to settling what they say, one list after the other. -/
theorem merged_eq_settled (lists : List Assignments) :
    merged lists = ⟨settled (lists.flatMap entries)⟩ :=
  foldl_append_settled [] lists

theorem merged_pair (first second : Assignments) :
    merged [first, second] = ⟨settled (first.entries ++ second.entries)⟩ := by
  rw [merged_eq_settled, List.flatMap_cons, List.flatMap_singleton]

/-- Merging lists that are settled comes to settling their histories, one after the other. -/
theorem merged_pair_of_settled {first second : Assignments} {history later : History String}
    (hfirst : first.entries = settled history) (hsecond : second.entries = settled later) :
    (merged [first, second]).entries = settled (history ++ later) := by
  rw [merged_pair, hfirst, hsecond, History.settled_append_settled,
    History.settled_settled_append]

theorem isEmpty_merged_pair (first second : Assignments) :
    (merged [first, second]).isEmpty = (first.isEmpty && second.isEmpty) := by
  rw [merged_pair, isEmpty, isEmpty, isEmpty, Bool.eq_iff_iff, Bool.and_eq_true,
    List.isEmpty_iff, List.isEmpty_iff, List.isEmpty_iff, History.settled_eq_nil_iff,
    List.append_eq_nil_iff]

end Assignments

end ParamSql
