import ParamSql.Proofs.Statement.Settled

/-!
# Merging lists of assignments

A list of assignments is a map that remembers the order in which its columns came. Where a column
stands and what is assigned to it are two different questions: its place is that of its first
mention, its expression that of the last one. `Lists` says both, and it determines the list of
columns, because a list without repetitions that is ordered by first mention is unique.

A list that inserts have made lists what was inserted (`lists_inserted`), and merged lists list what
the merged ones do (`lists_merged`). Since a list stands for its history in any longer one, the
lists of a sequence may be merged in groups (`merged_append`).
-/

namespace ParamSql

namespace History

/-- Columns come in the order of their first mention. -/
theorem pairwise_idxOf_columns {α : Type} (history : History α) :
    history.columns.Pairwise fun c d ↦
      (history.map Prod.fst).idxOf c < (history.map Prod.fst).idxOf d := by
  induction history using List.reverseRecOn with
  | nil => exact .nil
  | append_singleton history entry ih =>
    obtain ⟨column, a⟩ := entry
    -- what has been mentioned keeps its place
    have hold : ∀ c ∈ columns history,
        (List.map Prod.fst (history ++ [(column, a)])).idxOf c =
          (history.map Prod.fst).idxOf c := by
      intro c hc
      rw [List.map_append, List.idxOf_append_of_mem (mem_columns_iff.1 hc)]
    have hkept : (columns history).Pairwise fun c d ↦
        (List.map Prod.fst (history ++ [(column, a)])).idxOf c <
          (List.map Prod.fst (history ++ [(column, a)])).idxOf d :=
      ih.imp_of_mem fun hc hd hlt ↦ by rwa [hold _ hc, hold _ hd]
    rw [columns_append_singleton]
    split
    · exact hkept
    · rename_i hnew
      refine List.pairwise_append.2 ⟨hkept, List.pairwise_singleton _ _, fun c hc d hd ↦ ?_⟩
      obtain rfl := List.mem_singleton.1 hd
      rw [hold c hc, List.map_append, List.idxOf_append_of_notMem (mt mem_columns_iff.2 hnew)]
      exact Nat.lt_add_right _ (List.idxOf_lt_length_of_mem (mem_columns_iff.1 hc))

/-- What was assigned last in several histories is what the last of them has that mentions the
column. -/
theorem last?_flatMap {α β : Type} (f : β → History α) (l : List β) (column : String) :
    last? (l.flatMap f) column = l.reverse.findSome? fun b ↦ (f b).last? column := by
  induction l using List.reverseRecOn with
  | nil => rfl
  | append_singleton l b ih =>
    rw [List.flatMap_append, List.flatMap_singleton, last?_append, ih, List.reverse_append,
      List.reverse_singleton, List.singleton_append, List.findSome?_cons]
    cases (f b).last? column <;> rfl

end History

namespace Assignments

open History (settled)

/-! ### What a list of assignments lists -/

/-- The assignments list the columns that are mentioned, in the order in which they are mentioned
first, each once and with the expression that is told of it. -/
structure Lists (mentioned : List String) (told : String → Option String) (a : Assignments) :
    Prop where
  /-- No column is there twice. -/
  nodup : (a.entries.map Prod.fst).Nodup
  /-- The columns that are mentioned are there, and no other ones. -/
  mem_iff : ∀ column, column ∈ a.entries.map Prod.fst ↔ column ∈ mentioned
  /-- What is mentioned earlier comes earlier. -/
  ordered : (a.entries.map Prod.fst).Pairwise fun c d ↦ mentioned.idxOf c < mentioned.idxOf d
  /-- A column has the expression that is told of it. -/
  get? : ∀ column, a.get? column = told column

theorem lists_settled (history : History String) :
    Lists (history.map Prod.fst) history.last? ⟨settled history⟩ where
  nodup := by
    rw [History.map_fst_settled]
    exact history.nodup_columns
  mem_iff := fun column ↦ by
    rw [History.map_fst_settled]
    exact History.mem_columns_iff
  ordered := by
    rw [History.map_fst_settled]
    exact history.pairwise_idxOf_columns
  get? := history.lookup_settled

/-! ### Inserting and merging -/

/-- The list that inserts make, one after the other. -/
def inserted (history : History String) : Assignments :=
  history.foldl (fun a entry ↦ a.insert entry.1 entry.2) {}

theorem inserted_eq_settled (history : History String) : inserted history = ⟨settled history⟩ :=
  append_settled [] ⟨history⟩

/-- **What inserts have made**: the columns in the order of their first insert, each with the
expression of its last one. -/
theorem lists_inserted (history : History String) :
    Lists (history.map Prod.fst) history.last? (inserted history) := by
  rw [inserted_eq_settled]
  exact lists_settled history

/-- A list that inserts have made has one expression for each column. -/
theorem last?_entries_inserted (history : History String) :
    History.last? (inserted history).entries = (inserted history).get? := by
  rw [inserted_eq_settled]
  exact history.last?_settled.trans (funext history.lookup_settled).symm

/-- **What merged lists say**: the columns in the order of their first mention, each with the
expression of the last list that has it. -/
theorem lists_merged (histories : List (History String)) :
    let lists := histories.map inserted
    Lists (lists.flatMap fun list ↦ list.entries.map Prod.fst)
      (fun column ↦ lists.reverse.findSome? fun list ↦ list.get? column) (merged lists) := by
  intro lists
  have hnames : (lists.flatMap fun list ↦ list.entries.map Prod.fst) =
      (lists.flatMap entries).map Prod.fst := by
    rw [List.map_flatMap]
  have htold : (fun column ↦ lists.reverse.findSome? fun list ↦ list.get? column) =
      History.last? (lists.flatMap entries) := by
    funext column
    rw [History.last?_flatMap, ← List.map_reverse, List.findSome?_map, List.findSome?_map]
    simp only [Function.comp_def, last?_entries_inserted]
  rw [hnames, htold, merged_eq_settled]
  exact lists_settled _

/-- Merging changes nothing about a single list. -/
theorem merged_singleton (history : History String) :
    merged [inserted history] = inserted history := by
  rw [merged_eq_settled, List.flatMap_singleton, inserted_eq_settled]
  exact congrArg Assignments.mk (History.settled_append_settled [] history)

/-- The lists of a sequence may be merged in groups. -/
theorem merged_append (lists others : List Assignments) :
    merged (lists ++ others) = merged [merged lists, merged others] := by
  rw [merged_pair, merged_eq_settled, merged_eq_settled, merged_eq_settled, List.flatMap_append,
    History.settled_append_settled, History.settled_settled_append]

/-- **Assignments are a map that remembers its order, and merging is associative.** A list that
inserts have made has each column once, in the order of the first inserts and with the expression of
the last one. Merged lists have each column once, in the order of its first mention and with the
expression of the last list that has it; a single list is left as it is, and the lists of a sequence
may be merged in groups. -/
theorem lists_what_was_assigned :
    (∀ history : History String,
        Lists (history.map Prod.fst) history.last? (inserted history)) ∧
      (∀ histories : List (History String),
        let lists := histories.map inserted
        Lists (lists.flatMap fun list ↦ list.entries.map Prod.fst)
          (fun column ↦ lists.reverse.findSome? fun list ↦ list.get? column) (merged lists)) ∧
      (∀ history : History String, merged [inserted history] = inserted history) ∧
      ∀ lists others : List Assignments,
        merged (lists ++ others) = merged [merged lists, merged others] :=
  ⟨lists_inserted, lists_merged, merged_singleton, merged_append⟩

/-- The column that both lists have keeps the place of the first list. -/
example : merged [inserted [("a", "1"), ("b", "2")], inserted [("b", "3"), ("c", "4")]] =
    inserted [("a", "1"), ("b", "3"), ("c", "4")] := by
  decide

end Assignments

end ParamSql
