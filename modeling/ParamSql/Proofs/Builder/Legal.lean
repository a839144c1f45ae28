import ParamSql.Proofs.Builder.Condition
import ParamSql.Proofs.Builder.Page

/-!
# When a statement is legal

A condition, an order, a limit and an offset are written for every kind of statement for which they
have been given. Whether they have is read off the setters that are called in time (`Setter.Gives`):
a condition as it stands or a filter with a leaf, something to order by, a limit that bounds
anything, an offset that skips anything. Rows cannot be skipped without a limit, so an offset brings
one with it.

A statement that passes the check is therefore legal exactly if its kind admits all that has been
given (`legal_of_validate`). A SELECT always is; an INSERT with a condition is not, although it
passes the check (`not_legal_insert_where`).
-/

namespace ParamSql

/-! ### What has been given -/

namespace Setter

/-- What rows are ordered by after a setter, where they have been ordered by `before`. -/
def orderedBy (before : List (String × Direction)) : Setter → List (String × Direction)
  | order columns => columns
  | orderBy column direction => before ++ [(column, direction)]
  | select _ | addSelect _ | distinct _ | calcFoundRows _ | assign _ _ _ | assignRaw _ _ _
  | whereRaw _ | filter _ | limit _ | offset _ => before

/-- Setters give something for a clause that is written whatever the kind of the statement is. -/
def Gives (said : List Setter) : ClauseKind → Prop
  | .condition => rawCondition said ≠ "" ∨ ∃ filter ∈ filters said, filter.hasLeaf = true
  | .ordering => said.foldl orderedBy [] ≠ []
  | .limit => 0 ≤ lastLimit said ∨ 0 < lastOffset said
  | .offset => 0 < lastOffset said
  | .select | .source | .insertInto | .update | .deleteFrom | .assign | .onDuplicateKey => False

instance (said : List Setter) : DecidablePred (Gives said)
  | .condition => inferInstanceAs
      (Decidable (rawCondition said ≠ "" ∨ ∃ filter ∈ filters said, filter.hasLeaf = true))
  | .ordering => inferInstanceAs (Decidable (said.foldl orderedBy [] ≠ []))
  | .limit => inferInstanceAs (Decidable (0 ≤ lastLimit said ∨ 0 < lastOffset said))
  | .offset => inferInstanceAs (Decidable (0 < lastOffset said))
  | .select | .source | .insertInto | .update | .deleteFrom | .assign | .onDuplicateKey =>
    inferInstanceAs (Decidable False)

end Setter

namespace Builder

/-- Rows are ordered by what setters say, one after the other. -/
theorem ordering_foldl_apply {b : Builder} {before : List (String × Direction)}
    (h : b.clauses.ordering = before.map fun term ↦ Setter.orderTerm term.1 term.2)
    (said : List Setter) :
    (said.foldl apply b).clauses.ordering =
      (said.foldl Setter.orderedBy before).map fun term ↦ Setter.orderTerm term.1 term.2 := by
  induction said generalizing b before with
  | nil => exact h
  | cons setter said ih =>
    refine ih ?_
    rw [apply_eq_adopt]
    cases setter with
    | orderBy column direction =>
      show b.clauses.ordering ++ _ = _
      rw [h, Setter.orderedBy, List.map_append]
      rfl
    | order => rfl
    | _ => exact h

/-! ### What is written -/

section Run

variable (kind : StatementKind) (table : String) (alias? : Option String) (settings : Settings)
  (steps : List Step)

/-- A statement has a condition if one has been given as it stands or a filter demands anything. -/
theorem writes_condition_iff :
    let b := create kind table alias? settings
    (b.after steps).build.2.clauses.writes .condition = true ↔
      Setter.Gives (b.saidIn steps) .condition := by
  intro b
  have hkeeps : Keeps b.alias? (b.saidIn steps) (b.asSaid steps) :=
    Keeps.changeAll kind table alias? settings (b.saidIn steps)
  rw [Clauses.writes, clauses_build_after (b := b) rfl, Bool.not_eq_true', ← Bool.not_eq_true,
    String.isEmpty_iff, hkeeps.condition_withFilters_eq_empty_iff, Setter.demands_eq_nil_iff,
    not_and_or, Setter.Gives]
  simp only [not_forall, Bool.not_eq_false, exists_prop, Ne]

/-- A statement has an order if there is anything to order by. -/
theorem writes_ordering_iff :
    let b := create kind table alias? settings
    (b.after steps).build.2.clauses.writes .ordering = true ↔
      Setter.Gives (b.saidIn steps) .ordering := by
  intro b
  have hnothing : b.clauses.ordering =
      [].map fun term : String × Direction ↦ Setter.orderTerm term.1 term.2 := by
    cases kind <;> rfl
  have hordering : (b.after steps).build.2.clauses.ordering =
      ((b.saidIn steps).foldl Setter.orderedBy []).map
        fun term ↦ Setter.orderTerm term.1 term.2 := by
    rw [clauses_build_after rfl, withFilters_keeps _ (·.clauses.ordering) fun _ _ _ ↦ rfl, asSaid,
      changeAll_eq_foldl rfl, ordering_foldl_apply hnothing]
  rw [Clauses.writes, hordering, Bool.not_eq_true', List.isEmpty_eq_false_iff, Ne,
    List.map_eq_nil_iff, Setter.Gives]

/-- **What is written whatever the kind of the statement is**: exactly that for which something has
been given in time. -/
theorem writes_build_after_iff {k : ClauseKind} (hk : k ∈ ClauseKind.common) :
    let b := create kind table alias? settings
    (b.after steps).build.2.clauses.writes k = true ↔ Setter.Gives (b.saidIn steps) k := by
  intro b
  obtain ⟨hlimit, hoffset⟩ := limit_and_offset_build_after kind table alias? settings steps
  have hskips : 0 < (b.after steps).build.2.clauses.offset ↔
      0 < Setter.lastOffset (b.saidIn steps) := by
    rw [hoffset]
    split
    · rfl
    · next hnone => exact iff_of_false (by decide) hnone
  simp only [ClauseKind.common, List.mem_cons, List.not_mem_nil, or_false] at hk
  rcases hk with rfl | rfl | rfl | rfl
  · exact writes_condition_iff kind table alias? settings steps
  · exact writes_ordering_iff kind table alias? settings steps
  · rw [Clauses.writes_limit_iff, hskips, hlimit, Setter.Gives]
  · rw [Clauses.writes_offset_iff, hskips, Setter.Gives]

end Run

/-! ### Legal statements -/

/-- **The clauses of statements that pass the check.** Whatever is done with a builder: if it passes
the check, its statement reads as clauses that are in order and complete for its kind. Of those that
are written whatever the kind is it has exactly the ones for which something has been given in time;
and its clauses are those that the grammar admits exactly if its kind admits all of these. -/
theorem legal_of_validate (kind : StatementKind) (table : String) (alias? : Option String)
    (settings : Settings) (steps : List Step) :
    let b := create kind table alias? settings
    let now := b.after steps
    let clauses := now.build.2.clauses.arranged kind
    now.validate = .ok () →
      now.build.1 = " ".intercalate (clauses.map Clause.text) ∧
        InOrder kind ClauseKind.common (clauses.map Clause.kind) ∧
        (∀ k ∈ ClauseKind.common,
          k ∈ clauses.map Clause.kind ↔ Setter.Gives (b.saidIn steps) k) ∧
        (Legal kind clauses ↔
          ∀ k ∈ ClauseKind.common, Setter.Gives (b.saidIn steps) k → k ∈ kind.closing) := by
  intro b now clauses hvalid
  have horigin := after_origin b steps
  have hkind : now.build.2.kind = kind := (build_kind now).trans (congrArg Prod.fst horigin)
  have hlacks : now.build.2.lacksAssignments = false :=
    (lacksAssignments_build now).trans (lacksAssignments_of_validate hvalid)
  have hassign : .assign ∈ kind.opening →
      (now.build.2.clauses.written kind).isEmpty = false := by
    intro hmem
    have hwritten := isEmpty_written_eq_false hlacks (hkind.symm ▸ hmem)
    rwa [hkind] at hwritten
  have hgiven : ∀ k ∈ ClauseKind.common,
      k ∈ clauses.map Clause.kind ↔ Setter.Gives (b.saidIn steps) k := fun k hk ↦
    (mem_map_kind_arranged_iff hk).trans
      (writes_build_after_iff kind table alias? settings steps hk)
  refine ⟨build_after_eq_text rfl steps, inOrder_arranged hassign, hgiven, ?_⟩
  rw [legal_arranged_iff hassign]
  exact forall₂_congr fun k hk ↦ imp_congr_left (hgiven k hk)

/-- An UPSERT that assigns three columns in three ways, and an UPDATE with a filter and a limit. -/
theorem legal_of_validate_upsert :
    let upserting : List Step :=
      [.change [.assign .always "name" (.text "ada"), .assign .onInsert "made" (.int 1),
        .assignRaw .onUpdate "seen" "seen + 1"]]
    let updating : List Step :=
      [.change [.assignRaw .always "seen" "0", .filter (.compare "id" .equal (.int 1)), .limit 1]]
    let upserted := (create .upsert "users" none {}).after upserting
    let updated := (create .update "users" none {}).after updating
    upserted.validate = .ok () ∧
      Legal .upsert (upserted.build.2.clauses.arranged .upsert) ∧
      updated.validate = .ok () ∧
      .condition ∈ (updated.build.2.clauses.arranged .update).map Clause.kind ∧
      Legal .update (updated.build.2.clauses.arranged .update) := by
  intro upserting updating upserted updated
  have hupserted : upserted.validate = .ok () := by
    rw [validate_eq_ok_iff]
    decide +kernel
  have hupdated : updated.validate = .ok () := by
    rw [validate_eq_ok_iff]
    decide +kernel
  obtain ⟨-, -, -, hupsert⟩ := legal_of_validate .upsert "users" none {} upserting hupserted
  obtain ⟨-, -, hgiven, hupdate⟩ := legal_of_validate .update "users" none {} updating hupdated
  exact ⟨hupserted, hupsert.2 (by decide +kernel), hupdated,
    (hgiven .condition (by decide)).2 (by decide +kernel), hupdate.2 (by decide +kernel)⟩

/-- An INSERT with a condition passes the check, and no INSERT has a condition. -/
theorem not_legal_insert_where :
    let b := (create .insert "users" none {}).after
      [.change [.assignRaw .always "a" "1", .whereRaw "b = 2"]]
    b.validate = .ok () ∧ b.build.1 = "INSERT INTO users SET a = 1 WHERE b = 2" ∧
      ¬ Legal .insert (b.build.2.clauses.arranged .insert) := by
  intro b
  refine ⟨?_, by decide +kernel, fun hlegal ↦ ?_⟩
  · rw [validate_eq_ok_iff]
    decide +kernel
  · have hordered := hlegal.ordered
    revert hordered
    decide +kernel

end Builder

end ParamSql
