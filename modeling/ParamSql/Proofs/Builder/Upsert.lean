import ParamSql.Proofs.Builder.Template

/-!
# Upserts

An UPSERT says what to insert and, right behind it, what to change if the row is already there
(`IsUpsert`). The check asks whether it inserts anything, and not whether it changes anything. These
are two questions, because what is assigned to inserted rows only answers the first: **an UPSERT
that passes the check is one exactly if something has been assigned otherwise**
(`isUpsert_iff_of_validate`). If nothing has, it passes the check all the same and is handed over as
an INSERT, which fails where the row is already there (`validate_insert_only`).
-/

namespace ParamSql

/-- The clauses say what to insert and, right behind it, what to change if the row is already
there. -/
def IsUpsert (clauses : List Clause) : Prop :=
  ∃ target written overwritten behind,
    clauses = .insertInto target :: .assign written :: .onDuplicateKey overwritten :: behind ∧
      written.entries ≠ [] ∧ overwritten.entries ≠ []

/-! ### The clauses of an UPSERT -/

namespace Clauses

variable {c : Clauses}

/-- What an UPSERT that inserts something is put together from. -/
theorem arranged_upsert (h : (c.written .upsert).entries ≠ []) :
    c.arranged .upsert =
      .insertInto c.insertTarget :: .assign (c.written .upsert) ::
        (assignmentClause .onDuplicateKey (c.overwritten .upsert) ++ c.closingClauses) := by
  rw [c.arranged_eq, openingClauses, assignmentClause_eq_singleton h]
  rfl

/-- A statement does not close with what is to be changed. -/
theorem onDuplicateKey_not_mem_closingClauses (overwritten : Assignments) :
    .onDuplicateKey overwritten ∉ c.closingClauses := by
  intro hmem
  have hkind := List.mem_map_of_mem (f := Clause.kind) hmem
  rw [c.map_kind_closingClauses] at hkind
  have hcommon : ClauseKind.onDuplicateKey ∈ ClauseKind.common := (List.mem_filter.1 hkind).1
  exact absurd hcommon (by decide)

/-- **When an UPSERT that inserts something is one**: exactly if it changes something. -/
theorem isUpsert_arranged_iff (h : (c.written .upsert).entries ≠ []) :
    IsUpsert (c.arranged .upsert) ↔ (c.overwritten .upsert).entries ≠ [] := by
  constructor
  · rintro ⟨target, written, overwritten, behind, harranged, -, -⟩ hnone
    rw [arranged_upsert h, assignmentClause_eq_nil hnone, List.nil_append] at harranged
    have hclosing : c.closingClauses = .onDuplicateKey overwritten :: behind :=
      List.tail_eq_of_cons_eq (List.tail_eq_of_cons_eq harranged)
    exact onDuplicateKey_not_mem_closingClauses overwritten (hclosing ▸ List.mem_cons_self)
  · intro hsome
    refine ⟨c.insertTarget, _, _, c.closingClauses, ?_, h, hsome⟩
    rw [arranged_upsert h, assignmentClause_eq_singleton hsome]
    rfl

end Clauses

/-! ### What is said of an UPSERT -/

namespace Setter

/-- The row that a setter assigns to, if it assigns anything. -/
def occasion? : Setter → Option Occasion
  | assign occasion _ _ | assignRaw occasion _ _ => some occasion
  | select _ | addSelect _ | distinct _ | calcFoundRows _ | whereRaw _ | filter _ | order _
  | orderBy _ _ | limit _ | offset _ => none

theorem assigned?_eq_none_iff {alias? : Option String} {occasion : Occasion} {setter : Setter} :
    setter.assigned? alias? occasion = none ↔ setter.occasion? ≠ some occasion := by
  cases setter with
  | assign | assignRaw => simp [assigned?, occasion?]
  | select | addSelect | distinct | calcFoundRows | whereRaw | filter | order | orderBy | limit
    | offset => simp [assigned?, occasion?]

/-- Nothing is assigned on an occasion if no setter assigns on it. -/
theorem history_eq_nil_iff {alias? : Option String} {occasion : Occasion} {said : List Setter} :
    history alias? occasion said = [] ↔ ∀ setter ∈ said, setter.occasion? ≠ some occasion := by
  rw [history, List.filterMap_eq_nil_iff]
  exact forall₂_congr fun _ _ ↦ assigned?_eq_none_iff

end Setter

namespace Builder

/-- **What an UPSERT changes**: something, exactly if something is assigned to other rows than
inserted ones. -/
theorem Keeps.overwritten_ne_nil_iff {alias? : Option String} {said : List Setter} {b : Builder}
    (h : Keeps alias? said b) (hkind : b.kind = .upsert) :
    (b.withFilters.clauses.overwritten .upsert).entries ≠ [] ↔
      ∃ setter ∈ said, setter.occasion? = some .always ∨ setter.occasion? = some .onUpdate := by
  have hspelled := h.spelled.overwritten.map_fst_eq
  rw [hkind, Setter.contents] at hspelled
  rw [Ne, ← List.map_eq_nil_iff, ← hspelled, List.map_eq_nil_iff, History.settled_eq_nil_iff,
    List.append_eq_nil_iff, Setter.history_eq_nil_iff, Setter.history_eq_nil_iff]
  constructor
  · intro hsome
    by_contra hnone
    exact hsome ⟨fun setter hmem halways ↦ hnone ⟨setter, hmem, .inl halways⟩,
      fun setter hmem hupdate ↦ hnone ⟨setter, hmem, .inr hupdate⟩⟩
  · rintro ⟨setter, hmem, halways | hupdate⟩ ⟨hnoAlways, hnoUpdate⟩
    · exact hnoAlways setter hmem halways
    · exact hnoUpdate setter hmem hupdate

/-- **When an UPSERT that passes the check is one.** Whatever is done with a builder of an UPSERT:
if it passes the check, its statement inserts something, and it says what to change exactly if
something has been assigned, in time, to other rows than inserted ones. -/
theorem isUpsert_iff_of_validate (table : String) (alias? : Option String) (settings : Settings)
    (steps : List Step) :
    let b := create .upsert table alias? settings
    let now := b.after steps
    let clauses := now.build.2.clauses.arranged .upsert
    now.validate = .ok () →
      now.build.1 = " ".intercalate (clauses.map Clause.text) ∧
        (∃ target written rest,
          clauses = .insertInto target :: .assign written :: rest ∧ written.entries ≠ []) ∧
        (IsUpsert clauses ↔ ∃ setter ∈ b.saidIn steps,
          setter.occasion? = some .always ∨ setter.occasion? = some .onUpdate) := by
  intro b now clauses hvalid
  have hkind : now.kind = .upsert := congrArg Prod.fst (after_origin b steps)
  have hwritten : (now.build.2.clauses.written .upsert).entries ≠ [] := by
    have hlacks : now.build.2.lacksAssignments = false :=
      (lacksAssignments_build now).trans (lacksAssignments_of_validate hvalid)
    have hbuilt : now.build.2.kind = .upsert := (build_kind now).trans hkind
    have hsome := isEmpty_written_eq_false hlacks (hbuilt.symm ▸ by decide)
    rw [hbuilt, Assignments.isEmpty] at hsome
    exact List.isEmpty_eq_false_iff.1 hsome
  have hclauses : now.build.2.clauses = (b.asSaid steps).withFilters.clauses := by
    rw [(build_after b steps).2.1, build_of_not_isBuilt (isBuilt_asSaid rfl steps)]
  refine ⟨build_after_eq_text rfl steps, ⟨_, _, _, Clauses.arranged_upsert hwritten, hwritten⟩,
    (Clauses.isUpsert_arranged_iff hwritten).trans ?_⟩
  rw [hclauses]
  exact (Keeps.changeAll .upsert table alias? settings (b.saidIn steps)).overwritten_ne_nil_iff
    (congrArg Prod.fst (asSaid_origin b steps))

/-- A counter that is made with one and counts up from then on. -/
theorem isUpsert_iff_of_validate_counter :
    let steps : List Step :=
      [.change [.assign .always "name" (.text "visits"), .assign .onInsert "count" (.int 1),
        .assignRaw .onUpdate "count" "count + 1"]]
    let now := (create .upsert "counters" none {}).after steps
    now.validate = .ok () ∧ IsUpsert (now.build.2.clauses.arranged .upsert) ∧
      now.build.1 = "INSERT INTO counters SET count = :p_1, name = :p_0" ++
        " ON DUPLICATE KEY UPDATE name = :p_0, count = count + 1" := by
  intro steps now
  have hvalid : now.validate = .ok () := by
    rw [validate_eq_ok_iff]
    decide +kernel
  obtain ⟨-, -, hiff⟩ := isUpsert_iff_of_validate "counters" none {} steps hvalid
  exact ⟨hvalid, hiff.2 ⟨_, List.mem_cons_self, .inl rfl⟩, by decide +kernel⟩

/-- An UPSERT that assigns to inserted rows only passes the check, and an INSERT is handed over. -/
theorem validate_insert_only :
    let now := (create .upsert "users" none {}).after
      [.change [.assign .onInsert "name" (.text "ada")]]
    now.validate = .ok () ∧ now.build.1 = "INSERT INTO users SET name = :p_0" ∧
      ¬ IsUpsert (now.build.2.clauses.arranged .upsert) ∧
      (now.execute ({} : Script).executor).calls =
        [⟨.execute, "INSERT INTO users SET name = :p_0", [⟨"p_0", .text "ada"⟩]⟩] := by
  intro now
  refine ⟨?_, by decide +kernel, ?_, by decide +kernel⟩
  · rw [validate_eq_ok_iff]
    decide +kernel
  · rw [Clauses.isUpsert_arranged_iff (by decide +kernel)]
    decide +kernel

end Builder

end ParamSql
