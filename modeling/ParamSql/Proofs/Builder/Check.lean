import ParamSql.Proofs.Builder.Template
import ParamSql.Proofs.Statement.Grammar

/-!
# What the check finds

The check reads nothing but what a builder has become: a note, a written target, three lists of
assignments. What it is there for is said of what has been done with the builder: a setter has come
too late (`lateIn`), no table was named, or the statement lacks assignments that its kind demands.

The two agree in all but one case. A table without a name is found by the text of the target being
empty, and that text has the alias in it: **with an alias, no table is found missing**
(`validate_without_table`). So the statement of what the check decides says "no table" of an empty
name without an alias (`validate_iff`).
-/

namespace ParamSql

namespace Builder

/-! ### Setters that are called too late -/

/-- The setters that are called too late in a run: those called after the statement has been
built. -/
def lateIn (b : Builder) : List Step → List Setter
  | [] => []
  | step :: rest => (if b.isBuilt then step.setters else []) ++ lateIn (b.step step).builder rest

/-- **The note of a run** is on the first setter that was called too late in it, unless there was
one already. -/
theorem after_lateSetter?_eq (b : Builder) (steps : List Step) :
    (b.after steps).lateSetter? =
      (b.lateSetter? <|> (b.lateIn steps).head?.map Setter.name) := by
  induction steps generalizing b with
  | nil =>
    rw [after_nil]
    cases b.lateSetter? <;> rfl
  | cons step steps ih =>
    rw [after_cons, ih, lateIn]
    cases h : b.isBuilt with
    | true =>
      rw [step_lateSetter? h, if_pos rfl, List.head?_append]
      cases b.lateSetter? <;> cases step.setters <;> rfl
    | false =>
      rw [step_lateSetter?_of_not_isBuilt h, if_neg Bool.false_ne_true, List.nil_append]

/-! ### The table -/

/-- No setter changes the target. -/
theorem apply_target (b : Builder) (setter : Setter) : (b.apply setter).target = b.target := by
  cases setter
  case distinct on => exact b.apply_keyword_keeps _ (.inl rfl) target fun _ _ ↦ rfl
  case calcFoundRows on => exact b.apply_keyword_keeps _ (.inr rfl) target fun _ _ ↦ rfl
  case assign occasion column v => cases occasion <;> rfl
  case assignRaw occasion column expression => cases occasion <;> rfl
  all_goals rfl

theorem target_build (b : Builder) : b.build.2.target = b.target :=
  b.build_keeps target fun _ _ _ _ ↦ rfl

theorem changeAll_target (b : Builder) (setters : List Setter) :
    (b.changeAll setters).1.target = b.target := by
  cases hbuilt : b.isBuilt with
  | true =>
    rw [changeAll_of_isBuilt hbuilt]
    rfl
  | false =>
    refine changeAll_invariant (P := fun now ↦ now.target = b.target) hbuilt rfl ?_
    exact fun now setter _ hnow ↦ (apply_target now setter).trans hnow

/-- **No step changes the target.** -/
theorem step_target (b : Builder) (step : Step) : (b.step step).builder.target = b.target := by
  rcases b.effect step with ⟨setters, -, -, hbuilder⟩ | ⟨-, -, hbuilder⟩ | ⟨-, hbuilder⟩ |
    ⟨executor, -, -, -, hbuilder⟩ | ⟨executor, pending, -, -, -, -, hbuilder⟩
  · rw [hbuilder, changeAll_target]
  · rw [hbuilder, target_build]
  · rw [hbuilder]
  · rw [hbuilder]
    exact target_build b
  · rw [hbuilder]
    rfl

theorem after_target (b : Builder) (steps : List Step) : (b.after steps).target = b.target :=
  after_invariant (P := fun now ↦ now.target = b.target)
    (fun now step h ↦ (step_target now step).trans h) rfl steps

/-- **When a target is empty**: the name of the table is, and there is no alias behind it. -/
theorem target_create_eq_empty_iff (kind : StatementKind) (table : String)
    (alias? : Option String) (settings : Settings) :
    (create kind table alias? settings).target = "" ↔
      table = "" ∧ effectiveAlias? kind alias? = none := by
  have hbare : Identifier.bare table = "" ↔ table = "" := by
    constructor
    · exact not_imp_not.1 Identifier.bare_ne_empty
    · rintro rfl
      decide +kernel
  have hnone (h : kind.supportsAlias = false) : effectiveAlias? kind alias? = none := by
    rw [effectiveAlias?, Option.filter_eq_none_iff]
    intro qualifier _
    rw [h, Bool.false_and]
    exact Bool.false_ne_true
  have hwritten (qualifier? : Option String) :
      (initialClauses .select table qualifier?).target = "" ↔
        table = "" ∧ qualifier? = none := by
    cases qualifier? with
    | none => exact hbare.trans (by simp)
    | some a => simp [initialClauses, String.append_eq_empty_iff]
  cases kind with
  | insert | upsert => exact hbare.trans (by simp [hnone rfl])
  | select | update | delete => exact hwritten _

end Builder

/-! ### The assignments -/

/-- **When a statement has assignments**: exactly if there is something to write. -/
theorem Clauses.assign_mem_arranged_iff (kind : StatementKind) (c : Clauses) :
    .assign ∈ (c.arranged kind).map Clause.kind ↔ (c.written kind).isEmpty = false := by
  have hhead : .assign ∉ (c.head kind).map Clause.kind := by
    cases kind <;> simp [head, Clause.kind]
  have hoverwritten :
      .assign ∉ (assignmentClause .onDuplicateKey (c.overwritten kind)).map Clause.kind := by
    intro hmem
    have hkind := (map_kind_assignmentClause_sublist .onDuplicateKey _).subset hmem
    exact absurd hkind (by simp [Clause.kind])
  have hclosing : .assign ∉ c.closingClauses.map Clause.kind := by
    rw [c.map_kind_closingClauses]
    intro hmem
    exact absurd (List.mem_filter.1 hmem).1 (by decide)
  rw [c.arranged_eq, openingClauses]
  simp only [List.map_append, List.mem_append, hhead, hoverwritten, hclosing, false_or, or_false]
  rw [map_kind_assignmentClause]
  split <;> simp_all [Clause.kind]

namespace Builder

/-- **When assignments are lacking**: the kind demands some, and none would be written. -/
theorem lacksAssignments_eq_true_iff {b : Builder} :
    b.lacksAssignments = true ↔
      .assign ∈ b.kind.demanded ∧ .assign ∉ (b.clauses.arranged b.kind).map Clause.kind := by
  rw [b.clauses.assign_mem_arranged_iff, Bool.not_eq_false]
  cases hkind : b.kind with
  | select | delete => simp [lacksAssignments, hkind, StatementKind.demanded]
  | insert | upsert =>
    rw [lacksAssignments, hkind, Clauses.written, Assignments.isEmpty_merged_pair, Bool.and_comm]
    exact (and_iff_right (by decide)).symm
  | update =>
    rw [lacksAssignments, hkind, Clauses.written, Assignments.isEmpty_merged_pair]
    exact (and_iff_right (by decide)).symm

/-! ### The check -/

/-- **What the check decides** of a builder as it is. -/
theorem misuse?_eq_none_iff {b : Builder} :
    b.misuse? = none ↔
      b.lateSetter? = none ∧ b.target ≠ "" ∧ b.lacksAssignments = false := by
  rw [misuse?]
  cases b.lateSetter? with
  | some setter => simp
  | none =>
    by_cases htarget : b.target.isEmpty
    · simp [String.isEmpty_iff.1 htarget]
    · cases hlacks : b.lacksAssignments <;> simp_all

/-- Building does not change what the check finds. -/
theorem misuse?_build (b : Builder) : b.build.2.misuse? = b.misuse? := by
  rw [misuse?, misuse?, (build_notes b).2, target_build, lacksAssignments_build, build_kind]

/-- Whatever the check refuses is a configuration error. -/
theorem validate_eq_error_of_ne_ok {b : Builder} (h : b.validate ≠ .ok ()) :
    ∃ misuse, b.misuse? = some misuse ∧ b.validate = .error (.configuration misuse.message) := by
  rw [validate] at h ⊢
  cases hmisuse : b.misuse? with
  | none =>
    rw [hmisuse] at h
    exact absurd rfl h
  | some misuse => exact ⟨misuse, rfl, rfl⟩

/-- **The check finds three misuses**: whatever has been done with a builder, the check fails, with
a configuration error, exactly if a setter has been called too late, no table was named and there is
no alias, or the kind of the statement demands assignments and there would be none in its text. An
executor is reached exactly if the check is passed. -/
theorem validate_iff (kind : StatementKind) (table : String) (alias? : Option String)
    (settings : Settings) (steps : List Step) :
    let b := create kind table alias? settings
    let now := b.after steps
    let clauses := now.build.2.clauses.arranged kind
    let misused :=
      b.lateIn steps ≠ [] ∨ (table = "" ∧ effectiveAlias? kind alias? = none) ∨
        (kind ∈ [.insert, .update, .upsert] ∧ .assign ∉ clauses.map Clause.kind)
    now.build.1 = " ".intercalate (clauses.map Clause.text) ∧
      (now.validate = .ok () ↔ ¬misused) ∧
      ((∃ message, now.validate = .error (.configuration message)) ↔ misused) ∧
      ∀ executor, (now.execute executor).calls = [] ↔ misused := by
  intro b now clauses misused
  have hkind : now.kind = kind := congrArg Prod.fst (after_origin b steps)
  have hlate : now.lateSetter? = none ↔ b.lateIn steps = [] := by
    have hnote : now.lateSetter? = (b.lateIn steps).head?.map Setter.name :=
      after_lateSetter?_eq b steps
    rw [hnote, Option.map_eq_none_iff, List.head?_eq_none_iff]
  have htarget : now.target = "" ↔ table = "" ∧ effectiveAlias? kind alias? = none := by
    rw [show now.target = b.target from after_target b steps]
    exact target_create_eq_empty_iff kind table alias? settings
  have hlacks : now.lacksAssignments = true ↔
      kind ∈ [.insert, .update, .upsert] ∧ .assign ∉ clauses.map Clause.kind := by
    have hdemanded : .assign ∈ kind.demanded ↔ kind ∈ [.insert, .update, .upsert] := by
      cases kind <;> decide
    rw [← lacksAssignments_build, lacksAssignments_eq_true_iff, build_kind, hkind, hdemanded]
  have hok : now.misuse? = none ↔ ¬misused := by
    rw [misuse?_eq_none_iff, hlate, ← Bool.not_eq_true, Ne, hlacks, htarget]
    simp only [misused, not_or, ne_eq, not_not]
  have hvalid : now.validate = .ok () ↔ ¬misused := validate_eq_ok_iff.trans hok
  refine ⟨build_after_eq_text rfl steps, hvalid, ?_, ?_⟩
  · constructor
    · rintro ⟨message, hmessage⟩
      by_contra hfine
      rw [hvalid.2 hfine] at hmessage
      cases hmessage
    · intro hmisused
      obtain ⟨misuse, -, herror⟩ := validate_eq_error_of_ne_ok fun h ↦ hvalid.1 h hmisused
      exact ⟨misuse.message, herror⟩
  · intro executor
    rcases execute_cases now executor with ⟨misuse, hmisuse, hran⟩ | ⟨hnone, hcalls, -⟩
    · rw [hran]
      refine iff_of_true rfl (by_contra fun hfine ↦ ?_)
      rw [hok.2 hfine] at hmisuse
      cases hmisuse
    · rw [hcalls]
      exact iff_of_false (List.cons_ne_nil _ _) (hok.1 hnone)

/-- No table is named, and the check does not find it missing: the alias is all there is. -/
theorem validate_without_table :
    let b := create .select "" (some "u") {}
    b.validate = .ok () ∧ b.build.1 = "SELECT * FROM  u" ∧
      (b.execute ({} : Script).executor).calls = [⟨.query, "SELECT * FROM  u", []⟩] := by
  intro b
  refine ⟨?_, by decide +kernel, by decide +kernel⟩
  rw [validate_eq_ok_iff]
  decide +kernel

end Builder

end ParamSql
