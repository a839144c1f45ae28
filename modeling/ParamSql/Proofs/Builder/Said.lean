import ParamSql.Proofs.Builder.Frozen

/-!
# What has been said in time

In a run of a builder only those setters have an effect that are called before the statement is
built for the first time (`saidIn`). Whatever else is done, in whichever order, the text, the
clauses and the parameters of the statement come out as if these setters had been called one after
the other and the statement had been built then (`build_after`). So what is to be shown of all runs
is shown of lists of setters.

For the lists there is one lemma to work with: called in time, setters simply apply, one after the
other (`changeAll_eq_foldl`), and what each of them keeps, all of them keep (`changeAll_invariant`).
-/

namespace ParamSql.Builder

/-! ### Setters in time -/

/-- The setters that have an effect in a run: those called before the statement is built. -/
def saidIn (b : Builder) : List Step → List Setter
  | [] => []
  | step :: rest => (if b.isBuilt then [] else step.setters) ++ saidIn (b.step step).builder rest

theorem changeAll_append (b : Builder) (first second : List Setter) :
    (b.changeAll (first ++ second)).1 = ((b.changeAll first).1.changeAll second).1 := by
  induction first generalizing b with
  | nil => rfl
  | cons setter first ih => rw [List.cons_append, changeAll_cons, changeAll_cons, ih]

/-- Setters that are called in time apply one after the other. -/
theorem changeAll_eq_foldl {b : Builder} (h : b.isBuilt = false) (setters : List Setter) :
    (b.changeAll setters).1 = setters.foldl apply b := by
  induction setters generalizing b with
  | nil => rfl
  | cons setter setters ih =>
    have hopen : (b.apply setter).isBuilt = false := (isBuilt_apply b setter).trans h
    rw [changeAll_cons, change_of_not_isBuilt h, ih hopen, List.foldl_cons]

/-- And nothing is logged of them. -/
theorem changeAll_events {b : Builder} (h : b.isBuilt = false) (setters : List Setter) :
    (b.changeAll setters).2 = [] := by
  induction setters generalizing b with
  | nil => rfl
  | cons setter setters ih =>
    have hopen : (b.apply setter).isBuilt = false := (isBuilt_apply b setter).trans h
    rw [changeAll_cons, change_of_not_isBuilt h, ih hopen, List.nil_append]

/-- What every setter keeps, setters that are called in time keep. -/
theorem changeAll_invariant {P : Builder → Prop} {b : Builder} (h : b.isBuilt = false) (hb : P b)
    {setters : List Setter} (happly : ∀ b, ∀ setter ∈ setters, P b → P (b.apply setter)) :
    P (b.changeAll setters).1 := by
  rw [changeAll_eq_foldl h]
  clear h
  induction setters generalizing b with
  | nil => exact hb
  | cons setter setters ih =>
    obtain ⟨hfirst, hrest⟩ : (∀ b, P b → P (b.apply setter)) ∧
        ∀ b, ∀ s ∈ setters, P b → P (b.apply s) :=
      ⟨fun b ↦ happly b setter List.mem_cons_self,
        fun b s hs ↦ happly b s (List.mem_cons_of_mem _ hs)⟩
    exact ih (hfirst b hb) hrest

/-! ### Runs come down to setters -/

theorem saidIn_of_isBuilt {b : Builder} (h : b.isBuilt = true) (steps : List Step) :
    b.saidIn steps = [] := by
  induction steps generalizing b with
  | nil => rfl
  | cons step steps ih => rw [saidIn, if_pos h, ih (isBuilt_step h step), List.append_nil]

/-- Setters do not look at the notes. -/
theorem apply_withoutNotes (b : Builder) (setter : Setter) :
    b.withoutNotes.apply setter = (b.apply setter).withoutNotes := by
  cases setter
  case calcFoundRows on =>
    simp only [apply, show b.withoutNotes.foundRowsMode = b.foundRowsMode from rfl]
    split <;> rfl
  all_goals rfl

theorem changeAll_withoutNotes {b : Builder} (h : b.isBuilt = false) (setters : List Setter) :
    (b.withoutNotes.changeAll setters).1 = (b.changeAll setters).1.withoutNotes := by
  have hopen : b.withoutNotes.isBuilt = false := h
  rw [changeAll_eq_foldl h, changeAll_eq_foldl hopen]
  exact (List.foldl_hom withoutNotes fun b setter ↦ apply_withoutNotes b setter)

/-- A step that calls no setters builds the statement or leaves it as it is, up to notes. -/
theorem step_withoutNotes_or {step : Step} (hstep : step.setters = []) (b : Builder) :
    (b.step step).builder.withoutNotes = b.withoutNotes ∨
      (b.step step).builder.withoutNotes = b.build.2.withoutNotes := by
  rcases b.effect step with ⟨setters, rfl, -, hbuilder⟩ | ⟨-, -, hbuilder⟩ | ⟨-, hbuilder⟩ |
    ⟨executor, -, -, -, hbuilder⟩ | ⟨executor, pending, -, -, -, -, hbuilder⟩
  · rw [hbuilder, show setters = [] from hstep, changeAll_nil]
    exact .inl rfl
  · rw [hbuilder]
    exact .inr rfl
  · rw [hbuilder]
    exact .inl rfl
  · rw [hbuilder, sentTo_withoutNotes]
    exact .inr rfl
  · rw [hbuilder]
    exact .inl rfl

/-- **A statement says what has been said in time**, up to notes. -/
theorem build_after_withoutNotes (b : Builder) (steps : List Step) :
    (b.after steps).withoutNotes.build = (b.changeAll (b.saidIn steps)).1.withoutNotes.build := by
  induction steps generalizing b with
  | nil => rfl
  | cons step steps ih =>
    cases hb : b.isBuilt with
    | true => rw [saidIn_of_isBuilt hb, (after_withoutNotes hb _).2, changeAll_nil]
    | false =>
      rw [after_cons, saidIn, hb, if_neg Bool.false_ne_true]
      by_cases hstep : step.setters = []
      · rw [hstep, List.nil_append]
        rcases step_withoutNotes_or hstep b with hsame | hbuilt
        · have hopen : (b.step step).builder.isBuilt = false :=
            (congrArg isBuilt hsame).trans hb
          rw [ih, ← changeAll_withoutNotes hopen, hsame, changeAll_withoutNotes hb]
        · -- once the statement has been built, nothing is said any more
          have hnow : (b.step step).builder.isBuilt = true :=
            (congrArg isBuilt hbuilt).trans (isBuilt_build b)
          rw [saidIn_of_isBuilt hnow, (after_withoutNotes hnow _).2, hbuilt, changeAll_nil,
            build_withoutNotes, build_build, build_withoutNotes]
      · cases step with
        | change setters =>
          rw [ih, changeAll_append]
          rfl
        | build | debugSql | validate | countSql | execute | fetchAll | foundRows
          | foundRowsCached => exact absurd rfl hstep

/-- The builder that has been told in one go what a run says in time. -/
def asSaid (b : Builder) (steps : List Step) : Builder :=
  (b.changeAll (b.saidIn steps)).1

/-- **What a run builds**: the text, the clauses and the parameters are those of the statement that
says what has been said in time. -/
theorem build_after (b : Builder) (steps : List Step) :
    (b.after steps).build.1 = (b.asSaid steps).build.1 ∧
      (b.after steps).build.2.clauses = (b.asSaid steps).build.2.clauses ∧
      (b.after steps).build.2.params = (b.asSaid steps).build.2.params := by
  have hsame := build_after_withoutNotes b steps
  rw [build_withoutNotes, build_withoutNotes] at hsame
  obtain ⟨htext, hbuilder⟩ := Prod.mk.inj hsame
  exact ⟨htext, eq_of_view_eq hbuilder Builder.clauses (fun _ ↦ rfl),
    eq_of_view_eq hbuilder Builder.params (fun _ ↦ rfl)⟩

/-! ### The text of a statement -/

theorem isBuilt_asSaid {b : Builder} (h : b.isBuilt = false) (steps : List Step) :
    (b.asSaid steps).isBuilt = false :=
  (changeAll_of_not_isBuilt h (b.saidIn steps)).1

theorem asSaid_origin (b : Builder) (steps : List Step) : (b.asSaid steps).origin = b.origin :=
  changeAll_origin b (b.saidIn steps)

/-- Building compiles the filters and puts the clauses together. -/
theorem build_of_not_isBuilt {b : Builder} (h : b.isBuilt = false) :
    b.build = (b.withFilters.clauses.assemble b.kind,
      { b.withFilters with built? := some (b.withFilters.clauses.assemble b.kind) }) := by
  have hkind : b.withFilters.kind = b.kind := b.withFilters_keeps kind fun _ _ _ ↦ rfl
  have hnone : b.built? = none := Option.isSome_eq_false_iff.1 h |> Option.isNone_iff_eq_none.1
  rw [build, hnone]
  simp only [hkind]

/-- The clauses of a statement are what has been said in time, with all filters compiled. -/
theorem clauses_build_after {b : Builder} (h : b.isBuilt = false) (steps : List Step) :
    (b.after steps).build.2.clauses = (b.asSaid steps).withFilters.clauses := by
  rw [(build_after b steps).2.1, build_of_not_isBuilt (isBuilt_asSaid h steps)]

/-- And so are its parameters. -/
theorem params_build_after {b : Builder} (h : b.isBuilt = false) (steps : List Step) :
    (b.after steps).build.2.params = (b.asSaid steps).withFilters.params := by
  rw [(build_after b steps).2.2, build_of_not_isBuilt (isBuilt_asSaid h steps)]

/-- The text of a statement is put together from the clauses that its builder shows. -/
theorem build_after_eq_assemble {b : Builder} (h : b.isBuilt = false) (steps : List Step) :
    (b.after steps).build.1 = (b.after steps).build.2.clauses.assemble b.kind := by
  obtain ⟨htext, -, -⟩ := build_after b steps
  have hkind : (b.asSaid steps).kind = b.kind := congrArg Prod.fst (asSaid_origin b steps)
  rw [htext, clauses_build_after h, build_of_not_isBuilt (isBuilt_asSaid h steps), hkind]

end ParamSql.Builder
