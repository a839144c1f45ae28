import ParamSql.Proofs.Builder.Check

/-!
# What failures leave behind

An operation on a builder fails in one of four ways, at different points of its work, and each of
them leaves the builder as the next operation needs it (`fails_safely`).

* The check refuses the builder, or rows are asked of a statement that has none. Nothing has been
  done by then, and the builder is still what it was: if its statement has not been built, setters
  still have an effect.
* The executor fails to run the statement. By then the statement has been built and what was known
  of rows has been forgotten. Building is idempotent and the check reads nothing that building
  changes (`misuse?_build`), so the statement is handed over again by running it again.
* The executor fails to count. A number is kept only if it is answered, so the count stays pending
  and is asked for again.
-/

namespace ParamSql

namespace Builder

/-- A builder `now` whose statement has been handed over in vain, `b` being the builder before. -/
structure HandedOverInVain (b now : Builder) : Prop where
  /-- The text, the parameters and everything else are as they have been built, and nothing is known
  of rows. -/
  asBuilt : now = { b.build.2 with found := {} }
  /-- The text is not written anew. -/
  text : now.build = (b.build.1, now)
  /-- The number of rows is not known, and is not asked for. -/
  unknown : now.foundRowsCached = -1 ∧ ∀ executor, now.foundRows executor = ⟨.ok (-1), now, []⟩
  /-- Running it again hands over the same statement. -/
  again : now.validate = .ok () ∧ ∀ executor, (now.execute executor).calls = [b.statementCall]

/-- What a builder is after an operation with an executor that failed. -/
structure FailsSafely (b : Builder) (executor : Executor) : Prop where
  /-- What the check refuses is not run: there is no call and no event, and nothing changes. -/
  refused : ∀ error, b.validate = .error error →
    (∃ message, error = .configuration message) ∧
      b.execute executor = ⟨.error error, b, []⟩ ∧
      (b.kind = .select → b.fetchAll executor = ⟨.error error, b, []⟩)
  /-- Nor are rows asked of a statement that has none. -/
  noRows : b.kind ≠ .select →
    ∃ message, b.fetchAll executor = ⟨.error (.configuration message), b, []⟩
  /-- Setters that are called after that still have an effect, unless they had none before. -/
  opened : b.isBuilt = false → ∀ step ∈ [Step.execute executor, Step.fetchAll executor],
    (b.step step).calls = [] → (b.step step).builder.isBuilt = false ∧
      ∀ setters, ((b.step step).builder.changeAll setters) = (setters.foldl apply b, [])
  /-- If the executor fails, its error is answered. -/
  failed : ∀ error, b.validate = .ok () →
    (executor.reply b.statementCall).outcome = .error error →
    (b.execute executor).result = .error error ∧ (b.execute executor).calls = [b.statementCall] ∧
      b.HandedOverInVain (b.execute executor).builder
  /-- So it is if the statement is run for its rows. -/
  failedRows : ∀ error, b.kind = .select → b.validate = .ok () →
    (executor.reply b.statementCall).outcome = .error error →
    (b.fetchAll executor).result = .error error ∧ (b.fetchAll executor).calls = [b.statementCall] ∧
      b.HandedOverInVain (b.fetchAll executor).builder
  /-- If the executor fails to count, its error is answered and nothing changes: whichever executor
  is asked for the number next gets the same call, and its answer is passed on. -/
  uncounted : ∀ error, ∀ call ∈ (b.foundRows executor).calls, executor.count call = .error error →
    (b.foundRows executor).result = .error error ∧ (b.foundRows executor).calls = [call] ∧
      (b.foundRows executor).builder = b ∧
      ∀ next, ((b.foundRows executor).builder.foundRows next).calls = [call] ∧
        ((b.foundRows executor).builder.foundRows next).result = next.count call
  /-- Asking for the number does not fail otherwise. -/
  counted : ∀ error, (b.foundRows executor).result = .error error →
    ∃ call ∈ (b.foundRows executor).calls, executor.count call = .error error

/-! ### Running in vain -/

/-- A statement that cannot be run is handed over, and the error is answered. -/
theorem send_of_error {b : Builder} {executor : Executor} {sql : String} {error : Error}
    (h : (executor.reply ⟨b.kind.operation, sql, b.params.entries⟩).outcome = .error error) :
    (b.send executor sql).result = .error error ∧ (b.send executor sql).builder = b := by
  rw [send]
  cases hkind : b.kind with
  | select =>
    rw [hkind] at h
    have houtcome : (executor.ask .query sql b.params.entries).outcome = .error error := h
    simp only [houtcome, and_self]
  | insert | update | delete | upsert =>
    rw [hkind] at h
    have houtcome : (executor.ask .execute sql b.params.entries).outcome = .error error := h
    simp only [houtcome, Except.map, and_self]

theorem execute_of_error {b : Builder} {executor : Executor} {error : Error}
    (hmisuse : b.misuse? = none)
    (h : (executor.reply b.statementCall).outcome = .error error) :
    (b.execute executor).result = .error error ∧
      (b.execute executor).builder = b.build.2.disarm := by
  rw [statementCall_eq_disarm] at h
  rw [execute, hmisuse]
  exact send_of_error h

/-- A builder that has forgotten what was known of rows hands over its statement as before. -/
theorem handedOverInVain_disarm {b : Builder} (hmisuse : b.misuse? = none) :
    b.HandedOverInVain b.build.2.disarm where
  asBuilt := rfl
  text := build_of_built? (built?_build b)
  unknown := ⟨rfl, fun executor ↦ foundRows_of_pending?_eq_none rfl rfl executor⟩
  again := by
    have hnone : b.build.2.disarm.misuse? = none := (misuse?_build b).trans hmisuse
    refine ⟨validate_eq_ok_iff.2 hnone, fun executor ↦ ?_⟩
    have hsame : b.build.2.disarm.withoutNotes = b.build.2.withoutNotes := rfl
    rw [(execute_effect hnone executor).1,
      eq_of_view_eq hsame statementCall statementCall_withoutNotes, statementCall_build]

/-! ### Every failure -/

/-- What makes no call when a statement is run changes nothing. -/
theorem builder_of_calls_eq_nil {b : Builder} {executor : Executor} {step : Step}
    (hstep : step ∈ [Step.execute executor, Step.fetchAll executor])
    (hcalls : (b.step step).calls = []) : (b.step step).builder = b := by
  rcases b.effect step with ⟨_, rfl, -, -⟩ | ⟨hbuilt, -, -⟩ | ⟨-, hbuilder⟩ |
    ⟨_, -, -, hcall, -⟩ | ⟨_, _, rfl, -, -, -, -⟩
  · simp at hstep
  · rcases hbuilt with rfl | ⟨_, rfl⟩ <;> simp at hstep
  · exact hbuilder
  · exact absurd (hcall.symm.trans hcalls) (List.cons_ne_nil _ _)
  · simp at hstep

/-- A call for a number is for the count that is pending. -/
theorem exists_pending_of_mem_calls {b : Builder} {executor : Executor} {call : Call}
    (h : call ∈ (b.foundRows executor).calls) :
    ∃ pending, b.found.count? = none ∧ b.found.pending? = some pending ∧
      call = pending.call b.params.entries := by
  have hstep : call ∈ (b.step (.foundRows executor)).calls := h
  rcases mem_calls hstep with ⟨-, _, hrun | hrun, -⟩ | ⟨_, pending, -, hcount, hpending, hcall⟩
  · cases hrun
  · cases hrun
  · exact ⟨pending, hcount, hpending, hcall⟩

/-- Without a pending count, asking for the number of rows does not fail. -/
theorem exists_pending_of_error {b : Builder} {executor : Executor} {error : Error}
    (h : (b.foundRows executor).result = .error error) :
    ∃ pending, b.found.count? = none ∧ b.found.pending? = some pending := by
  cases hcount : b.found.count? with
  | some count =>
    rw [foundRows_of_count? hcount] at h
    cases h
  | none =>
    cases hpending : b.found.pending? with
    | none =>
      rw [foundRows_of_pending?_eq_none hcount hpending] at h
      cases h
    | some pending => exact ⟨pending, rfl, rfl⟩

/-- **Failures leave a builder as the next operation needs it**, whatever has been done with it. -/
theorem fails_safely (b : Builder) (executor : Executor) : b.FailsSafely executor := by
  constructor
  case refused =>
    intro error herror
    have hne : b.validate ≠ .ok () := fun hok ↦ nomatch hok.symm.trans herror
    obtain ⟨misuse, hmisuse, hconfiguration⟩ := validate_eq_error_of_ne_ok hne
    obtain rfl := Except.error.inj (herror.symm.trans hconfiguration)
    refine ⟨⟨misuse.message, rfl⟩, execute_of_misuse hmisuse executor, fun hkind ↦ ?_⟩
    rw [fetchAll_of_select hkind, execute_of_misuse hmisuse]
    rfl
  case noRows => exact fun hkind ↦ ⟨_, fetchAll_of_not_select hkind executor⟩
  case opened =>
    intro hopen step hstep hcalls
    rw [builder_of_calls_eq_nil hstep hcalls]
    exact ⟨hopen, fun setters ↦
      Prod.ext (changeAll_eq_foldl hopen setters) (changeAll_events hopen setters)⟩
  case failed =>
    intro error hvalid herror
    have hmisuse := validate_eq_ok_iff.1 hvalid
    obtain ⟨hresult, hbuilder⟩ := execute_of_error hmisuse herror
    refine ⟨hresult, (execute_effect hmisuse executor).1, ?_⟩
    rw [hbuilder]
    exact handedOverInVain_disarm hmisuse
  case failedRows =>
    intro error hkind hvalid herror
    have hmisuse := validate_eq_ok_iff.1 hvalid
    obtain ⟨hresult, hbuilder⟩ := execute_of_error hmisuse herror
    rw [fetchAll_of_select hkind, hresult, hbuilder]
    exact ⟨rfl, (execute_effect hmisuse executor).1, handedOverInVain_disarm hmisuse⟩
  case uncounted =>
    intro error call hcall herror
    obtain ⟨pending, hcount, hpending, rfl⟩ := exists_pending_of_mem_calls hcall
    obtain ⟨hcalls, hresult, hbuilder⟩ := foundRows_of_pending? hcount hpending executor
    have hsame : (b.foundRows executor).builder = b := by
      rw [hbuilder, herror, show (Except.error error : Result Int64).toOption = none from rfl,
        ← hcount]
    refine ⟨hresult.trans herror, hcalls, hsame, fun next ↦ ?_⟩
    obtain ⟨hagain, hanswer, -⟩ := foundRows_of_pending? hcount hpending next
    rw [hsame]
    exact ⟨hagain, hanswer⟩
  case counted =>
    intro error herror
    obtain ⟨pending, hcount, hpending⟩ := exists_pending_of_error herror
    obtain ⟨hcalls, hresult, -⟩ := foundRows_of_pending? hcount hpending executor
    exact ⟨_, hcalls ▸ List.mem_singleton_self _, hresult.symm.trans herror⟩

end Builder

end ParamSql
