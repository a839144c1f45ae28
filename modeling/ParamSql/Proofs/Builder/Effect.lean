import ParamSql.Proofs.Builder.Steps

/-!
# What a step can do

A step reaches an executor at most once, and in one of two ways: running a statement hands over the
statement (`Effect.sent`), and asking for the number of rows asks for the count that is pending
(`Effect.counted`). Every other step is silent; it calls setters, builds, or changes nothing.
`Builder.effect` is the only place where the steps are gone through for this. What holds of a
builder over whole runs is derived from it, beginning with what never changes (`step_origin`).

The statement that is handed over is described by `Builder.statementCall`, which is the same before
and after the statement has been built (`statementCall_build`).
-/

namespace ParamSql

/-- What an executor is asked to do with a statement of a kind. -/
def StatementKind.operation : StatementKind → Operation
  | select => .query
  | insert | update | delete | upsert => .execute

/-- The call that a pending count is asked for with, given the parameters of the statement. -/
def PendingCount.call (params : List Parameter) : PendingCount → Call
  | remembered => ⟨.queryScalar, rememberedCountSql, []⟩
  | counted sql => ⟨.queryScalar, sql, params⟩

/-- What comes of a call. -/
def Executor.reply (executor : Executor) (call : Call) : Reply call.operation.Answer :=
  executor.ask call.operation call.sql call.params

/-- Whether an executor answers a call with success. -/
def Executor.accepts (executor : Executor) (call : Call) : Bool :=
  (executor.ask call.operation call.sql call.params).outcome.isOk

theorem StatementKind.operation_ne_queryScalar (kind : StatementKind) :
    kind.operation ≠ .queryScalar := by
  cases kind <;> exact fun h ↦ nomatch h

theorem PendingCount.operation_call (params : List Parameter) (pending : PendingCount) :
    (pending.call params).operation = .queryScalar := by
  cases pending <;> rfl

/-- What an executor answers to a call for a single number. -/
def Executor.count (executor : Executor) (call : Call) : Result Int64 :=
  (executor.ask .queryScalar call.sql call.params).outcome

/-- Logged events are not calls. -/
theorem filterMap_call?_logged (events : List Event) (trace : List Happening) :
    (events.map Happening.logged ++ trace).filterMap Happening.call? =
      trace.filterMap Happening.call? := by
  have hnone : (events.map Happening.logged).filterMap Happening.call? = [] := by
    rw [List.filterMap_eq_nil_iff]
    intro happening hmem
    obtain ⟨event, -, rfl⟩ := List.mem_map.1 hmem
    rfl
  rw [List.filterMap_append, hnone, List.nil_append]

namespace Builder

/-! ### Building twice -/

/-- A builder that has been built answers with the text it holds. -/
theorem build_of_built? {b : Builder} {sql : String} (h : b.built? = some sql) :
    b.build = (sql, b) := by
  rw [build, h]

theorem built?_build (b : Builder) : b.build.2.built? = some b.build.1 := by
  cases h : b.built? with
  | some sql => rw [build_of_built? h, h]
  | none => rw [build, h]

/-- **Building is idempotent.** -/
theorem build_build (b : Builder) : b.build.2.build = b.build :=
  build_of_built? (built?_build b)

theorem isBuilt_build (b : Builder) : b.build.2.isBuilt = true := by
  rw [isBuilt, built?_build, Option.isSome_some]

/-- A builder that has been built is not changed by building. -/
theorem build_of_isBuilt {b : Builder} (h : b.isBuilt = true) : b.build.2 = b := by
  obtain ⟨sql, hsql⟩ := Option.isSome_iff_exists.1 h
  rw [build_of_built? hsql]

/-- Building leaves no note. -/
theorem build_notes (b : Builder) :
    b.build.2.found = b.found ∧ b.build.2.lateSetter? = b.lateSetter? :=
  ⟨b.build_keeps found fun _ _ _ _ ↦ rfl, b.build_keeps lateSetter? fun _ _ _ _ ↦ rfl⟩

/-! ### Handing a statement over -/

/-- The call that hands the statement over to an executor. -/
def statementCall (b : Builder) : Call :=
  ⟨b.kind.operation, b.build.1, b.build.2.params.entries⟩

theorem statementCall_build (b : Builder) : b.build.2.statementCall = b.statementCall := by
  rw [statementCall, statementCall, build_build, build_kind]

/-- The call that hands a statement over, as it is made once everything that was known of rows has
been forgotten. -/
theorem statementCall_eq_disarm (b : Builder) :
    b.statementCall =
      ⟨b.build.2.disarm.kind.operation, b.build.1, b.build.2.disarm.params.entries⟩ := by
  rw [statementCall, show b.build.2.disarm.kind = b.kind from build_kind b]
  rfl

/-- The builder after its statement has been built and handed over to an executor. -/
def sentTo (b : Builder) (executor : Executor) : Builder :=
  { b.build.2 with
    found := .armed
      (if executor.accepts b.statementCall then b.build.2.pendingCount? else none) }

/-- **Which count a SELECT makes available.** -/
theorem pendingCount?_eq_some_iff {b : Builder} {pending : PendingCount} :
    b.pendingCount? = some pending ↔
      b.kind = .select ∧
        (b.foundRowsMode = .calc ∧ rememberCountKeyword ∈ b.clauses.modifiers ∧
            pending = .remembered ∨
          b.foundRowsMode = .query ∧ pending = .counted b.clauses.countSql) := by
  rw [pendingCount?]
  split
  · rename_i hkind hmode
    by_cases hmodifier : rememberCountKeyword ∈ b.clauses.modifiers
    · simp [hkind, hmode, Clauses.hasModifier, hmodifier, eq_comm]
    · simp [hkind, hmode, Clauses.hasModifier, hmodifier]
  · rename_i hkind hmode
    simp [hkind, hmode, countSql?, eq_comm]
  · rename_i hcalc hquery
    constructor
    · intro h
      exact nomatch h
    · rintro ⟨hkind, ⟨hmode, -⟩ | ⟨hmode, -⟩⟩
      · exact (hcalc hkind hmode).elim
      · exact (hquery hkind hmode).elim

/-- Only a SELECT makes a count available. -/
theorem pendingCount?_eq_none {b : Builder} (h : b.kind ≠ .select) : b.pendingCount? = none := by
  rw [Option.eq_none_iff_forall_ne_some]
  intro pending hpending
  exact h (pendingCount?_eq_some_iff.1 hpending).1

/-- Sending a statement is a single call, after which a count is available if it succeeded. -/
theorem send_effect (b : Builder) (executor : Executor) (sql : String) :
    (b.send executor sql).calls = [⟨b.kind.operation, sql, b.params.entries⟩] ∧
      (b.send executor sql).builder =
        if executor.accepts ⟨b.kind.operation, sql, b.params.entries⟩ ∧ b.kind = .select then b.arm
        else b := by
  rw [send]
  cases b.kind with
  | select =>
    have hcalls := executor.calls_ask .query sql b.params.entries
    simp only [StatementKind.operation, Executor.accepts, and_true]
    cases (executor.ask .query sql b.params.entries).outcome with
    | ok rows => exact ⟨hcalls, rfl⟩
    | error error => exact ⟨hcalls, rfl⟩
  | insert | update | delete | upsert =>
    refine ⟨executor.calls_ask .execute sql b.params.entries, ?_⟩
    rw [if_neg fun h ↦ nomatch h.2]

/-- What the check refuses is neither built nor handed over. -/
theorem execute_of_misuse {b : Builder} {misuse : Misuse} (h : b.misuse? = some misuse)
    (executor : Executor) : b.execute executor = ⟨.error misuse.error, b, []⟩ := by
  rw [execute, h]

/-- What passes the check is handed over once. -/
theorem execute_effect {b : Builder} (h : b.misuse? = none) (executor : Executor) :
    (b.execute executor).calls = [b.statementCall] ∧
      (b.execute executor).builder = b.sentTo executor := by
  have hkind : b.build.2.disarm.kind = b.kind := build_kind b
  obtain ⟨hcalls, hbuilder⟩ := send_effect b.build.2.disarm executor b.build.1
  rw [hkind] at hcalls hbuilder
  have hran : b.execute executor =
      { b.build.2.disarm.send executor b.build.1 with
        trace := (b.build.2.disarm.statementEvents b.build.1).map .logged ++
          (b.build.2.disarm.send executor b.build.1).trace } := by
    rw [execute, h]
  rw [hran]
  refine ⟨(filterMap_call?_logged _ _).trans hcalls, hbuilder.trans ?_⟩
  show (if executor.accepts b.statementCall ∧ b.kind = .select then _ else _) = _
  rw [sentTo]
  -- a count is armed only after a SELECT, and no other statement has one to arm
  by_cases hselect : b.kind = .select
  · simp only [hselect, and_true]
    split <;> rfl
  · have hnone : b.build.2.pendingCount? = none :=
      pendingCount?_eq_none fun h ↦ hselect (hkind.symm.trans h)
    rw [if_neg fun h ↦ hselect h.2, hnone, ite_self]
    rfl

theorem execute_cases (b : Builder) (executor : Executor) :
    (∃ misuse, b.misuse? = some misuse ∧ b.execute executor = ⟨.error misuse.error, b, []⟩) ∨
      b.misuse? = none ∧ (b.execute executor).calls = [b.statementCall] ∧
        (b.execute executor).builder = b.sentTo executor := by
  cases h : b.misuse? with
  | some misuse => exact .inl ⟨misuse, rfl, execute_of_misuse h executor⟩
  | none => exact .inr ⟨rfl, execute_effect h executor⟩

/-- A SELECT is run for its rows as it is run. -/
theorem fetchAll_of_select {b : Builder} (h : b.kind = .select) (executor : Executor) :
    b.fetchAll executor =
      ⟨(b.execute executor).result.map Outcome.toRows, (b.execute executor).builder,
        (b.execute executor).trace⟩ := by
  rw [fetchAll, h]

/-- Rows are refused of any other statement. -/
theorem fetchAll_of_not_select {b : Builder} (h : b.kind ≠ .select) (executor : Executor) :
    b.fetchAll executor = ⟨.error (Misuse.noRows b.kind).error, b, []⟩ := by
  rw [fetchAll]
  split
  · exact absurd ‹_› h
  all_goals rfl

/-! ### Asking for the number of rows -/

theorem foundRows_of_count? {b : Builder} {count : Int64} (h : b.found.count? = some count)
    (executor : Executor) : b.foundRows executor = ⟨.ok count, b, []⟩ := by
  rw [foundRows, h]

theorem foundRows_of_pending?_eq_none {b : Builder} (hcount : b.found.count? = none)
    (hpending : b.found.pending? = none) (executor : Executor) :
    b.foundRows executor = ⟨.ok FoundRows.unknown, b, []⟩ := by
  rw [foundRows, hcount, hpending, foundRowsCached, FoundRows.cached, hcount]
  rfl

/-- A pending count is asked for once, and the answer is given and, if it is one, kept. -/
theorem foundRows_of_pending? {b : Builder} {pending : PendingCount}
    (hcount : b.found.count? = none) (hpending : b.found.pending? = some pending)
    (executor : Executor) :
    (b.foundRows executor).calls = [pending.call b.params.entries] ∧
      (b.foundRows executor).result = executor.count (pending.call b.params.entries) ∧
      (b.foundRows executor).builder =
        { b with found.count? := (executor.count (pending.call b.params.entries)).toOption } := by
  have hask : b.foundRows executor =
      b.askCount executor (pending.call b.params.entries).sql
        (pending.call b.params.entries).params := by
    rw [foundRows, hcount, hpending]
    cases pending <;> rfl
  have hcalls : (executor.ask .queryScalar (pending.call b.params.entries).sql
      (pending.call b.params.entries).params).calls = [pending.call b.params.entries] := by
    rw [executor.calls_ask]
    cases pending <;> rfl
  -- a failure keeps that there is no number, which is what it is overwritten with
  have hkept : b = { b with found.count? := none } := by
    rw [← hcount]
  rw [hask]
  simp only [askCount, Executor.count]
  cases (executor.ask .queryScalar (pending.call b.params.entries).sql
      (pending.call b.params.entries).params).outcome with
  | ok count => exact ⟨hcalls, rfl, rfl⟩
  | error error => exact ⟨hcalls, rfl, hkept⟩

/-! ### Every step -/

/-- The ways in which a step changes a builder and deals with executors. -/
inductive Effect (b : Builder) (step : Step) : Prop
  /-- Setters are called. -/
  | changed (setters : List Setter) (hstep : step = .change setters)
      (hcalls : (b.step step).calls = [])
      (hbuilder : (b.step step).builder = (b.changeAll setters).1)
  /-- The statement is built. -/
  | built (hstep : step = .build ∨ ∃ escaper, step = .debugSql escaper)
      (hcalls : (b.step step).calls = []) (hbuilder : (b.step step).builder = b.build.2)
  /-- Nothing changes. -/
  | quiet (hcalls : (b.step step).calls = []) (hbuilder : (b.step step).builder = b)
  /-- The statement passes the check, is built and handed over. -/
  | sent (executor : Executor)
      (hstep : step = .execute executor ∨ b.kind = .select ∧ step = .fetchAll executor)
      (hmisuse : b.misuse? = none) (hcalls : (b.step step).calls = [b.statementCall])
      (hbuilder : (b.step step).builder = b.sentTo executor)
  /-- The pending count is asked for. -/
  | counted (executor : Executor) (pending : PendingCount) (hstep : step = .foundRows executor)
      (hcount : b.found.count? = none) (hpending : b.found.pending? = some pending)
      (hcalls : (b.step step).calls = [pending.call b.params.entries])
      (hbuilder : (b.step step).builder =
        { b with found.count? := (executor.count (pending.call b.params.entries)).toOption })

/-- A step that answers and does nothing else is quiet. -/
theorem Effect.of_eq {b : Builder} {step : Step} {result : StepResult}
    (h : b.step step = ⟨result, b, []⟩) : b.Effect step := by
  have hcalls : (b.step step).calls = [] := by
    rw [h]
    rfl
  exact .quiet hcalls (by rw [h])

/-- **What a step can do**: it calls setters, builds, hands the statement over, asks for the pending
count, or changes nothing. -/
theorem effect (b : Builder) (step : Step) : b.Effect step := by
  cases step with
  | change setters =>
    refine .changed setters rfl ?_ rfl
    have hcalls := filterMap_call?_logged (b.changeAll setters).2 []
    rwa [List.append_nil] at hcalls
  | build => exact .built (.inl rfl) rfl rfl
  | debugSql escaper => exact .built (.inr ⟨escaper, rfl⟩) rfl rfl
  | validate | countSql | foundRowsCached => exact .quiet rfl rfl
  | execute executor =>
    rcases execute_cases b executor with ⟨misuse, -, hran⟩ | ⟨hmisuse, hcalls, hbuilder⟩
    · have hstep : b.step (.execute executor) = ⟨.outcome (.error misuse.error), b, []⟩ := by
        rw [step, hran, Ran.map]
      exact .of_eq hstep
    · exact .sent executor (.inl rfl) hmisuse hcalls hbuilder
  | fetchAll executor =>
    by_cases hkind : b.kind = .select
    · have hstep : b.step (.fetchAll executor) =
          ⟨.rows ((b.execute executor).result.map Outcome.toRows), (b.execute executor).builder,
            (b.execute executor).trace⟩ := by
        rw [step, fetchAll_of_select hkind, Ran.map]
      rcases execute_cases b executor with ⟨misuse, -, hran⟩ | ⟨hmisuse, hcalls, hbuilder⟩
      · rw [hran] at hstep
        exact .of_eq hstep
      · refine .sent executor (.inr ⟨hkind, rfl⟩) hmisuse ?_ ?_
        · rw [hstep]
          exact hcalls
        · rw [hstep]
          exact hbuilder
    · have hstep : b.step (.fetchAll executor) =
          ⟨.rows (.error (Misuse.noRows b.kind).error), b, []⟩ := by
        rw [step, fetchAll_of_not_select hkind, Ran.map]
      exact .of_eq hstep
  | foundRows executor =>
    cases hcount : b.found.count? with
    | some count =>
      have hstep : b.step (.foundRows executor) = ⟨.count (.ok count), b, []⟩ := by
        rw [step, foundRows_of_count? hcount, Ran.map]
      exact .of_eq hstep
    | none =>
      cases hpending : b.found.pending? with
      | none =>
        have hstep : b.step (.foundRows executor) = ⟨.count (.ok FoundRows.unknown), b, []⟩ := by
          rw [step, foundRows_of_pending?_eq_none hcount hpending, Ran.map]
        exact .of_eq hstep
      | some pending =>
        obtain ⟨hcalls, -, hbuilder⟩ := foundRows_of_pending? hcount hpending executor
        exact .counted executor pending rfl hcount hpending hcalls hbuilder

/-- **What a step asks of an executor**: to run the statement, or for the count that is pending. -/
theorem mem_calls {b : Builder} {step : Step} {call : Call} (h : call ∈ (b.step step).calls) :
    (call = b.statementCall ∧
        ∃ executor, (step = .execute executor ∨ step = .fetchAll executor) ∧
          (b.step step).builder = b.sentTo executor) ∨
      ∃ executor pending, step = .foundRows executor ∧ b.found.count? = none ∧
        b.found.pending? = some pending ∧ call = pending.call b.params.entries := by
  rcases b.effect step with ⟨_, -, hcalls, -⟩ | ⟨-, hcalls, -⟩ | ⟨hcalls, -⟩ |
    ⟨executor, hstep, -, hcalls, hbuilder⟩ |
    ⟨executor, pending, hstep, hcount, hpending, hcalls, -⟩
  · exact absurd (hcalls ▸ h) List.not_mem_nil
  · exact absurd (hcalls ▸ h) List.not_mem_nil
  · exact absurd (hcalls ▸ h) List.not_mem_nil
  · rw [hcalls, List.mem_singleton] at h
    exact .inl ⟨h, executor, hstep.imp_right And.right, hbuilder⟩
  · rw [hcalls, List.mem_singleton] at h
    exact .inr ⟨executor, pending, hstep, hcount, hpending, h⟩

/-- A call that is not for a number hands the statement over. -/
theorem eq_statementCall_of_mem_calls {b : Builder} {step : Step} {call : Call}
    (h : call ∈ (b.step step).calls) (hoperation : call.operation ≠ .queryScalar) :
    call = b.statementCall := by
  rcases mem_calls h with ⟨hcall, -⟩ | ⟨_, pending, -, -, -, rfl⟩
  · exact hcall
  · exact absurd (pending.operation_call _) hoperation

/-- A step reaches an executor once at most. -/
theorem calls_length_le_one (b : Builder) (step : Step) : (b.step step).calls.length ≤ 1 := by
  rcases b.effect step with ⟨_, -, hcalls, -⟩ | ⟨-, hcalls, -⟩ | ⟨hcalls, -⟩ |
    ⟨_, -, -, hcalls, -⟩ | ⟨_, _, -, -, -, hcalls, -⟩
  · exact hcalls ▸ Nat.zero_le 1
  · exact hcalls ▸ Nat.zero_le 1
  · exact hcalls ▸ Nat.zero_le 1
  · exact hcalls ▸ Nat.le_refl 1
  · exact hcalls ▸ Nat.le_refl 1

/-! ### What never changes -/

/-- **What a builder was made with never changes.** -/
theorem step_origin (b : Builder) (step : Step) : (b.step step).builder.origin = b.origin := by
  rcases b.effect step with ⟨setters, -, -, hbuilder⟩ | ⟨-, -, hbuilder⟩ | ⟨-, hbuilder⟩ |
    ⟨executor, -, -, -, hbuilder⟩ | ⟨executor, pending, -, -, -, -, hbuilder⟩
  · rw [hbuilder, changeAll_origin]
  · rw [hbuilder, build_origin]
  · rw [hbuilder]
  · rw [hbuilder]
    exact build_origin b
  · rw [hbuilder]
    rfl

theorem after_origin (b : Builder) (steps : List Step) : (b.after steps).origin = b.origin :=
  after_invariant (P := fun now ↦ now.origin = b.origin)
    (fun now step h ↦ (step_origin now step).trans h) rfl steps

/-- Nor does its kind change when it is built. -/
theorem kind_build_after (b : Builder) (steps : List Step) :
    (b.after steps).build.2.kind = b.kind :=
  (build_kind _).trans (congrArg Prod.fst (after_origin b steps))

theorem step_settings (b : Builder) (step : Step) :
    (b.step step).builder.settings = b.settings :=
  congrArg (·.2.2) (step_origin b step)

end Builder

end ParamSql
