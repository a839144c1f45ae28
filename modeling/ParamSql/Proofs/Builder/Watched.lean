import ParamSql.Proofs.Builder.FoundRows

/-!
# Watching adds events

A run in which every executor is watched, beside the run of the same steps in which the executors
give up on calls that take longer than allowed and are not watched otherwise. The two come to the
same (`run_watched`): the same answers, builders and calls, and what happens is the same but for the
report on each call, which is logged when the call has ended.

No relation between two builders has to be kept for this. An operation hands the outcome of its one
call on and does nothing after it, so an operation with a watched executor *is* the operation
without watching, with the report at its end (`step_watched`), and the steps that follow begin with
the same builder.
-/

namespace ParamSql

/-! ### Calls and their reports -/

/-- The step with another executor in place of the one that it brings. -/
def Step.over (f : Executor → Executor) : Step → Step
  | .execute executor => .execute (f executor)
  | .fetchAll executor => .fetchAll (f executor)
  | .foundRows executor => .foundRows (f executor)
  | .change setters => .change setters
  | .build => .build
  | .debugSql escaper => .debugSql escaper
  | .validate => .validate
  | .countSql => .countSql
  | .foundRowsCached => .foundRowsCached

theorem Step.executor?_over (f : Executor → Executor) (step : Step) :
    (step.over f).executor? = step.executor?.map f := by
  cases step <;> rfl

namespace Monitor

variable (m : Monitor)

/-- The answer to a call: that of the executor, unless it is waited for longer than allowed. -/
def outcome {α : Type} (reply : Reply α) : Result α :=
  match m.timeout? with
  | none => reply.outcome
  | some limit => if limit < reply.delay then .error (.timeout limit) else reply.outcome

/-- What is logged of calls when they have ended. -/
def report (inner : Executor) (calls : List Call) : List Event :=
  calls.flatMap fun call ↦
    m.events call.operation call.params.length call.sql ((inner.limited m.timeout?).reply call)

/-- What is logged of the calls of a step. -/
def reportOf (step : Step) (calls : List Call) : List Event :=
  step.executor?.elim [] fun inner ↦ m.report inner calls

@[simp]
theorem reportOf_nil (step : Step) : m.reportOf step [] = [] := by
  rw [reportOf]
  cases step.executor? <;> rfl

/-- What a report says of a call: how it ended, and that it was slow if it was. -/
structure Reports {α : Type} (call : Call) (reply : Reply α) (ending : Event)
    (slow? : Option Event) : Prop where
  /-- A call that succeeds is logged with the severity asked for. -/
  succeeded : ∀ answer, m.outcome reply = .ok answer →
    ending.level = m.level ∧
      ending = .succeeded m.level call.operation call.params.length
        (Text.abbreviate m.maxSqlLength? call.sql)
  /-- A call that fails is logged as an error, with the text of what went wrong. -/
  failed : ∀ error, m.outcome reply = .error error →
    ending.level = .error ∧
      ending = .failed call.operation call.params.length
        (Text.abbreviate m.maxSqlLength? call.sql) error.message
  /-- A call is logged as slow exactly if it took longer than the threshold. -/
  slow : ∀ event, slow? = some event ↔
    ∃ threshold, m.slowThreshold? = some threshold ∧ threshold < reply.elapsed ∧
      event = .slow call.operation (Text.abbreviate m.maxSqlLength? call.sql) threshold
  /-- That is a warning. -/
  warns : ∀ event ∈ slow?, event.level = .warn

/-- A step with a watched executor, beside the same step with one that gives up in time and is not
watched otherwise. -/
structure Transparent (step : Step) (direct watched : Ran StepResult) : Prop where
  /-- The executor that is not watched answers in time what it is asked. -/
  answered : ∀ inner ∈ step.executor?, ∀ call,
    ((inner.limited m.timeout?).reply call).outcome = m.outcome (inner.reply call)
  /-- The answers are the same. -/
  result : watched.result = direct.result
  /-- So are the builders. -/
  builder : watched.builder = direct.builder
  /-- So are the calls. -/
  calls : watched.calls = direct.calls
  /-- There is one call at most. -/
  once : direct.calls.length ≤ 1
  /-- Without a call, the same happens. -/
  quiet : direct.calls = [] → watched.trace = direct.trace
  /-- With a call, the report on it follows what the executor has done, and nothing else does. -/
  reported : ∀ call ∈ direct.calls, ∃ inner ∈ step.executor?,
    ∃ (own : List Event) (ending : Event) (slow? : Option Event),
      direct.trace = own.map .logged ++ (inner.reply call).trace ∧
        watched.trace = own.map .logged ++ (inner.reply call).trace ++
          (ending :: slow?.toList).map .logged ∧
        m.Reports call (inner.reply call) ending slow?

/-- Two runs of which each step of the one is transparent beside the same step of the other. -/
inductive Beside : List Step → List (Ran StepResult) → List (Ran StepResult) → Prop
  /-- Nothing is done. -/
  | nil : Beside [] [] []
  /-- A step is done, and others after it. -/
  | cons {step : Step} {steps : List Step} {direct watched : Ran StepResult}
      {directs watcheds : List (Ran StepResult)} :
      m.Transparent step direct watched → Beside steps directs watcheds →
      Beside (step :: steps) (direct :: directs) (watched :: watcheds)

end Monitor

/-! ### Replies -/

@[simp]
theorem Reply.outcome_withEvents {α : Type} (reply : Reply α) (events : List Event) :
    (reply.withEvents events).outcome = reply.outcome :=
  rfl

/-- Giving up changes neither what has happened nor how long it took. -/
theorem Reply.circumstances_limited {α : Type} (limit? : Option Duration) (reply : Reply α) :
    (reply.limited limit?).trace = reply.trace ∧
      (reply.limited limit?).elapsed = reply.elapsed := by
  unfold limited
  split
  · exact ⟨rfl, rfl⟩
  · split <;> exact ⟨rfl, rfl⟩

/-- An executor that gives up answers what is allowed for. -/
theorem Monitor.outcome_limited {α : Type} (m : Monitor) (reply : Reply α) :
    (reply.limited m.timeout?).outcome = m.outcome reply := by
  unfold Reply.limited outcome
  cases m.timeout? with
  | none => rfl
  | some limit => exact apply_ite Reply.outcome (limit < reply.delay) _ _

/-- A watched executor answers as it does without watching, and logs the report. -/
theorem Executor.ask_watched (m : Monitor) (inner : Executor) (operation : Operation)
    (sql : String) (params : List Parameter) :
    (inner.watched m).ask operation sql params =
      ((inner.limited m.timeout?).ask operation sql params).withEvents
        (m.report inner [⟨operation, sql, params⟩]) := by
  rw [Monitor.report, List.flatMap_singleton]
  rfl

/-- **What the report on a call says.** -/
theorem Monitor.report_reports (m : Monitor) (inner : Executor) (call : Call) :
    ∃ ending slow?, m.report inner [call] = ending :: slow?.toList ∧
      m.Reports call (inner.reply call) ending slow? := by
  have houtcome : ((inner.limited m.timeout?).reply call).outcome = m.outcome (inner.reply call) :=
    m.outcome_limited _
  have helapsed : ((inner.limited m.timeout?).reply call).elapsed = (inner.reply call).elapsed :=
    (Reply.circumstances_limited m.timeout? _).2
  have hslow : ∀ event,
      m.slowEvent? call.operation call.sql ((inner.limited m.timeout?).reply call).elapsed =
          some event ↔
        ∃ threshold, m.slowThreshold? = some threshold ∧ threshold < (inner.reply call).elapsed ∧
          event = .slow call.operation (Text.abbreviate m.maxSqlLength? call.sql) threshold := by
    intro event
    rw [helapsed, slowEvent?]
    cases m.slowThreshold? with
    | none => simp
    | some threshold => simp [eq_comm]
  refine ⟨_, _, List.flatMap_singleton _ _, ?_, ?_, hslow, ?_⟩
  · intro answer hanswer
    rw [houtcome, hanswer]
    exact ⟨rfl, rfl⟩
  · intro error herror
    rw [houtcome, herror]
    exact ⟨rfl, rfl⟩
  · intro event hevent
    obtain ⟨threshold, -, -, rfl⟩ := (hslow event).1 hevent
    rfl

/-! ### Operations -/

namespace Ran

variable {α : Type} (ran : Ran α)

/-- The operation with further events at its end. -/
def withEvents (events : List Event) : Ran α :=
  { ran with trace := ran.trace ++ events.map .logged }

@[simp]
theorem withEvents_nil : ran.withEvents [] = ran := by
  rw [withEvents, List.map_nil, List.append_nil]

/-- Events are not calls. -/
theorem calls_withEvents (events : List Event) : (ran.withEvents events).calls = ran.calls := by
  have hnone := filterMap_call?_logged events []
  rw [List.append_nil, List.filterMap_nil] at hnone
  rw [calls, withEvents, List.filterMap_append, hnone, List.append_nil, calls]

end Ran

namespace Builder

section Watched

variable (m : Monitor) (inner : Executor)

theorem send_watched (b : Builder) (sql : String) :
    b.send (inner.watched m) sql =
      (b.send (inner.limited m.timeout?) sql).withEvents
        (m.report inner [⟨b.kind.operation, sql, b.params.entries⟩]) := by
  rw [send, send]
  cases b.kind with
  | select =>
    simp only [Executor.ask_watched, Reply.outcome_withEvents]
    cases ((inner.limited m.timeout?).ask .query sql b.params.entries).outcome <;> rfl
  | insert | update | delete | upsert =>
    simp only [Executor.ask_watched, Reply.outcome_withEvents]
    rfl

theorem askCount_watched (b : Builder) (sql : String) (params : List Parameter) :
    b.askCount (inner.watched m) sql params =
      (b.askCount (inner.limited m.timeout?) sql params).withEvents
        (m.report inner [⟨.queryScalar, sql, params⟩]) := by
  rw [askCount, askCount]
  simp only [Executor.ask_watched, Reply.outcome_withEvents]
  cases ((inner.limited m.timeout?).ask .queryScalar sql params).outcome <;> rfl

theorem execute_watched (b : Builder) :
    b.execute (inner.watched m) =
      (b.execute (inner.limited m.timeout?)).withEvents
        (m.report inner (b.execute (inner.limited m.timeout?)).calls) := by
  cases hmisuse : b.misuse? with
  | some misuse =>
    rw [execute_of_misuse hmisuse, execute_of_misuse hmisuse]
    exact (Ran.withEvents_nil _).symm
  | none =>
    rw [(execute_effect hmisuse _).1, statementCall_eq_disarm, execute, execute, hmisuse]
    simp only [send_watched, Ran.withEvents, List.append_assoc]

theorem fetchAll_watched (b : Builder) :
    b.fetchAll (inner.watched m) =
      (b.fetchAll (inner.limited m.timeout?)).withEvents
        (m.report inner (b.fetchAll (inner.limited m.timeout?)).calls) := by
  by_cases hkind : b.kind = .select
  · rw [fetchAll_of_select hkind, fetchAll_of_select hkind, execute_watched]
    rfl
  · rw [fetchAll_of_not_select hkind, fetchAll_of_not_select hkind]
    exact (Ran.withEvents_nil _).symm

theorem foundRows_watched (b : Builder) :
    b.foundRows (inner.watched m) =
      (b.foundRows (inner.limited m.timeout?)).withEvents
        (m.report inner (b.foundRows (inner.limited m.timeout?)).calls) := by
  cases hcount : b.found.count? with
  | some count =>
    rw [foundRows_of_count? hcount, foundRows_of_count? hcount]
    exact (Ran.withEvents_nil _).symm
  | none =>
    cases hpending : b.found.pending? with
    | none =>
      rw [foundRows_of_pending?_eq_none hcount hpending,
        foundRows_of_pending?_eq_none hcount hpending]
      exact (Ran.withEvents_nil _).symm
    | some pending =>
      rw [(foundRows_of_pending? hcount hpending _).1, foundRows, foundRows, hcount, hpending]
      cases pending <;> exact askCount_watched m inner b _ _

/-- **A step with a watched executor** is the step without watching, with the report on its calls at
its end. -/
theorem step_watched (b : Builder) (step : Step) :
    b.step (step.over (.watched m)) =
      (b.step (step.over (.limited m.timeout?))).withEvents
        (m.reportOf step (b.step (step.over (.limited m.timeout?))).calls) := by
  cases step with
  | execute inner =>
    rw [Step.over, Step.over, Builder.step, execute_watched]
    rfl
  | fetchAll inner =>
    rw [Step.over, Step.over, Builder.step, fetchAll_watched]
    rfl
  | foundRows inner =>
    rw [Step.over, Step.over, Builder.step, foundRows_watched]
    rfl
  | change | build | debugSql | validate | countSql | foundRowsCached =>
    exact (Ran.withEvents_nil _).symm

end Watched

/-! ### What an executor has done -/

theorem send_trace (b : Builder) (executor : Executor) (sql : String) :
    (b.send executor sql).trace =
      (executor.reply ⟨b.kind.operation, sql, b.params.entries⟩).trace := by
  rw [send]
  cases b.kind with
  | select =>
    dsimp only
    split <;> rfl
  | insert | update | delete | upsert => rfl

theorem askCount_trace (b : Builder) (executor : Executor) (sql : String)
    (params : List Parameter) :
    (b.askCount executor sql params).trace =
      (executor.reply ⟨.queryScalar, sql, params⟩).trace := by
  rw [askCount]
  dsimp only
  split <;> rfl

theorem execute_trace {b : Builder} (h : b.misuse? = none) (executor : Executor) :
    (b.execute executor).trace =
      (b.build.2.disarm.statementEvents b.build.1).map .logged ++
        (executor.reply b.statementCall).trace := by
  rw [statementCall_eq_disarm, ← send_trace, execute, h]

theorem foundRows_trace {b : Builder} {pending : PendingCount} (hcount : b.found.count? = none)
    (hpending : b.found.pending? = some pending) (executor : Executor) :
    (b.foundRows executor).trace = (executor.reply (pending.call b.params.entries)).trace := by
  rw [foundRows, hcount, hpending]
  cases pending <;> exact askCount_trace b executor _ _

/-- **An operation does nothing after its call**: it ends with what the executor has done. -/
theorem trace_of_mem_calls {b : Builder} {step : Step} {call : Call}
    (h : call ∈ (b.step step).calls) :
    ∃ executor ∈ step.executor?, ∃ own : List Event,
      (b.step step).calls = [call] ∧
        (b.step step).trace = own.map .logged ++ (executor.reply call).trace := by
  rcases b.effect step with ⟨_, -, hcalls, -⟩ | ⟨-, hcalls, -⟩ | ⟨hcalls, -⟩ |
    ⟨executor, hstep, hmisuse, hcalls, -⟩ |
    ⟨executor, pending, rfl, hcount, hpending, hcalls, -⟩
  · exact absurd (hcalls ▸ h) List.not_mem_nil
  · exact absurd (hcalls ▸ h) List.not_mem_nil
  · exact absurd (hcalls ▸ h) List.not_mem_nil
  · rw [hcalls, List.mem_singleton] at h
    subst h
    rcases hstep with rfl | ⟨hkind, rfl⟩
    · exact ⟨executor, rfl, _, hcalls, execute_trace hmisuse executor⟩
    · refine ⟨executor, rfl, _, hcalls, Eq.trans ?_ (execute_trace hmisuse executor)⟩
      rw [step, fetchAll_of_select hkind]
      rfl
  · rw [hcalls, List.mem_singleton] at h
    subst h
    exact ⟨executor, rfl, [], hcalls, foundRows_trace hcount hpending executor⟩

/-! ### Runs -/

/-- **A step with a watched executor is transparent.** -/
theorem step_transparent (m : Monitor) (b : Builder) (step : Step) :
    m.Transparent step (b.step (step.over (.limited m.timeout?)))
      (b.step (step.over (.watched m))) := by
  have hstep := step_watched m b step
  constructor
  case answered => exact fun inner _ call ↦ m.outcome_limited _
  case result => rw [hstep]; rfl
  case builder => rw [hstep]; rfl
  case calls => rw [hstep, Ran.calls_withEvents]
  case once => exact b.calls_length_le_one _
  case quiet =>
    intro hcalls
    rw [hstep, hcalls, Monitor.reportOf_nil, Ran.withEvents_nil]
  case reported =>
    intro call hcall
    obtain ⟨executor, hexecutor, own, hcalls, htrace⟩ := trace_of_mem_calls hcall
    rw [Step.executor?_over] at hexecutor
    obtain ⟨inner, hinner, rfl⟩ := Option.map_eq_some_iff.1 hexecutor
    obtain ⟨ending, slow?, hreport, hreports⟩ := m.report_reports inner call
    have hinnerTrace : ((inner.limited m.timeout?).reply call).trace = (inner.reply call).trace :=
      (Reply.circumstances_limited m.timeout? _).1
    rw [hinnerTrace] at htrace
    refine ⟨inner, hinner, own, ending, slow?, htrace, ?_, hreports⟩
    rw [hstep, hcalls, Ran.withEvents, htrace, Monitor.reportOf, hinner, ← hreport]
    rfl

/-- **Watching is transparent over whole runs**: with watched executors, a run comes to the same
answers, builders and calls as with executors that give up in time, and the same happens but for the
reports on the calls, each of which follows its call. -/
theorem run_watched (m : Monitor) (b : Builder) (steps : List Step) :
    m.Beside steps (b.run (steps.map (.over (.limited m.timeout?))))
      (b.run (steps.map (.over (.watched m)))) := by
  induction steps generalizing b with
  | nil => exact .nil
  | cons step steps ih =>
    have htransparent := step_transparent m b step
    rw [List.map_cons, List.map_cons, run, run, htransparent.builder]
    exact .cons htransparent (ih _)

end Builder

end ParamSql
