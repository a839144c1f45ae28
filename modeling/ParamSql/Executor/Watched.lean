import ParamSql.Executor.Basic
import ParamSql.Text.Cut

/-!
# Watching an executor

A watched executor passes every call on. It gives up on a call that takes longer than allowed, logs
how each call ended, and logs again the calls that were slow. Giving up comes first and is an
executor of its own, `Executor.limited`; what watching adds to that is events and nothing else.
-/

namespace ParamSql

/-! ### What is watched for -/

/-- How an executor is watched. -/
structure Monitor where
  /-- The time allowed for a call, if it is bounded. -/
  timeout? : Option Duration := none
  /-- The time from which on a call is slow, if there is one. -/
  slowThreshold? : Option Duration := none
  /-- The severity of the event for a call that succeeds. -/
  level : Level := .debug
  /-- How many bytes of a statement are logged, if there is a bound. -/
  maxSqlLength? : Option Nat := some 200
deriving DecidableEq, Inhabited

namespace Monitor

/-- The monitor with a bound on the time of a call. -/
def withTimeout (m : Monitor) (limit : Duration) : Monitor :=
  { m with timeout? := some limit }

/-- The monitor with a threshold for slow calls. -/
def withSlowThreshold (m : Monitor) (threshold : Duration) : Monitor :=
  { m with slowThreshold? := some threshold }

/-- The monitor with another severity. -/
def withLevel (m : Monitor) (level : Level) : Monitor :=
  { m with level := level }

/-- The monitor that logs at most so many bytes of a statement. -/
def withMaxSqlLength (m : Monitor) (bytes : Nat) : Monitor :=
  { m with maxSqlLength? := some bytes }

/-- The monitor that logs statements in full. -/
def untruncated (m : Monitor) : Monitor :=
  { m with maxSqlLength? := none }

/-! ### What is logged -/

/-- The event for the end of a call. -/
def statementEvent {α : Type} (m : Monitor) (operation : Operation) (paramCount : Nat)
    (sql : String) (outcome : Result α) : Event :=
  let shown := Text.abbreviate m.maxSqlLength? sql
  match outcome with
  | .ok _ => .succeeded m.level operation paramCount shown
  | .error error => .failed operation paramCount shown error.message

/-- The event for a slow call, if it was one. -/
def slowEvent? (m : Monitor) (operation : Operation) (sql : String) (elapsed : Duration) :
    Option Event :=
  match m.slowThreshold? with
  | none => none
  | some threshold =>
    if threshold < elapsed then
      some (.slow operation (Text.abbreviate m.maxSqlLength? sql) threshold)
    else none

/-- All events for a call: how it ended, and that it was slow if it was. -/
def events {α : Type} (m : Monitor) (operation : Operation) (paramCount : Nat) (sql : String)
    (reply : Reply α) : List Event :=
  m.statementEvent operation paramCount sql reply.outcome ::
    (m.slowEvent? operation sql reply.elapsed).toList

end Monitor

/-! ### Replies -/

namespace Reply

variable {α : Type}

/-- What comes of a call that is given up when its answer is waited for longer than allowed. -/
def limited (limit? : Option Duration) (reply : Reply α) : Reply α :=
  match limit? with
  | none => reply
  | some limit =>
    if limit < reply.delay then { reply with outcome := .error (.timeout limit), delay := limit }
    else reply

/-- The reply with further events at its end. -/
def withEvents (reply : Reply α) (events : List Event) : Reply α :=
  { reply with trace := reply.trace ++ events.map .logged }

/-- Giving up does not call back what was called. -/
@[simp]
theorem calls_limited (limit? : Option Duration) (reply : Reply α) :
    (reply.limited limit?).calls = reply.calls := by
  unfold limited
  split
  · rfl
  · split <;> rfl

/-- Events are not calls. -/
@[simp]
theorem calls_withEvents (reply : Reply α) (events : List Event) :
    (reply.withEvents events).calls = reply.calls := by
  simp [withEvents, calls, List.filterMap_map, Function.comp_def, Happening.call?]

end Reply

/-! ### Watched executors -/

namespace Executor

/-- The executor that gives up on calls whose answers are waited for longer than allowed. The call
has reached the executor all the same. -/
def limited (limit? : Option Duration) (inner : Executor) : Executor where
  ask operation sql params := (inner.ask operation sql params).limited limit?
  calls_ask operation sql params :=
    (Reply.calls_limited limit? _).trans (inner.calls_ask operation sql params)

/-- The executor that is watched by a monitor. -/
def watched (m : Monitor) (inner : Executor) : Executor where
  ask operation sql params :=
    let reply := (inner.limited m.timeout?).ask operation sql params
    reply.withEvents (m.events operation params.length sql reply)
  calls_ask operation sql params :=
    (Reply.calls_withEvents _ _).trans ((inner.limited m.timeout?).calls_ask operation sql params)

end Executor

end ParamSql
