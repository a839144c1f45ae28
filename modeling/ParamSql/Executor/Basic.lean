import ParamSql.Event
import ParamSql.Param.Basic

/-!
# Executors

An executor runs statements: a connection, a transaction, or something that stands in for one. It
takes what it is asked to what comes of it. The answer carries its circumstances along: how long it
took, on the scheduler's clock and on the wall clock, and what was called and logged on the way,
where every call is noted once. A history of calls is a list of executors, so nothing has to be
assumed about how a database behaves from one call to the next.
-/

namespace ParamSql

/-- A row of a result. -/
abbrev Row :=
  List Value

/-- What an operation answers when it succeeds. -/
abbrev Operation.Answer : Operation → Type
  | query => List Row
  | execute => UInt64
  | queryScalar => Int64

/-- A call that reached an executor. -/
structure Call where
  /-- What was asked for. -/
  operation : Operation
  /-- The statement. -/
  sql : String
  /-- The parameters bound to it. -/
  params : List Parameter
deriving DecidableEq

/-- Something that happened: a call, or an event that was logged. -/
inductive Happening
  /-- A call reached an executor. -/
  | called (call : Call)
  /-- An event was logged. -/
  | logged (event : Event)
deriving DecidableEq

/-- The call in a happening, if it is one. -/
def Happening.call? : Happening → Option Call
  | called call => some call
  | logged _ => none

/-- The event in a happening, if it is one. -/
def Happening.event? : Happening → Option Event
  | called _ => none
  | logged event => some event

/-- What comes of a call. -/
structure Reply (α : Type) where
  /-- The answer, or why there is none. -/
  outcome : Result α
  /-- How long the answer was waited for, on the clock that timeouts are measured with. -/
  delay : Duration
  /-- How long the call took on the wall clock, until it was answered or given up. -/
  elapsed : Duration
  /-- What happened meanwhile, in order. -/
  trace : List Happening

/-- The calls among what happened. -/
def Reply.calls {α : Type} (reply : Reply α) : List Call :=
  reply.trace.filterMap Happening.call?

/-- Something that runs statements. -/
structure Executor where
  /-- What comes of a call. -/
  ask : (operation : Operation) → (sql : String) → (params : List Parameter) →
    Reply operation.Answer
  /-- A call is noted as it was made, and no other call is. -/
  calls_ask : ∀ operation sql params, (ask operation sql params).calls = [⟨operation, sql, params⟩]

/-! ### Executors that follow a script -/

/-- What an executor answers whatever it is asked. -/
structure Script where
  /-- The rows of every query. -/
  rows : List Row := []
  /-- The number of rows changed by every statement that changes rows. -/
  affected : UInt64 := 0
  /-- The integer of every query for one. -/
  scalar : Int64 := 0
  /-- The error of every call; none of the above is answered then. -/
  error? : Option Error := none
  /-- How long every answer is waited for. -/
  delay : Duration := ⟨0⟩

namespace Script

/-- The answer to an operation. -/
def answer (s : Script) : (operation : Operation) → operation.Answer
  | .query => s.rows
  | .execute => s.affected
  | .queryScalar => s.scalar

/-- The executor that follows a script. It takes next to no time on the wall clock, but not none. -/
def executor (s : Script) : Executor where
  ask operation sql params :=
    { outcome := match s.error? with
        | some error => .error error
        | none => .ok (s.answer operation)
      delay := s.delay
      elapsed := ⟨1⟩
      trace := [.called ⟨operation, sql, params⟩] }
  calls_ask _ _ _ := rfl

end Script

end ParamSql
