import ParamSql.Proofs.Builder.Frozen

/-!
# Counts of rows

What a builder knows of the rows of its last SELECT, compared with what an observer knows who sees
only the calls that reach executors and what these answer. The observer keeps a `Ledger`: the
statement that was handed over last, and the numbers that were counted since.

`Tracks` says that the two agree, and every step keeps them agreeing (`Tracks.step`): handing a
statement over starts a new page of the ledger and arms a count if the statement was a SELECT and
succeeded, and a count that succeeds is entered once and from then on answered from memory. So
everything that is asked for and reported is as the ledger says (`ledger_governs`).
-/

namespace ParamSql

/-! ### What an observer knows -/

/-- The executor that a step brings. -/
def Step.executor? : Step → Option Executor
  | .execute executor | .fetchAll executor | .foundRows executor => some executor
  | .change _ | .build | .debugSql _ | .validate | .countSql | .foundRowsCached => none

/-- A call, and the executor that answered it. -/
structure Exchange where
  /-- The call. -/
  call : Call
  /-- The executor that it reached. -/
  executor : Executor

namespace Exchange

/-- Whether the call was answered with success. -/
def succeeded (x : Exchange) : Bool :=
  x.executor.accepts x.call

/-- The number that was answered, if the call was for one and succeeded. -/
def number? (x : Exchange) : Option Int64 :=
  (x.executor.count x.call).toOption

end Exchange

/-- What an observer of the calls keeps. -/
structure Ledger where
  /-- The statement that was handed over last. -/
  sent? : Option Exchange := none
  /-- The numbers that were counted since, oldest first. -/
  counts : List Int64 := []

namespace Ledger

/-- The ledger after another call. -/
def record (l : Ledger) (x : Exchange) : Ledger :=
  match x.call.operation with
  | .query | .execute => { sent? := some x }
  | .queryScalar => { l with counts := l.counts ++ x.number?.toList }

/-- The ledger after another step of a builder. -/
def note (l : Ledger) (b : Builder) (step : Step) : Ledger :=
  match step.executor? with
  | some executor => ((b.step step).calls.map (Exchange.mk · executor)).foldl record l
  | none => l

/-- The statement that was handed over last is a SELECT and succeeded. -/
def Selected (l : Ledger) (select : Exchange) : Prop :=
  l.sent? = some select ∧ select.call.operation = .query ∧ select.succeeded = true

/-- A count can be asked for: the last statement is a SELECT that succeeded, and the database has
been told to remember the number, or there is a statement that counts. -/
def Armed (l : Ledger) (b : Builder) : Prop :=
  (∃ select, l.Selected select) ∧
    (b.foundRowsMode = .calc ∧ rememberCountKeyword ∈ b.clauses.modifiers ∨
      b.foundRowsMode = .query)

/-- A call for a number is in order: no count has succeeded since the last statement was handed
over, and that is a SELECT that succeeded. The call is for the number that the database was told to
remember, or it is the counting statement, with the parameters of that SELECT. -/
def Allows (l : Ledger) (b : Builder) (call : Call) : Prop :=
  l.counts = [] ∧
    ∃ select, l.Selected select ∧
      (b.foundRowsMode = .calc ∧ "SQL_CALC_FOUND_ROWS" ∈ b.clauses.modifiers ∧
          call = ⟨.queryScalar, "SELECT FOUND_ROWS()", []⟩ ∨
        b.foundRowsMode = .query ∧ b.countSql? = some call.sql ∧ call.params = select.call.params)

end Ledger

/-- The ledger of several steps of a builder. -/
def Builder.ledger (b : Builder) (steps : List Step) (l : Ledger := {}) : Ledger :=
  match steps with
  | [] => l
  | step :: rest => (b.step step).builder.ledger rest (l.note b step)

/-! ### Agreement of builder and ledger -/

/-- Setters do not touch what is known of rows. -/
theorem Builder.changeAll_found (b : Builder) (setters : List Setter) :
    (b.changeAll setters).1.found = b.found := by
  induction setters generalizing b with
  | nil => rfl
  | cons setter setters ih =>
    rw [changeAll_cons, ih, change]
    split
    · rfl
    · cases setter
      case calcFoundRows on =>
        rw [apply]
        split <;> rfl
      all_goals rfl

/-- A builder knows what the ledger says. -/
structure Tracks (b : Builder) (l : Ledger) : Prop where
  /-- The number that is known is the one that was counted. -/
  count : b.found.count? = l.counts.head?
  /-- No more than one was. -/
  once : l.counts.length ≤ 1
  /-- A count can be asked for if the last statement makes one available. -/
  pending : ∀ pending, b.found.pending? = some pending ↔
    (∃ select, l.Selected select) ∧ b.pendingCount? = some pending
  /-- The statement that was handed over last is the one that has been built. -/
  sent : ∀ x, l.sent? = some x → b.isBuilt = true ∧ x.call = b.statementCall
  /-- Nothing is counted but the rows of a SELECT that succeeded. -/
  selected : l.counts ≠ [] → ∃ select, l.Selected select

namespace Tracks

variable {b : Builder} {l : Ledger}

/-- At the beginning nothing is known, and nothing has happened. -/
theorem create (kind : StatementKind) (table : String) (alias? : Option String)
    (settings : Settings) : Tracks (Builder.create kind table alias? settings) {} where
  count := rfl
  once := Nat.zero_le 1
  pending := by
    intro pending
    constructor
    · intro h
      exact nomatch h
    · rintro ⟨⟨select, h, -⟩, -⟩
      exact nomatch h
  sent := fun _ h ↦ nomatch h
  selected := fun h ↦ absurd rfl h

/-- What is kept from a builder to another that knows the same of rows and has the same
statement, if there is one. -/
theorem of_same {b' : Builder} (h : Tracks b l) (hfound : b'.found = b.found)
    (hsame : b.isBuilt = true → b'.isBuilt = true ∧ b'.withoutNotes = b.withoutNotes) :
    Tracks b' l where
  count := by rw [hfound, h.count]
  once := h.once
  pending := by
    intro pending
    rw [hfound, h.pending]
    refine and_congr_right ?_
    -- a statement has been handed over, so it has been built and cannot have changed
    rintro ⟨select, hsent, -⟩
    have hview := (hsame (h.sent select hsent).1).2
    rw [Builder.eq_of_view_eq hview Builder.pendingCount? fun _ ↦ rfl]
  sent := by
    intro x hx
    obtain ⟨hbuilt, hcall⟩ := h.sent x hx
    obtain ⟨hbuilt', hview⟩ := hsame hbuilt
    refine ⟨hbuilt', hcall.trans ?_⟩
    exact (Builder.eq_of_view_eq hview Builder.statementCall
      Builder.statementCall_withoutNotes).symm
  selected := h.selected

/-- Handing a statement over starts a new page. -/
theorem sentTo (b : Builder) (executor : Executor) :
    Tracks (b.sentTo executor) { sent? := some ⟨b.statementCall, executor⟩ } where
  count := rfl
  once := Nat.zero_le 1
  pending := by
    intro pending
    show (if executor.accepts b.statementCall then b.build.2.pendingCount? else none) =
      some pending ↔ _
    constructor
    · intro hpending
      split at hpending
      · rename_i haccepts
        refine ⟨⟨_, rfl, ?_, haccepts⟩, hpending⟩
        have hselect := (Builder.pendingCount?_eq_some_iff.1 hpending).1
        show b.kind.operation = .query
        rw [← Builder.build_kind, hselect]
        rfl
      · exact nomatch hpending
    · rintro ⟨⟨select, hsent, -, hsucceeded⟩, hpending⟩
      obtain rfl := Option.some.inj hsent
      rw [if_pos (show executor.accepts b.statementCall = true from hsucceeded)]
      exact hpending
  sent := by
    intro x hx
    obtain rfl := Option.some.inj hx
    exact ⟨Builder.isBuilt_sentTo b executor, (Builder.statementCall_sentTo b executor).symm⟩
  selected := fun h ↦ absurd rfl h

theorem counts_eq_nil (h : Tracks b l) (hcount : b.found.count? = none) : l.counts = [] := by
  rw [← List.head?_eq_none_iff, ← h.count, hcount]

/-- A count that is asked for is entered if it succeeds. -/
theorem counted (h : Tracks b l) {pending : PendingCount} (hcount : b.found.count? = none)
    (hpending : b.found.pending? = some pending) (x : Exchange) :
    Tracks { b with found.count? := x.number? }
      { l with counts := l.counts ++ x.number?.toList } where
  count := by
    rw [h.counts_eq_nil hcount]
    show x.number? = x.number?.toList.head?
    cases x.number? <;> rfl
  once := by
    rw [h.counts_eq_nil hcount]
    show x.number?.toList.length ≤ 1
    cases x.number? with
    | none => exact Nat.zero_le 1
    | some number => exact Nat.le_refl 1
  pending := h.pending
  sent := by
    intro y hy
    obtain ⟨hbuilt, hcall⟩ := h.sent y hy
    have hview : ({ b with found.count? := x.number? } : Builder).withoutNotes = b.withoutNotes :=
      rfl
    refine ⟨hbuilt, hcall.trans ?_⟩
    exact (Builder.eq_of_view_eq hview Builder.statementCall
      Builder.statementCall_withoutNotes).symm
  selected := fun _ ↦ ((h.pending pending).1 hpending).1

/-- **Each step keeps builder and ledger agreeing.** -/
theorem step (h : Tracks b l) (step : Step) : Tracks (b.step step).builder (l.note b step) := by
  have hquiet (hcalls : (b.step step).calls = []) : l.note b step = l := by
    rw [Ledger.note, hcalls]
    cases step.executor? <;> rfl
  have hsame (hbuilt : b.isBuilt = true) :
      (b.step step).builder.isBuilt = true ∧
        (b.step step).builder.withoutNotes = b.withoutNotes :=
    ⟨Builder.isBuilt_step hbuilt step, Builder.step_withoutNotes hbuilt step⟩
  rcases b.effect step with ⟨setters, -, hcalls, hbuilder⟩ | ⟨-, hcalls, hbuilder⟩ |
    ⟨hcalls, hbuilder⟩ | ⟨executor, hstep, -, hcalls, hbuilder⟩ |
    ⟨executor, pending, rfl, hcount, hpending, hcalls, hbuilder⟩
  · rw [hquiet hcalls]
    exact h.of_same (by rw [hbuilder, Builder.changeAll_found]) hsame
  · rw [hquiet hcalls]
    exact h.of_same (by rw [hbuilder, (Builder.build_notes b).1]) hsame
  · rw [hquiet hcalls]
    exact h.of_same (by rw [hbuilder]) hsame
  · have hexecutor : step.executor? = some executor := by
      rcases hstep with rfl | ⟨-, rfl⟩ <;> rfl
    -- no kind of statement is run as a query for a number
    have hnote : l.note b step = { sent? := some ⟨b.statementCall, executor⟩ } := by
      rw [Ledger.note, hexecutor, hcalls]
      show l.record ⟨b.statementCall, executor⟩ = _
      rw [Ledger.record]
      show (match b.kind.operation with | .query | .execute => _ | .queryScalar => _) = _
      cases b.kind <;> rfl
    rw [hnote, hbuilder]
    exact sentTo b executor
  · have hnote : l.note b (.foundRows executor) =
        { l with counts := l.counts ++
            (Exchange.mk (pending.call b.params.entries) executor).number?.toList } := by
      rw [Ledger.note, hcalls]
      cases pending <;> rfl
    rw [hnote, hbuilder]
    exact h.counted hcount hpending ⟨pending.call b.params.entries, executor⟩

/-- Builder and ledger agree after any steps. -/
theorem after (h : Tracks b l) (steps : List Step) :
    Tracks (b.after steps) (b.ledger steps l) := by
  induction steps generalizing b l with
  | nil => exact h
  | cons step steps ih => exact ih (h.step step)

/-- There is a count to ask for if and only if the ledger says so. -/
theorem exists_pending?_iff (h : Tracks b l) :
    (∃ pending, b.found.pending? = some pending) ↔ l.Armed b := by
  constructor
  · rintro ⟨pending, hpending⟩
    obtain ⟨hselect, hcount⟩ := (h.pending pending).1 hpending
    obtain ⟨-, ⟨hmode, hmodifier, -⟩ | ⟨hmode, -⟩⟩ := Builder.pendingCount?_eq_some_iff.1 hcount
    · exact ⟨hselect, .inl ⟨hmode, hmodifier⟩⟩
    · exact ⟨hselect, .inr hmode⟩
  · rintro ⟨⟨select, hsent, hoperation, hsucceeded⟩, hmode⟩
    have hkind : b.kind = .select := by
      rw [(h.sent select hsent).2] at hoperation
      change b.kind.operation = .query at hoperation
      cases hb : b.kind with
      | select => rfl
      | insert | update | delete | upsert =>
        rw [hb] at hoperation
        exact nomatch hoperation
    have harmed (pending : PendingCount) (hpending : b.pendingCount? = some pending) :
        ∃ pending, b.found.pending? = some pending :=
      ⟨pending, (h.pending pending).2 ⟨⟨select, hsent, hoperation, hsucceeded⟩, hpending⟩⟩
    rcases hmode with ⟨hmode, hmodifier⟩ | hmode
    · exact harmed .remembered
        (Builder.pendingCount?_eq_some_iff.2 ⟨hkind, .inl ⟨hmode, hmodifier, rfl⟩⟩)
    · exact harmed (.counted b.clauses.countSql)
        (Builder.pendingCount?_eq_some_iff.2 ⟨hkind, .inr ⟨hmode, rfl⟩⟩)

/-- The number that was counted is the only one. -/
theorem head?_eq_some (h : Tracks b l) {count : Int64} (hcount : count ∈ l.counts) :
    l.counts.head? = some count := by
  cases hcounts : l.counts with
  | nil => exact absurd (hcounts ▸ hcount) List.not_mem_nil
  | cons first rest =>
    have honce := h.once
    rw [hcounts, List.length_cons] at honce
    have hrest : rest = [] := List.length_eq_zero_iff.1 (by omega)
    rw [hcounts, hrest, List.mem_singleton] at hcount
    rw [hcount, List.head?_cons]

/-- **No number is asked for out of order.** -/
theorem asked (h : Tracks b l) {step : Step} {call : Call} (hcall : call ∈ (b.step step).calls)
    (hoperation : call.operation = .queryScalar) :
    (∃ executor, step = .foundRows executor) ∧ l.Allows b call := by
  rcases Builder.mem_calls hcall with
    ⟨rfl, -⟩ | ⟨executor, pending, hstep, hcount, hpending, rfl⟩
  · exact absurd hoperation b.kind.operation_ne_queryScalar
  · obtain ⟨⟨select, hselect⟩, havailable⟩ := (h.pending pending).1 hpending
    refine ⟨⟨executor, hstep⟩, h.counts_eq_nil hcount, select, hselect, ?_⟩
    obtain ⟨hbuilt, hsent⟩ := h.sent select hselect.1
    obtain ⟨hkind, ⟨hmode, hmodifier, rfl⟩ | ⟨hmode, rfl⟩⟩ :=
      Builder.pendingCount?_eq_some_iff.1 havailable
    · exact .inl ⟨hmode, hmodifier, rfl⟩
    · refine .inr ⟨hmode, ?_, ?_⟩
      · rw [Builder.countSql?, hkind]
        rfl
      -- the parameters now are still those that the SELECT was handed over with
      · rw [hsent, Builder.statementCall_of_isBuilt hbuilt]
        rfl

/-- **Handing a statement over forgets what was counted before.** -/
theorem forgotten (h : Tracks b l) {step : Step} {call : Call}
    (hcall : call ∈ (b.step step).calls) (hoperation : call.operation ≠ .queryScalar) :
    (l.note b step).counts = [] ∧ (b.step step).builder.foundRowsCached = -1 := by
  rcases Builder.mem_calls hcall with ⟨-, executor, -, hbuilder⟩ | ⟨_, pending, -, -, -, rfl⟩
  · have hcount : (b.step step).builder.found.count? = none := by
      rw [hbuilder]
      rfl
    refine ⟨(h.step step).counts_eq_nil hcount, ?_⟩
    rw [Builder.foundRowsCached, FoundRows.cached, hcount]
    rfl
  · exact absurd (pending.operation_call _) hoperation

theorem foundRowsCached (h : Tracks b l) : b.foundRowsCached = l.counts.head?.getD (-1) := by
  rw [Builder.foundRowsCached, FoundRows.cached, h.count]
  rfl

end Tracks

/-! ### What is asked for and reported -/

/-- A number that has been answered is known from then on. -/
theorem Builder.foundRowsCached_of_foundRows_eq_ok {b : Builder} {executor : Executor}
    {count : Int64} (h : (b.foundRows executor).result = .ok count) :
    (b.foundRows executor).builder.foundRowsCached = count := by
  cases hcount : b.found.count? with
  | some known =>
    rw [foundRows_of_count? hcount] at h ⊢
    obtain rfl := Except.ok.inj h
    rw [foundRowsCached, FoundRows.cached, hcount]
    rfl
  | none =>
    cases hpending : b.found.pending? with
    | none =>
      rw [foundRows_of_pending?_eq_none hcount hpending] at h ⊢
      obtain rfl := Except.ok.inj h
      rw [foundRowsCached, FoundRows.cached, hcount]
      rfl
    | some pending =>
      obtain ⟨-, hresult, hbuilder⟩ := foundRows_of_pending? hcount hpending executor
      rw [hbuilder, ← hresult, h]
      rfl

/-- What a ledger says about its builder: about the calls of the next step, and about the numbers
that are reported. -/
structure Ledger.Governs (l : Ledger) (b : Builder) : Prop where
  /-- A step reaches an executor once at most. -/
  single : ∀ step, (b.step step).calls.length ≤ 1
  /-- A statement is handed over by running it only. -/
  sent : ∀ step, ∀ call ∈ (b.step step).calls, call.operation ≠ .queryScalar →
    ∃ executor, step = .execute executor ∨ step = .fetchAll executor
  /-- A number is asked for only by whoever asks for the number of rows, and only if that is in
  order. -/
  asked : ∀ step, ∀ call ∈ (b.step step).calls, call.operation = .queryScalar →
    (∃ executor, step = .foundRows executor) ∧ l.Allows b call
  /-- At most one count succeeds for a statement. -/
  once : l.counts.length ≤ 1
  /-- It succeeds only for a SELECT that succeeded. -/
  selected : l.counts ≠ [] → ∃ select, l.Selected select
  /-- The number that is shown is the one that was counted since the last statement. -/
  cached : b.foundRowsCached = l.counts.head?.getD (-1)
  /-- So is the number that is answered, be it counted before or just now. -/
  reported : ∀ executor count, (b.foundRows executor).result = .ok count →
    count = (l.note b (.foundRows executor)).counts.head?.getD (-1)
  /-- What has been counted is answered without a call. -/
  known : ∀ count ∈ l.counts, ∀ executor, b.foundRows executor = ⟨.ok count, b, []⟩
  /-- What has not been counted is asked for if a count is armed, and the answer is passed on. -/
  armed : l.counts = [] → l.Armed b → ∀ executor, ∃ call,
    (b.foundRows executor).calls = [call] ∧ (b.foundRows executor).result = executor.count call
  /-- If none is, the number is not known, and there is no call. -/
  unknown : l.counts = [] → ¬l.Armed b → ∀ executor, b.foundRows executor = ⟨.ok (-1), b, []⟩
  /-- Once another statement has been handed over, no earlier count is shown any more. -/
  forgotten : ∀ step, ∀ call ∈ (b.step step).calls, call.operation ≠ .queryScalar →
    (l.note b step).counts = [] ∧ (b.step step).builder.foundRowsCached = -1

/-- A ledger that a builder agrees with governs it. -/
theorem Tracks.governs {b : Builder} {l : Ledger} (h : Tracks b l) : l.Governs b := by
  have hnone (hcounts : l.counts = []) : b.found.count? = none := by
    rw [h.count, hcounts]
    rfl
  constructor
  case single => exact b.calls_length_le_one
  case sent =>
    intro step call hcall hoperation
    rcases Builder.mem_calls hcall with ⟨-, executor, hstep, -⟩ | ⟨_, pending, -, -, -, rfl⟩
    · exact ⟨executor, hstep⟩
    · exact absurd (pending.operation_call _) hoperation
  case asked =>
    intro step call hcall hoperation
    exact h.asked hcall hoperation
  case once => exact h.once
  case selected => exact h.selected
  case cached => exact h.foundRowsCached
  case reported =>
    intro executor count hresult
    rw [← (h.step (.foundRows executor)).foundRowsCached]
    exact (Builder.foundRowsCached_of_foundRows_eq_ok hresult).symm
  case known =>
    intro count hcount executor
    exact Builder.foundRows_of_count? (h.count.trans (h.head?_eq_some hcount)) executor
  case armed =>
    intro hcounts harmed executor
    obtain ⟨pending, hpending⟩ := h.exists_pending?_iff.2 harmed
    obtain ⟨hcalls, hresult, -⟩ :=
      Builder.foundRows_of_pending? (hnone hcounts) hpending executor
    exact ⟨_, hcalls, hresult⟩
  case unknown =>
    intro hcounts harmed executor
    have hpending : b.found.pending? = none := by
      rw [Option.eq_none_iff_forall_ne_some]
      intro pending hpending
      exact harmed (h.exists_pending?_iff.1 ⟨pending, hpending⟩)
    exact Builder.foundRows_of_pending?_eq_none (hnone hcounts) hpending executor
  case forgotten =>
    intro step call hcall hoperation
    exact h.forgotten hcall hoperation

/-- **Counts follow the statements that were handed over**: after whatever has been done with a
builder, the ledger of it says what is asked for next and what is reported. -/
theorem Builder.ledger_governs (kind : StatementKind) (table : String) (alias? : Option String)
    (settings : Settings) (steps : List Step) :
    ((create kind table alias? settings).ledger steps).Governs
      ((create kind table alias? settings).after steps) :=
  ((Tracks.create kind table alias? settings).after steps).governs

end ParamSql
