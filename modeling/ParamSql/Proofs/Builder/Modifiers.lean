import ParamSql.Proofs.Builder.Said
import ParamSql.Proofs.Statement.Modifiers

/-!
# The modifiers of a builder

Two setters switch a modifier, and one of them only if counts are remembered by the database
(`Setter.switch?`). The modifiers of a builder are what those switches leave on that were made in
time (`leaves_after`): whatever else is done, the history of switches is all that they depend on,
and what they can be is read off the switches that there are.
-/

namespace ParamSql

/-! ### The switch that a setter makes -/

/-- The modifier that a setter switches on or off, if it does, given where counts come from. -/
def Setter.switch? (mode : FoundRowsMode) : Setter → Option (String × Bool)
  | distinct on => some (distinctKeyword, on)
  | calcFoundRows on => if mode = .calc then some (rememberCountKeyword, on) else none
  | _ => none

/-- **The switches that there are.** -/
theorem Setter.switch?_eq_some {mode : FoundRowsMode} {setter : Setter} {keyword : String}
    {on : Bool} (h : setter.switch? mode = some (keyword, on)) :
    keyword = distinctKeyword ∨ keyword = rememberCountKeyword ∧ mode = .calc := by
  cases setter
  case distinct =>
    obtain ⟨rfl, -⟩ := Prod.mk.inj (Option.some.inj h)
    exact .inl rfl
  case calcFoundRows =>
    obtain ⟨hmode, hswitch⟩ := Option.ite_none_right_eq_some.1 h
    obtain ⟨rfl, -⟩ := Prod.mk.inj (Option.some.inj hswitch)
    exact .inr ⟨rfl, hmode⟩
  all_goals exact nomatch h

namespace Builder

/-- The modifiers that are switched in time, in a run. -/
def switchesIn (b : Builder) (steps : List Step) : Switches :=
  (b.saidIn steps).filterMap (Setter.switch? b.foundRowsMode)

/-! ### What one setter does -/

/-- A setter does to the modifiers what its switch does, and nothing if it has none. -/
theorem modifiers_apply_eq_toggleAll (b : Builder) (setter : Setter) :
    (b.apply setter).clauses.modifiers =
      (b.clauses.toggleAll (setter.switch? b.foundRowsMode).toList).modifiers := by
  cases setter
  case calcFoundRows on =>
    rw [apply, Setter.switch?]
    split <;> rfl
  case assign occasion column value => cases occasion <;> rfl
  case assignRaw occasion column expression => cases occasion <;> rfl
  all_goals rfl

theorem foundRowsMode_apply (b : Builder) (setter : Setter) :
    (b.apply setter).foundRowsMode = b.foundRowsMode :=
  congrArg (·.2.2.foundRows) (apply_origin b setter)

/-! ### What a run does -/

/-- Setters go on from what earlier switches have left. -/
theorem leaves_foldl_apply {mode : FoundRowsMode} {b : Builder} {before : Switches}
    (hmode : b.foundRowsMode = mode) (h : before.Leaves b.clauses.modifiers)
    (setters : List Setter) :
    Switches.Leaves (before ++ setters.filterMap (Setter.switch? mode))
      (setters.foldl apply b).clauses.modifiers := by
  induction setters generalizing b before with
  | nil => rwa [List.filterMap_nil, List.append_nil]
  | cons setter setters ih =>
    have hfirst : Switches.Leaves (before ++ (setter.switch? mode).toList)
        (b.apply setter).clauses.modifiers := by
      rw [modifiers_apply_eq_toggleAll, hmode]
      exact Clauses.leaves_append_toggleAll h _
    have hcons : (setter :: setters).filterMap (Setter.switch? mode) =
        (setter.switch? mode).toList ++ setters.filterMap (Setter.switch? mode) := by
      rw [List.filterMap_cons]
      cases setter.switch? mode <;> rfl
    rw [List.foldl_cons, hcons, ← List.append_assoc]
    exact ih ((foundRowsMode_apply b setter).trans hmode) hfirst

/-- Building leaves the modifiers as they are. -/
theorem modifiers_build (b : Builder) : b.build.2.clauses.modifiers = b.clauses.modifiers :=
  b.build_keeps (·.clauses.modifiers) fun _ _ _ _ ↦ rfl

/-- **The modifiers of a builder** are what the switches made in time leave on, whatever else is
done. -/
theorem leaves_after {b : Builder} (hopen : b.isBuilt = false) (hnone : b.clauses.modifiers = [])
    (steps : List Step) : (b.switchesIn steps).Leaves (b.after steps).clauses.modifiers := by
  have hsaid : (b.after steps).clauses.modifiers = (b.asSaid steps).clauses.modifiers := by
    rw [← modifiers_build, (build_after b steps).2.1, modifiers_build]
  rw [hsaid, asSaid, changeAll_eq_foldl hopen]
  exact leaves_foldl_apply rfl (hnone ▸ Switches.leaves_nil) (b.saidIn steps)

/-- What is on has been switched on by a setter. -/
theorem switch?_of_isOn_switchesIn {b : Builder} {steps : List Step} {keyword : String}
    (h : (b.switchesIn steps).IsOn keyword) :
    ∃ setter ∈ b.saidIn steps, setter.switch? b.foundRowsMode = some (keyword, true) :=
  List.mem_filterMap.1 (Switches.mem_of_isOn h)

theorem modifiers_create (kind : StatementKind) (table : String) (alias? : Option String)
    (settings : Settings) : (create kind table alias? settings).clauses.modifiers = [] := by
  cases kind <;> rfl

/-- **Modifiers are a set that remembers its order.** The keywords that switches leave, starting
from none, are those that were switched on when they were last switched, each once and in the order
in which they were last turned from off to on, and no other list is this one. The modifiers of a
builder are what the switches made in time leave, whatever is done with it; they are among
`DISTINCT` and `SQL_CALC_FOUND_ROWS`, and the latter is one of them only if counts are remembered by
the database. -/
theorem modifiers_left_on :
    (∀ (switches : Switches) (keywords : List String),
        switches.Leaves keywords ↔ keywords = (Clauses.toggleAll {} switches).modifiers) ∧
      ∀ (kind : StatementKind) (table : String) (alias? : Option String) (settings : Settings)
        (steps : List Step),
        let start := create kind table alias? settings
        let now := start.after steps
        (start.switchesIn steps).Leaves now.clauses.modifiers ∧
          now.clauses.modifiers ⊆ ["DISTINCT", "SQL_CALC_FOUND_ROWS"] ∧
          ("SQL_CALC_FOUND_ROWS" ∈ now.clauses.modifiers → now.foundRowsMode = .calc) := by
  refine ⟨Clauses.leaves_iff_eq_toggleAll, fun kind table alias? settings steps ↦ ?_⟩
  intro start now
  have hleaves : (start.switchesIn steps).Leaves now.clauses.modifiers :=
    leaves_after rfl (modifiers_create kind table alias? settings) steps
  have hkeywords : ∀ keyword ∈ now.clauses.modifiers,
      keyword = distinctKeyword ∨
        keyword = rememberCountKeyword ∧ start.foundRowsMode = .calc := by
    intro keyword hmem
    obtain ⟨setter, -, hswitch⟩ := switch?_of_isOn_switchesIn ((hleaves.mem_iff keyword).1 hmem)
    exact Setter.switch?_eq_some hswitch
  have hmode : now.foundRowsMode = start.foundRowsMode :=
    congrArg (·.2.2.foundRows) (after_origin start steps)
  refine ⟨hleaves, fun keyword hmem ↦ ?_, fun hmem ↦ ?_⟩
  · rcases hkeywords keyword hmem with rfl | ⟨rfl, -⟩
    · exact List.mem_cons_self
    · exact List.mem_cons_of_mem _ List.mem_cons_self
  · obtain hdistinct | ⟨-, hcalc⟩ := hkeywords _ hmem
    · exact absurd hdistinct (by decide)
    · exact hmode.trans hcalc

/-- Distinct rows are asked for, then not, then again, and then, too late, not. -/
theorem modifiers_left_on_select :
    let steps : List Step :=
      [.change [.distinct true, .calcFoundRows true], .validate, .change [.distinct false],
        .change [.select ["id"], .distinct true], .build, .change [.distinct false]]
    let start := create .select "users" none {}
    let now := start.after steps
    start.switchesIn steps =
        [("DISTINCT", true), ("SQL_CALC_FOUND_ROWS", true), ("DISTINCT", false),
          ("DISTINCT", true)] ∧
      now.clauses.modifiers = ["SQL_CALC_FOUND_ROWS", "DISTINCT"] ∧ now.foundRowsMode = .calc := by
  intro steps start now
  have hswitches : start.switchesIn steps =
      [("DISTINCT", true), ("SQL_CALC_FOUND_ROWS", true), ("DISTINCT", false),
        ("DISTINCT", true)] := by
    decide +kernel
  obtain ⟨hlists, hbuilders⟩ := modifiers_left_on
  obtain ⟨hleaves, -, hmode⟩ := hbuilders .select "users" none {} steps
  have hmodifiers : now.clauses.modifiers = ["SQL_CALC_FOUND_ROWS", "DISTINCT"] := by
    rw [(hlists _ _).1 hleaves, hswitches]
    decide
  exact ⟨hswitches, hmodifiers, hmode (by rw [hmodifiers]; exact List.mem_cons_self)⟩

end Builder

end ParamSql
