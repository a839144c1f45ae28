import ParamSql.Builder.Run
import Mathlib.Tactic.Common

/-!
# Steps of a builder

What later statements about runs rest on: a list of setters is called one after the other
(`changeAll_cons`), building changes nothing but the condition, the parameters and the text
(`build_keeps`), and what every step keeps is kept by the builder that several steps leave
(`after_invariant`, with `after` for that builder).
-/

namespace ParamSql

namespace Ran

variable {α : Type}

/-- The calls that reached an executor meanwhile. -/
def calls (ran : Ran α) : List Call :=
  ran.trace.filterMap Happening.call?

/-- The events that were logged meanwhile. -/
def events (ran : Ran α) : List Event :=
  ran.trace.filterMap Happening.event?

end Ran

namespace Builder

/-- Builders that look the same from some point of view agree in whatever can be seen from there. -/
theorem eq_of_view_eq {α : Type} {view : Builder → Builder} {b₁ b₂ : Builder}
    (h : view b₁ = view b₂) (f : Builder → α) (hf : ∀ b, f (view b) = f b) : f b₁ = f b₂ := by
  rw [← hf b₁, h, hf]

/-! ### Lists of setters -/

@[simp]
theorem changeAll_nil (b : Builder) : b.changeAll [] = (b, []) :=
  rfl

/-- The events of several setters are collected behind those there are already. -/
theorem foldl_change (setters : List Setter) (b : Builder) (events : List Event) :
    setters.foldl
        (fun (b, events) setter ↦
          let (b, more) := b.change setter
          (b, events ++ more))
        (b, events) =
      ((b.changeAll setters).1, events ++ (b.changeAll setters).2) := by
  induction setters generalizing b events with
  | nil => rw [List.foldl_nil, changeAll_nil, List.append_nil]
  | cons setter setters ih =>
    rw [changeAll, List.foldl_cons, List.foldl_cons, ih, ih, List.nil_append, List.append_assoc]

theorem changeAll_cons (b : Builder) (setter : Setter) (setters : List Setter) :
    b.changeAll (setter :: setters) =
      (((b.change setter).1.changeAll setters).1,
        (b.change setter).2 ++ ((b.change setter).1.changeAll setters).2) :=
  foldl_change setters _ _

/-! ### What building leaves as it is -/

/-- Compiling filters changes the parameters and the condition only. -/
theorem withFilters_keeps {α : Type} (b : Builder) (view : Builder → α)
    (hview : ∀ (b : Builder) params condition,
      view { b with params, clauses.condition := condition } = view b) :
    view b.withFilters = view b := by
  unfold withFilters
  split
  · exact hview b _ _
  · rfl

/-- Building changes these and the text only. -/
theorem build_keeps {α : Type} (b : Builder) (view : Builder → α)
    (hview : ∀ (b : Builder) params condition built?,
      view { b with params, built?, clauses.condition := condition } = view b) :
    view b.build.2 = view b := by
  have hfilters : view b.withFilters = view b :=
    b.withFilters_keeps view fun b params condition ↦ hview b params condition b.built?
  unfold build
  split
  · rfl
  · exact (hview b.withFilters _ _ _).trans hfilters

/-! ### What never changes -/

/-- What a builder was made with and keeps: its kind, its alias and its settings. -/
def origin (b : Builder) : StatementKind × Option String × Settings :=
  (b.kind, b.alias?, b.settings)

theorem apply_origin (b : Builder) (setter : Setter) : (b.apply setter).origin = b.origin := by
  cases setter
  case calcFoundRows on =>
    simp only [apply]
    split <;> rfl
  all_goals rfl

theorem change_origin (b : Builder) (setter : Setter) :
    (b.change setter).1.origin = b.origin := by
  unfold change
  split
  · rfl
  · exact apply_origin b setter

theorem changeAll_origin (b : Builder) (setters : List Setter) :
    (b.changeAll setters).1.origin = b.origin := by
  induction setters generalizing b with
  | nil => rfl
  | cons setter setters ih => rw [changeAll_cons, ih, change_origin]

theorem build_origin (b : Builder) : b.build.2.origin = b.origin :=
  b.build_keeps origin fun _ _ _ _ ↦ rfl

theorem build_kind (b : Builder) : b.build.2.kind = b.kind :=
  congrArg Prod.fst (build_origin b)

/-! ### Runs -/

/-- The builder after several steps. -/
def after (b : Builder) (steps : List Step) : Builder :=
  steps.foldl (fun b step ↦ (b.step step).builder) b

@[simp]
theorem after_nil (b : Builder) : b.after [] = b :=
  rfl

@[simp]
theorem after_cons (b : Builder) (step : Step) (steps : List Step) :
    b.after (step :: steps) = (b.step step).builder.after steps :=
  rfl

theorem after_append (b : Builder) (first second : List Step) :
    b.after (first ++ second) = (b.after first).after second :=
  List.foldl_append

/-- What every step keeps, several steps keep. -/
theorem after_invariant {P : Builder → Prop}
    (hstep : ∀ (b : Builder) (step : Step), P b → P (b.step step).builder) {b : Builder} (hb : P b)
    (steps : List Step) : P (b.after steps) := by
  induction steps generalizing b with
  | nil => exact hb
  | cons step steps ih => exact ih (hstep b step hb)

end Builder

end ParamSql
