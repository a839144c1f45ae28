import ParamSql.Filter.Basic
import Mathlib.Data.List.Forall2

/-!
# Three-valued truth

A condition on a row holds, fails, or is unknown, because a comparison with an absent value is
unknown. A row meets a condition only if it *holds*. What is proved here is therefore about holding
alone: conjunctions hold when all parts hold and disjunctions when some part does, whichever of the
other two values the remaining parts have.
-/

namespace ParamSql

/-- The truth of a condition for a row. -/
inductive Truth
  /-- The condition is met. -/
  | holds
  /-- It cannot be said whether the condition is met. -/
  | unknown
  /-- The condition is not met. -/
  | fails
deriving DecidableEq

namespace Truth

/-- The truth of something that can be decided. -/
def ofBool (b : Bool) : Truth :=
  if b then holds else fails

/-- Conjunction: fails as soon as a part fails. -/
def and : Truth → Truth → Truth
  | holds, t => t
  | fails, _ => fails
  | unknown, fails => fails
  | unknown, _ => unknown

/-- Disjunction: holds as soon as a part holds. -/
def or : Truth → Truth → Truth
  | fails, t => t
  | holds, _ => holds
  | unknown, holds => holds
  | unknown, _ => unknown

/-- The conjunction of several parts. -/
def all (parts : List Truth) : Truth :=
  parts.foldr and holds

/-- The disjunction of several parts. -/
def any (parts : List Truth) : Truth :=
  parts.foldr or fails

/-! ### Holding -/

@[simp]
theorem and_eq_holds_iff {s t : Truth} : s.and t = holds ↔ s = holds ∧ t = holds := by
  cases s <;> cases t <;> decide

@[simp]
theorem or_eq_holds_iff {s t : Truth} : s.or t = holds ↔ s = holds ∨ t = holds := by
  cases s <;> cases t <;> decide

theorem all_eq_holds_iff {parts : List Truth} : all parts = holds ↔ ∀ t ∈ parts, t = holds := by
  induction parts with
  | nil => simp [all]
  | cons t parts ih =>
    rw [List.forall_mem_cons, ← ih]
    exact and_eq_holds_iff

theorem any_eq_holds_iff {parts : List Truth} : any parts = holds ↔ ∃ t ∈ parts, t = holds := by
  induction parts with
  | nil => simp [any]
  | cons t parts ih =>
    rw [List.exists_mem_cons_iff, ← ih]
    exact or_eq_holds_iff

/-- Conjunction from the left holds when all parts hold. -/
theorem foldl_and_eq_holds_iff {t : Truth} {parts : List Truth} :
    parts.foldl and t = holds ↔ t = holds ∧ ∀ s ∈ parts, s = holds := by
  induction parts generalizing t with
  | nil => simp
  | cons s parts ih => rw [List.foldl_cons, ih, and_eq_holds_iff, List.forall_mem_cons, and_assoc]

/-- Disjunction from the left holds when some part holds. -/
theorem foldl_or_eq_holds_iff {t : Truth} {parts : List Truth} :
    parts.foldl or t = holds ↔ t = holds ∨ ∃ s ∈ parts, s = holds := by
  induction parts generalizing t with
  | nil => simp
  | cons s parts ih => rw [List.foldl_cons, ih, or_eq_holds_iff, List.exists_mem_cons_iff, or_assoc]

end Truth

/-! ### Comparing -/

/-- How a database compares two values that are both present. Nothing is assumed about it. -/
abbrev Collation :=
  Comparison → Value → Value → Bool

namespace Collation

/-- The truth of a comparison: unknown as soon as a value is absent. -/
def truth (collation : Collation) (comparison : Comparison) (a b : Value) : Truth :=
  if a.isNull || b.isNull then .unknown else .ofBool (collation comparison a b)

/-- The truth of membership: the disjunction of the equalities with the members. -/
def memberTruth (collation : Collation) (a : Value) (members : List Value) : Truth :=
  .any (members.map (collation.truth .equal a))

/-- A comparison with the absent value never holds. -/
theorem truth_null_ne_holds {collation : Collation} {comparison : Comparison} {a b : Value}
    (hb : b.isNull = true) : collation.truth comparison a b ≠ .holds := by
  rw [truth, hb, Bool.or_true, if_pos rfl]
  decide

end Collation

end ParamSql
