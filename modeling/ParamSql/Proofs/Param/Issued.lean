import ParamSql.Param.Basic
import Mathlib.Tactic.Common

/-!
# Issued parameters

The parameters of a statement are *issued*: names are taken from the counter and values are bound to
names so taken, and nothing else is done to the list. Then no name is bound twice, so a placeholder
means the one value that was bound when it was written (`Issued.binds_bindAll`), and it goes on
meaning that value however many values are bound later (`get?_bindAll_of_eq_some`).
-/

namespace ParamSql.Params

variable {ps : Params}

/-! ### Names -/

/-- Different numbers have different names. -/
theorem nameAt_inj {m n : Nat} : nameAt m = nameAt n ↔ m = n := by
  constructor
  · intro h
    have hdigits : Nat.toDigits 10 m = Nat.toDigits 10 n := by
      have hlist := congrArg String.toList h
      simp only [nameAt, String.toList_append, List.append_cancel_left_eq, Nat.toList_repr] at hlist
      exact hlist
    rw [← Nat.ofDigitChars_ten_toDigits (n := m), hdigits, Nat.ofDigitChars_ten_toDigits]
  · rintro rfl
    rfl

/-! ### How parameters come about -/

/-- The parameters that come about by taking names and binding values. -/
inductive Issued : Params → Prop
  /-- There are none to begin with. -/
  | empty : Issued {}
  /-- A name is taken, whether or not a value will be bound to it. -/
  | takeName {ps : Params} : Issued ps → Issued ps.takeName.2
  /-- A value is bound to the next name. -/
  | bind {ps : Params} (value : Value) : Issued ps → Issued (ps.bind value)

/-- Every bound name has a number below the next one. -/
theorem Issued.exists_lt_next (h : Issued ps) :
    ∀ p ∈ ps.entries, ∃ n < ps.next, p.name = nameAt n := by
  induction h with
  | empty => intro p hp; exact absurd hp List.not_mem_nil
  | @takeName ps _ ih =>
    intro p hp
    obtain ⟨n, hn, hname⟩ := ih p hp
    exact ⟨n, Nat.lt_succ_of_lt hn, hname⟩
  | @bind ps value _ ih =>
    intro p hp
    rw [bind_entries] at hp
    rcases List.mem_append.1 hp with hold | hnew
    · obtain ⟨n, hn, hname⟩ := ih p hold
      exact ⟨n, Nat.lt_succ_of_lt hn, hname⟩
    · obtain rfl := List.mem_singleton.1 hnew
      exact ⟨ps.next, Nat.lt_succ_self _, rfl⟩

/-- Binding several values keeps parameters issued. -/
theorem Issued.bindAll (h : Issued ps) (values : List Value) : Issued (ps.bindAll values) := by
  induction values generalizing ps with
  | nil => exact h
  | cons value values ih => exact ih (h.bind value)

/-- The next name is not bound yet. -/
theorem Issued.get?_next (h : Issued ps) : ps.get? (nameAt ps.next) = none := by
  rw [get?, Option.map_eq_none_iff, List.find?_eq_none]
  intro p hp hname
  obtain ⟨n, hn, hpn⟩ := h.exists_lt_next p hp
  rw [beq_iff_eq, hpn, nameAt_inj] at hname
  omega

/-! ### What names mean -/

/-- A name keeps its meaning when another value is bound. -/
theorem get?_bind_of_eq_some {name : String} {value : Value} (h : ps.get? name = some value)
    (other : Value) : (ps.bind other).get? name = some value := by
  obtain ⟨p, hp, hvalue⟩ := Option.map_eq_some_iff.1 h
  rw [get?, bind_entries, List.find?_append, hp, Option.some_or, Option.map_some, hvalue]

/-- A name keeps its meaning when several values are bound. -/
theorem get?_bindAll_of_eq_some {name : String} {value : Value} (h : ps.get? name = some value)
    (others : List Value) : (ps.bindAll others).get? name = some value := by
  induction others generalizing ps with
  | nil => exact h
  | cons other others ih => exact ih (get?_bind_of_eq_some h other)

/-- The name that a value is bound to means that value. -/
theorem Issued.get?_bind_next (h : Issued ps) (value : Value) :
    (ps.bind value).get? (nameAt ps.next) = some value := by
  have hfree := h.get?_next
  rw [get?, Option.map_eq_none_iff] at hfree
  rw [get?, bind_entries, List.find?_append, hfree, Option.none_or]
  simp

/-- The names with the numbers from `start` on mean the given values. -/
def Binds (ps : Params) (start : Nat) (values : List Value) : Prop :=
  ∀ (i : Nat) (hi : i < values.length), ps.get? (nameAt (start + i)) = some values[i]

theorem binds_nil (start : Nat) : ps.Binds start [] := by
  intro i hi
  exact absurd hi (Nat.not_lt_zero i)

theorem binds_cons_iff {start : Nat} {value : Value} {values : List Value} :
    ps.Binds start (value :: values) ↔
      ps.get? (nameAt start) = some value ∧ ps.Binds (start + 1) values := by
  constructor
  · intro h
    refine ⟨h 0 (Nat.zero_lt_succ _), fun i hi ↦ ?_⟩
    rw [Nat.add_assoc, Nat.add_comm 1 i]
    exact h (i + 1) (Nat.succ_lt_succ hi)
  · rintro ⟨hfirst, hrest⟩ i hi
    cases i with
    | zero => exact hfirst
    | succ i =>
      have hnext := hrest i (Nat.lt_of_succ_lt_succ hi)
      rw [Nat.add_assoc, Nat.add_comm 1 i] at hnext
      exact hnext

/-- The meaning of consecutive names, part by part. -/
theorem binds_append_iff {start : Nat} {first second : List Value} :
    ps.Binds start (first ++ second) ↔
      ps.Binds start first ∧ ps.Binds (start + first.length) second := by
  induction first generalizing start with
  | nil => simp [binds_nil]
  | cons value first ih =>
    rw [List.cons_append, binds_cons_iff, binds_cons_iff, ih, and_assoc, List.length_cons,
      Nat.add_right_comm, Nat.add_assoc]

/-- **Values that are bound one after the other are what their names mean.** -/
theorem Issued.binds_bindAll (h : Issued ps) (values : List Value) :
    (ps.bindAll values).Binds ps.next values := by
  induction values generalizing ps with
  | nil => exact binds_nil _
  | cons value values ih =>
    rw [bindAll_cons, binds_cons_iff]
    exact ⟨get?_bindAll_of_eq_some (h.get?_bind_next value) values, ih (h.bind value)⟩

end ParamSql.Params
