/-!
# What is left of an input

A reader takes something from the front of a list and answers it with the rest of the list. That the
rest is shorter is part of the answer, and is what recursion over an input rests on.
-/

namespace ParamSql

variable {α : Type}

/-- What is left of a list after something has been taken from its front. -/
abbrev Rest (input : List α) :=
  { rest : List α // rest.length < input.length }

namespace Rest

/-- What is left when the first element has been taken. -/
def tail (a : α) (input : List α) : Rest (a :: input) :=
  ⟨input, Nat.lt_succ_self _⟩

/-- What is left when the first element and `n` more have been taken. -/
def drop (a : α) (input : List α) (n : Nat) : Rest (a :: input) :=
  ⟨input.drop n, Nat.lt_succ_of_le (List.drop_sublist n input).length_le⟩

/-- What is left of a list is also left of the list with one element more in front. -/
def cons {a : α} {input : List α} (rest : Rest input) : Rest (a :: input) :=
  ⟨rest.1, Nat.lt_succ_of_lt rest.2⟩

/-- What is left of a rest is also left of the list that the rest was left of. -/
def trans {input : List α} (rest : Rest input) (left : Rest rest.1) : Rest input :=
  ⟨left.1, Nat.lt_trans left.2 rest.2⟩

end Rest

/-! ### Leaving elements out -/

theorem length_dropWhile_le (p : α → Bool) (input : List α) :
    (input.dropWhile p).length ≤ input.length :=
  (List.dropWhile_sublist p).length_le

theorem length_lt_of_dropWhile_eq_cons {p : α → Bool} {input rest : List α} {a : α}
    (kept : input.dropWhile p = a :: rest) : rest.length < input.length := by
  have whole := length_dropWhile_le p input
  rw [kept, List.length_cons] at whole
  exact whole

/-- The first element without a property, and what is left after it. -/
def firstNot? (p : α → Bool) (input : List α) : Option (α × Rest input) :=
  match kept : input.dropWhile p with
  | [] => none
  | a :: rest => some (a, ⟨rest, length_lt_of_dropWhile_eq_cons kept⟩)

end ParamSql
