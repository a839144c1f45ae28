import ParamSql.Value.Basic

/-!
# Parameters

A statement refers to the values bound to it by name. `Params` hands out the names `p_0`, `p_1`, …
and keeps the bindings in the order in which they were made. The counter and the list are apart: a
name can be taken without being bound, and a binding can be made under any name.
-/

namespace ParamSql

/-- A name and the value bound to it. -/
structure Parameter where
  /-- The name, without the mark in front of placeholders. -/
  name : String
  /-- The bound value. -/
  value : Value
deriving DecidableEq

/-- The text that refers to a parameter in a statement. -/
def Parameter.placeholder (p : Parameter) : String :=
  ":" ++ p.name

/-- The parameters of one statement. -/
structure Params where
  /-- The number of the next name. -/
  next : Nat := 0
  /-- The bindings, oldest first. -/
  entries : List Parameter := []
deriving DecidableEq, Inhabited

namespace Params

/-! ### Names -/

/-- The name with a given number. -/
def nameAt (n : Nat) : String :=
  "p_" ++ Nat.repr n

/-- The text that refers to the name with a given number. -/
def placeholderAt (n : Nat) : String :=
  ":" ++ nameAt n

/-- Takes the next name. No name is given twice. -/
def takeName (ps : Params) : String × Params :=
  (nameAt ps.next, { ps with next := ps.next + 1 })

/-! ### Bindings -/

/-- Binds a value to a name, after all earlier bindings. -/
def register (ps : Params) (name : String) (value : Value) : Params :=
  { ps with entries := ps.entries ++ [⟨name, value⟩] }

/-- Takes the next name and binds a value to it. -/
def bind (ps : Params) (value : Value) : Params :=
  let (name, rest) := ps.takeName
  rest.register name value

/-- Binds a value to the next name, and answers with the text that refers to it. -/
def place (ps : Params) (value : Value) : String × Params :=
  (placeholderAt ps.next, ps.bind value)

/-- Binds several values, each to the next name. -/
def bindAll (ps : Params) (values : List Value) : Params :=
  values.foldl bind ps

/-- The value bound to a name; the oldest binding counts. -/
def get? (ps : Params) (name : String) : Option Value :=
  (ps.entries.find? (·.name == name)).map (·.value)

/-! ### What binding does -/

@[simp]
theorem bind_next (ps : Params) (value : Value) : (ps.bind value).next = ps.next + 1 :=
  rfl

@[simp]
theorem bind_entries (ps : Params) (value : Value) :
    (ps.bind value).entries = ps.entries ++ [⟨nameAt ps.next, value⟩] :=
  rfl

@[simp]
theorem bindAll_nil (ps : Params) : ps.bindAll [] = ps :=
  rfl

@[simp]
theorem bindAll_cons (ps : Params) (value : Value) (values : List Value) :
    ps.bindAll (value :: values) = (ps.bind value).bindAll values :=
  rfl

theorem bindAll_append (ps : Params) (first second : List Value) :
    ps.bindAll (first ++ second) = (ps.bindAll first).bindAll second :=
  List.foldl_append

theorem bindAll_next (ps : Params) (values : List Value) :
    (ps.bindAll values).next = ps.next + values.length := by
  induction values generalizing ps with
  | nil => rfl
  | cons value values ih => simp only [bindAll_cons, ih, bind_next, List.length_cons]; omega

end Params

end ParamSql
