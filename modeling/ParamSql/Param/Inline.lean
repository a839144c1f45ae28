import ParamSql.Param.Basic
import ParamSql.Text.DecimalDigit
import ParamSql.Value.Literal

/-!
# Inlining parameters

For a log, the placeholders of a statement are replaced by the literals of the values bound to them.
A placeholder is `:p_` and the longest run of decimal digits after it, so that `:p_1` is never found
inside `:p_10`. The statement is first cut into pieces and each piece is then written on its own:
what is put in for one placeholder is not looked at again.

The replacement is textual. A placeholder inside a quoted text of the statement is replaced too; the
statement that is run does not pass through here.
-/

namespace ParamSql

/-! ### Pieces -/

/-- A piece of a statement. -/
inductive Piece
  /-- A character that stands for itself. -/
  | plain (c : Char)
  /-- A placeholder, with the digits of its name. -/
  | placeholder (digits : List Char)
deriving DecidableEq

namespace Piece

/-- The text that a piece was cut from. -/
def source : Piece → List Char
  | plain c => [c]
  | placeholder digits => ':' :: 'p' :: '_' :: digits

/-- The digits of the placeholder at the front of a text, and the text after it, if it begins with
one. -/
def atFront? : List Char → Option (List Char × List Char)
  | ':' :: 'p' :: '_' :: rest =>
    match rest.takeWhile Text.isDecimalDigit with
    | [] => none
    | digits => some (digits, rest.dropWhile Text.isDecimalDigit)
  | _ => none

theorem atFront?_length {cs digits rest : List Char} (h : atFront? cs = some (digits, rest)) :
    rest.length < cs.length := by
  unfold atFront? at h
  split at h
  · next tail =>
    have shorter := (List.dropWhile_sublist Text.isDecimalDigit (l := tail)).length_le
    split at h
    · simp at h
    · simp only [Option.some.injEq, Prod.mk.injEq] at h
      simp only [← h.2, List.length_cons]
      omega
  · simp at h

/-- The pieces of a text, from left to right. -/
def cut (cs : List Char) : List Piece :=
  match front : atFront? cs with
  | some (digits, rest) =>
    have := atFront?_length front
    placeholder digits :: cut rest
  | none =>
    match cs with
    | [] => []
    | c :: rest => plain c :: cut rest
termination_by cs.length

/-- A piece with its placeholder replaced. A name that nothing is bound to stays. -/
def write (escaper : Escaper) (params : Params) : Piece → List Char
  | plain c => [c]
  | placeholder digits =>
    match params.get? (String.ofList ('p' :: '_' :: digits)) with
    | some value => (escaper.inlined value).toList
    | none => (placeholder digits).source

end Piece

/-! ### Statements -/

/-- A statement with every placeholder replaced by the literal of the value bound to it. -/
def Params.inline (params : Params) (escaper : Escaper) (sql : String) : String :=
  String.ofList ((Piece.cut sql.toList).flatMap (Piece.write escaper params))

end ParamSql
