import ParamSql.Text.Characters

/-!
# String literals

A text between single quotes, as the MySQL text protocol reads it. Inside, a quote is doubled and
the backslash and four control characters are written as two-character escapes; everything else
stands for itself.
-/

namespace ParamSql.Literal

open Text (apostrophe backslash)

/-- The letter that stands for a control character after a backslash, for those that have one. -/
def controlLetter? (c : Char) : Option Char :=
  if c = Char.ofNat 0x00 then some '0'
  else if c = Char.ofNat 0x0a then some 'n'
  else if c = Char.ofNat 0x0d then some 'r'
  else if c = Char.ofNat 0x1a then some 'Z'
  else none

/-- A character as it is written inside a literal. -/
def escape (c : Char) : List Char :=
  if c = apostrophe then [apostrophe, apostrophe]
  else if c = backslash then [backslash, backslash]
  else match controlLetter? c with
    | some letter => [backslash, letter]
    | none => [c]

/-- A text as a string literal. -/
def quote (text : String) : String :=
  String.ofList (apostrophe :: text.toList.flatMap escape ++ [apostrophe])

end ParamSql.Literal
