import ParamSql.Text.Characters
import ParamSql.Text.Rest

/-!
# Tokens of TOML documents

A document is first cut into tokens. What a run of characters means — a bare key, a number, a date —
depends on where it stands, so a word is kept as it is written and the points between words are
tokens of their own. Comments are checked and dropped.
-/

namespace ParamSql.Toml

open Text (quotationMark apostrophe backslash hexValue?)

/-- A token of a document. -/
inductive Token
  /-- Spaces and tabs. -/
  | blank (chars : List Char)
  /-- The end of a line. -/
  | newline
  /-- An equals sign. -/
  | equals
  /-- A comma. -/
  | comma
  /-- A point. -/
  | dot
  /-- An opening bracket. -/
  | openBracket
  /-- A closing bracket. -/
  | closeBracket
  /-- An opening brace. -/
  | openBrace
  /-- A closing brace. -/
  | closeBrace
  /-- Letters, digits, and the signs that occur in keys, numbers and dates. -/
  | word (chars : List Char)
  /-- A string, and whether it was of the kind that is confined to one line. -/
  | text (oneLine : Bool) (content : String)
deriving DecidableEq

/-! ### Characters -/

/-- Whether a character may stand between tokens of a line. -/
def isBlank (c : Char) : Bool :=
  c == ' ' || c == '\t'

/-- Whether a character is a letter or digit, of ASCII only, or one of the signs in words. -/
def isWordPart (c : Char) : Bool :=
  c.isAlphanum || c == '_' || c == '-' || c == '+' || c == ':'

/-- Whether a character may stand in a comment or in a string as it is: no control character does,
but for the tab. -/
def isPrintable (c : Char) : Bool :=
  c == '\t' || (0x20 ≤ c.toNat && c.toNat != 0x7f)

/-- The token of a character that is one by itself. -/
def punctuation? (c : Char) : Option Token :=
  match c with
  | '=' => some .equals
  | ',' => some .comma
  | '.' => some .dot
  | '[' => some .openBracket
  | ']' => some .closeBracket
  | '{' => some .openBrace
  | '}' => some .closeBrace
  | _ => none

/-! ### Escapes -/

/-- The character with a given code point, if there is one. -/
def ofCodePoint? (n : Nat) : Option Char :=
  if n.isValidChar then some (Char.ofNat n) else none

/-- The number of hexadecimal digits that follow a letter in an escape. -/
def escapeWidth? (letter : Char) : Option Nat :=
  match letter with
  | 'x' => some 2
  | 'u' => some 4
  | 'U' => some 8
  | _ => none

/-- The character for which a letter stands after a backslash. -/
def ofShortEscape? (letter : Char) : Option Char :=
  if letter = quotationMark ∨ letter = backslash then some letter
  else match letter with
    | 'b' => some (Char.ofNat 0x08)
    | 't' => some (Char.ofNat 0x09)
    | 'n' => some (Char.ofNat 0x0a)
    | 'f' => some (Char.ofNat 0x0c)
    | 'r' => some (Char.ofNat 0x0d)
    | 'e' => some (Char.ofNat 0x1b)
    | _ => none

/-- Reads an escape after its backslash. -/
def readEscape? : (cs : List Char) → Option (Char × Rest cs)
  | [] => none
  | letter :: rest =>
    match escapeWidth? letter with
    | none => (ofShortEscape? letter).map fun char ↦ (char, .tail letter rest)
    | some width =>
      if width ≤ rest.length then
        ((hexValue? (rest.take width)).bind ofCodePoint?).map fun char ↦
          (char, .drop letter rest width)
      else none

/-- Reads the end of a line. -/
def readNewline? : (cs : List Char) → Option (Rest cs)
  | '\n' :: rest => some (.tail '\n' rest)
  | '\r' :: '\n' :: rest => some (Rest.tail '\n' rest).cons
  | _ => none

/-! ### Strings -/

/-- The text from the first character on that is neither blank nor part of the end of a line. -/
def dropSpace : (cs : List Char) → List Char
  | [] => []
  | '\r' :: '\n' :: rest => dropSpace rest
  | c :: rest => if isBlank c || c == '\n' then dropSpace rest else c :: rest

theorem length_dropSpace_le (cs : List Char) : (dropSpace cs).length ≤ cs.length := by
  fun_induction dropSpace cs with
  | case1 => exact Nat.le_refl _
  | case2 rest ih => exact Nat.le_succ_of_le (Nat.le_succ_of_le ih)
  | case3 c rest _ _ ih => exact Nat.le_succ_of_le ih
  | case4 => exact Nat.le_refl _

/-- What a backslash at the end of a line leaves of the text after it: the first character of a
later line that is not blank, and all that follows. -/
def continued? (cs : List Char) : Option { rest : List Char // rest.length ≤ cs.length } :=
  (readNewline? (cs.dropWhile isBlank)).map fun ⟨rest, shorter⟩ ↦
    ⟨dropSpace rest,
      have skipped := length_dropWhile_le isBlank cs
      have := length_dropSpace_le rest
      by omega⟩

/-- Reads a string after its opening mark or marks. A string over several lines ends at three marks,
and up to two marks right before them belong to it. -/
def readString? (mark : Char) (oneLine : Bool) (cs : List Char) :
    Option (List Char × Rest cs) :=
  match cs with
  | [] => none
  | c :: rest =>
    if c = mark then
      let run := (rest.takeWhile (· == mark)).length
      if oneLine then some ([], .tail c rest)
      else if 2 ≤ run then
        let kept := min (run - 2) 2
        some (List.replicate kept mark, .drop c rest (kept + 2))
      else (readString? mark oneLine rest).map fun (chars, left) ↦ (c :: chars, left.cons)
    else if c = backslash ∧ mark = quotationMark then
      match if oneLine then none else continued? rest with
      | some ⟨next, shorter⟩ =>
        (readString? mark oneLine next).map fun (chars, ⟨left, h⟩) ↦
          (chars, ⟨left, Nat.lt_succ_of_lt (Nat.lt_of_lt_of_le h shorter)⟩)
      | none =>
        match readEscape? rest with
        | none => none
        | some (char, ⟨next, shorter⟩) =>
          (readString? mark oneLine next).map fun (chars, left) ↦
            (char :: chars, (Rest.trans ⟨next, shorter⟩ left).cons)
    else if isPrintable c || (!oneLine && (readNewline? (c :: rest)).isSome) then
      (readString? mark oneLine rest).map fun (chars, left) ↦ (c :: chars, left.cons)
    else none
termination_by cs.length

/-- The text after the end of a line, if it begins with one, and otherwise the text itself. -/
def skipNewline (cs : List Char) : { rest : List Char // rest.length ≤ cs.length } :=
  match readNewline? cs with
  | some ⟨rest, shorter⟩ => ⟨rest, Nat.le_of_lt shorter⟩
  | none => ⟨cs, Nat.le_refl _⟩

/-- The text after two more marks, if it begins with them. -/
def afterMarks? (mark : Char) : (cs : List Char) → Option (Rest cs)
  | second :: third :: rest =>
    if second = mark ∧ third = mark then some (Rest.tail third rest).cons else none
  | _ => none

/-- Reads a string after its first mark. Three marks open a string over several lines; the end of
the line right after them does not belong to it. -/
def readText? (mark : Char) (cs : List Char) : Option (Token × Rest (mark :: cs)) :=
  match afterMarks? mark cs with
  | some ⟨opened, shorter⟩ =>
    let body := skipNewline opened
    (readString? mark false body.1).map fun (chars, ⟨left, h⟩) ↦
      (.text false (String.ofList chars), Rest.cons ⟨left, by have := body.2; omega⟩)
  | none =>
    (readString? mark true cs).map fun (chars, left) ↦
      (.text true (String.ofList chars), left.cons)

/-! ### Documents -/

/-- The tokens of a text, if it consists of tokens. -/
def scan? (cs : List Char) : Option (List Token) :=
  match cs with
  | [] => some []
  | c :: rest =>
    if isBlank c then
      have := length_dropWhile_le isBlank rest
      (scan? (rest.dropWhile isBlank)).map (.blank (c :: rest.takeWhile isBlank) :: ·)
    else if isWordPart c then
      have := length_dropWhile_le isWordPart rest
      (scan? (rest.dropWhile isWordPart)).map (.word (c :: rest.takeWhile isWordPart) :: ·)
    else if c = '#' then
      have := length_dropWhile_le isPrintable rest
      scan? (rest.dropWhile isPrintable)
    else if c = quotationMark ∨ c = apostrophe then
      match readText? c rest with
      | none => none
      | some (token, left) =>
        have := Nat.le_of_lt_succ left.2
        (scan? left.1).map (token :: ·)
    else
      match readNewline? (c :: rest) with
      | some left =>
        have := Nat.le_of_lt_succ left.2
        (scan? left.1).map (.newline :: ·)
      | none =>
        match punctuation? c with
        | some token => (scan? rest).map (token :: ·)
        | none => none
termination_by cs.length

end ParamSql.Toml
