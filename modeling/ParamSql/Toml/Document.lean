import ParamSql.Text.Rest
import ParamSql.Toml.Table
import ParamSql.Toml.Token

/-!
# TOML documents

From tokens to the table that a document denotes. A document is read line by line, and each line is
carried out on the table made so far: a header defines a table, a pair adds a value to the table of
the last header.
-/

namespace ParamSql.Toml

/-! ### Keys -/

/-- Whether a token is blank. -/
def Token.isBlank : Token → Bool
  | .blank _ => true
  | _ => false

/-- Whether a token is blank or ends a line. -/
def Token.isSpace : Token → Bool
  | .blank _ | .newline => true
  | _ => false

/-- The tokens from the first on that is not blank. -/
def skipBlank (tokens : List Token) : List Token :=
  tokens.dropWhile Token.isBlank

/-- The tokens from the first on that is neither blank nor the end of a line. -/
def skipSpace (tokens : List Token) : List Token :=
  tokens.dropWhile Token.isSpace

theorem length_skipBlank_le (tokens : List Token) : (skipBlank tokens).length ≤ tokens.length :=
  length_dropWhile_le _ tokens

theorem length_skipSpace_le (tokens : List Token) : (skipSpace tokens).length ≤ tokens.length :=
  length_dropWhile_le _ tokens

/-- Whether a character may stand in a key without quotes. -/
def isKeyPart (c : Char) : Bool :=
  c.isAlphanum || c == '_' || c == '-'

/-- The key that a token is, if it is one. -/
def Token.key? : Token → Option String
  | .word chars => if chars.all isKeyPart then some (String.ofList chars) else none
  | .text true content => some content
  | _ => none

/-- Reads keys with points between them, and the blanks after them. -/
def readPath? (tokens : List Token) : Option (List String × Rest tokens) :=
  match tokens with
  | [] => none
  | token :: rest =>
    match token.key? with
    | none => none
    | some key =>
      match firstNot? Token.isBlank rest with
      | some (.dot, ⟨more, _⟩) =>
        have := length_skipBlank_le more
        (readPath? (skipBlank more)).map fun (path, ⟨left, _⟩) ↦
          (key :: path, Rest.cons ⟨left, by omega⟩)
      | _ => some ([key], ⟨skipBlank rest, Nat.lt_succ_of_le (length_skipBlank_le rest)⟩)
termination_by tokens.length

/-- Reads keys, the equals sign after them, and what may stand around that sign. -/
def readTarget? (around : Token → Bool) (tokens : List Token) :
    Option (List String × Rest tokens) :=
  match readPath? tokens with
  | none => none
  | some (path, ⟨afterPath, _⟩) =>
    match firstNot? around afterPath with
    | some (.equals, ⟨rest, _⟩) =>
      have := length_dropWhile_le around rest
      some (path, ⟨rest.dropWhile around, by omega⟩)
    | _ => none

/-- How many keys a path may have, and how many arrays and tables may stand inside each other. -/
def depthLimit : Nat :=
  80

/-- Whether a path is short enough. -/
def isShallow (path : List String) : Bool :=
  path.length ≤ depthLimit

/-! ### Values -/

/-- The characters of a token that can be part of a value without quotes. -/
def Token.run? : Token → Option (List Char)
  | .word chars => some chars
  | .dot => some ['.']
  | _ => none

/-- The characters of the leading tokens that make up a value without quotes. -/
def runChars (tokens : List Token) : List Char :=
  (tokens.takeWhile (·.run?.isSome)).flatMap fun token ↦ token.run?.getD []

/-- The tokens after those that make up a value without quotes. -/
def afterRun (tokens : List Token) : List Token :=
  tokens.dropWhile (·.run?.isSome)

theorem length_afterRun_le (tokens : List Token) : (afterRun tokens).length ≤ tokens.length :=
  length_dropWhile_le _ tokens

/-- Reads a value without quotes that begins with the given token. A date may be followed by a time
after a single space. -/
def readScalar? (first : Token) (rest : List Token) : Option (Scalar × Rest (first :: rest)) :=
  match first.run? with
  | none => none
  | some chars =>
    let run := chars ++ runChars rest
    have ended := length_afterRun_le rest
    let alone : Option (Scalar × Rest (first :: rest)) :=
      (Scalar.ofList? run).map fun scalar ↦ (scalar, ⟨afterRun rest, Nat.lt_succ_of_le ended⟩)
    match after : afterRun rest with
    | .blank [' '] :: .word (c :: time) :: more =>
      if Scalar.isDate run && c.isDigit then
        have := length_afterRun_le more
        have : more.length < rest.length := by
          rw [after, List.length_cons, List.length_cons] at ended
          omega
        (Scalar.ofList? (run ++ ' ' :: c :: time ++ runChars more)).map fun scalar ↦
          (scalar, Rest.cons ⟨afterRun more, by omega⟩)
      else alone
    | _ => alone

mutual

/-- Reads a value, of at most `depth` arrays and tables inside each other. -/
def readValue? (depth : Nat) (tokens : List Token) : Option (Node × Rest tokens) :=
  match tokens with
  | [] => none
  | .text oneLine content :: rest =>
    some (.scalar (.text content), .tail (.text oneLine content) rest)
  | .openBracket :: rest =>
    match depth with
    | 0 => none
    | depth + 1 => (readItems? depth rest).map fun (items, left) ↦ (.array items, left.cons)
  | .openBrace :: rest =>
    match depth with
    | 0 => none
    | depth + 1 =>
      (readPairs? depth rest []).map fun (entries, left) ↦ (.table .inline entries, left.cons)
  | first :: rest => (readScalar? first rest).map fun (scalar, left) ↦ (.scalar scalar, left)
termination_by 3 * tokens.length

/-- Reads the items of an array and the closing bracket. A comma may stand after the last item. -/
def readItems? (depth : Nat) (tokens : List Token) : Option (List Node × Rest tokens) :=
  match firstNot? Token.isSpace tokens with
  | some (.closeBracket, left) => some ([], left)
  | _ =>
    have := length_skipSpace_le tokens
    match readValue? depth (skipSpace tokens) with
    | none => none
    | some (item, ⟨afterItem, _⟩) =>
      match firstNot? Token.isSpace afterItem with
      | some (.closeBracket, ⟨left, _⟩) => some ([item], ⟨left, by omega⟩)
      | some (.comma, ⟨rest, _⟩) =>
        (readItems? depth rest).map fun (items, ⟨left, _⟩) ↦ (item :: items, ⟨left, by omega⟩)
      | _ => none
termination_by 3 * tokens.length + 2

/-- Reads keys and the value that is given to them, with what may stand around the equals sign. -/
def readPair? (depth : Nat) (around : Token → Bool) (tokens : List Token) :
    Option (List String × Node × Rest tokens) :=
  match readTarget? around tokens with
  | none => none
  | some (path, ⟨beforeValue, shorter⟩) =>
    (readValue? depth beforeValue).map fun (value, left) ↦
      (path, value, Rest.trans ⟨beforeValue, shorter⟩ left)
termination_by 3 * tokens.length + 1

/-- Reads the pairs of a table between braces and the closing brace, adding to the entries read so
far. Lines may end anywhere but within a path, and a comma may stand after the last pair. -/
def readPairs? (depth : Nat) (tokens : List Token) (entries : Entries) :
    Option (Entries × Rest tokens) :=
  match firstNot? Token.isSpace tokens with
  | some (.closeBrace, left) => some (entries, left)
  | _ =>
    have := length_skipSpace_le tokens
    match readPair? depth Token.isSpace (skipSpace tokens) with
    | none => none
    | some (path, value, ⟨afterValue, _⟩) =>
      match if isShallow path then insertHere path value entries else none with
      | none => none
      | some entries =>
        match firstNot? Token.isSpace afterValue with
        | some (.closeBrace, ⟨left, _⟩) => some (entries, ⟨left, by omega⟩)
        | some (.comma, ⟨rest, _⟩) =>
          (readPairs? depth rest entries).map fun (entries, ⟨left, _⟩) ↦
            (entries, ⟨left, by omega⟩)
        | _ => none
termination_by 3 * tokens.length + 2

end

/-! ### Lines -/

/-- A line that says something. -/
inductive Line
  /-- A header in brackets. -/
  | header (path : List String)
  /-- A header in double brackets. -/
  | arrayHeader (path : List String)
  /-- A key and its value. -/
  | pair (path : List String) (value : Node)

/-- Reads a header. -/
def readHeader? : (tokens : List Token) → Option (Line × Rest tokens)
  | .openBracket :: .openBracket :: rest =>
    match readPath? (skipBlank rest) with
    | some (path, ⟨.closeBracket :: .closeBracket :: left, _⟩) =>
      have := length_skipBlank_le rest
      some (.arrayHeader path, ⟨left, by simp only [List.length_cons] at *; omega⟩)
    | _ => none
  | .openBracket :: rest =>
    match readPath? (skipBlank rest) with
    | some (path, ⟨.closeBracket :: left, _⟩) =>
      have := length_skipBlank_le rest
      some (.header path, ⟨left, by simp only [List.length_cons] at *; omega⟩)
    | _ => none
  | _ => none

/-- Reads a line that says something. -/
def readLine? (tokens : List Token) : Option (Line × Rest tokens) :=
  if tokens.head? = some .openBracket then readHeader? tokens
  else
    (readPair? depthLimit Token.isBlank tokens).map fun (path, value, left) ↦
      (.pair path value, left)

/-- The tokens after the end of a line, if nothing but blanks comes before it. -/
def endLine? (tokens : List Token) :
    Option { rest : List Token // rest.length ≤ tokens.length } :=
  match firstNot? Token.isBlank tokens with
  | none => some ⟨[], Nat.zero_le _⟩
  | some (.newline, ⟨rest, shorter⟩) => some ⟨rest, Nat.le_of_lt shorter⟩
  | _ => none

/-- Reads the lines of a document; a line that says nothing is left out. -/
def readLines? (tokens : List Token) : Option (List Line) :=
  match tokens with
  | [] => some []
  | first :: rest =>
    if first.isSpace then readLines? rest
    else
      match readLine? (first :: rest) with
      | none => none
      | some (line, ⟨afterLine, shorter⟩) =>
        have : afterLine.length ≤ rest.length := Nat.le_of_lt_succ shorter
        match endLine? afterLine with
        | none => none
        | some ⟨next, _⟩ => (readLines? next).map (line :: ·)
termination_by tokens.length

/-! ### Documents -/

/-- Changes the table or the value at the end of a path as a header does. -/
def enter (change : Option Node → Option Node) : (path : List String) → Entries → Option Entries
  | [], _ => none
  | [key], entries => entries.alter key change
  | key :: rest, entries => entries.alter key (descend (enter change rest))

/-- The state while lines are carried out: the table made so far and the path of the last header. -/
structure Reading where
  /-- The table made so far. -/
  root : Entries := []
  /-- Where pairs are added. -/
  current : List String := []

/-- Carries out a line. -/
def Reading.add? (r : Reading) : Line → Option Reading
  | .header path =>
    if isShallow path then (enter define path r.root).map fun root ↦ { root, current := path }
    else none
  | .arrayHeader path =>
    if isShallow path then (enter defineNext path r.root).map fun root ↦ { root, current := path }
    else none
  | .pair path value =>
    if isShallow path then
      (changeAt (insertHere path value) r.current r.root).map fun root ↦ { r with root }
    else none

/-- The character that may stand before a document to mark its encoding. -/
def byteOrderMark : Char :=
  Char.ofNat 0xfeff

/-- The table that a document denotes. -/
def ofText? (text : String) : Option Entries := do
  let cs := match text.toList with
    | c :: rest => if c = byteOrderMark then rest else c :: rest
    | [] => []
  let tokens ← scan? cs
  let lines ← readLines? tokens
  let reading ← lines.foldlM Reading.add? {}
  return reading.root

end ParamSql.Toml
