import ParamSql.Json.Numeral
import ParamSql.Text.Rest

/-!
# Reading JSON

`Json.read?` reads one document from the front of a text and answers it with the rest of the text.
Every reader answers a rest that is shorter than what it was given, and that is what the recursion
rests on. Arrays and objects may be nested up to a given depth.
-/

namespace ParamSql.Json

open Text (quotationMark backslash hexValue?)

/-! ### Blanks -/

/-- The four characters that may stand between the parts of a document. -/
def isBlank (c : Char) : Bool :=
  c == ' ' || c == '\t' || c == '\n' || c == '\r'

/-- The first character that is not blank, and what is left after it. -/
def readMark? (cs : List Char) : Option (Char × Rest cs) :=
  firstNot? isBlank cs

/-! ### Strings -/

/-- The character of a UTF-16 code unit that is not half of a pair. -/
def ofUnit? (unit : Nat) : Option Char :=
  if 0xd800 ≤ unit ∧ unit < 0xe000 then none else some (Char.ofNat unit)

/-- The character of a pair of UTF-16 code units. -/
def ofUnits? (high low : Nat) : Option Char :=
  if 0xd800 ≤ high ∧ high < 0xdc00 ∧ 0xdc00 ≤ low ∧ low < 0xe000 then
    some (Char.ofNat (0x10000 + (high - 0xd800) * 0x400 + (low - 0xdc00)))
  else none

/-- The character for which a letter stands after a backslash. -/
def ofShortEscape? (letter : Char) : Option Char :=
  if letter = quotationMark ∨ letter = backslash ∨ letter = '/' then some letter
  else match letter with
    | 'b' => some (Char.ofNat 0x08)
    | 't' => some (Char.ofNat 0x09)
    | 'n' => some (Char.ofNat 0x0a)
    | 'f' => some (Char.ofNat 0x0c)
    | 'r' => some (Char.ofNat 0x0d)
    | _ => none

/-- Reads a code unit of four hexadecimal digits. -/
def readUnit? : (cs : List Char) → Option (Nat × Rest cs)
  | a :: b :: c :: d :: rest =>
    (hexValue? [a, b, c, d]).map fun unit ↦ (unit, (Rest.tail d rest).cons.cons.cons)
  | _ => none

/-- Reads an escape by code units, after its `u`: one unit, or two that form a pair. -/
def readUnits? (cs : List Char) : Option (Char × Rest cs) :=
  match readUnit? cs with
  | none => none
  | some (unit, left) =>
    match ofUnit? unit, left with
    | some char, left => some (char, left)
    | none, ⟨slash :: 'u' :: rest, shorter⟩ =>
      if slash = backslash then
        (readUnit? rest).bind fun (low, left) ↦
          (ofUnits? unit low).map fun char ↦ (char, Rest.trans ⟨_, shorter⟩ left.cons.cons)
      else none
    | none, _ => none

/-- Reads an escape after its backslash. -/
def readEscape? : (cs : List Char) → Option (Char × Rest cs)
  | [] => none
  | letter :: rest =>
    if letter = 'u' then
      (readUnits? rest).map fun (char, left) ↦ (char, left.cons)
    else (ofShortEscape? letter).map fun char ↦ (char, .tail letter rest)

/-- Reads the characters of a string after its opening mark, and the closing mark. -/
def readCharacters? (cs : List Char) : Option (List Char × Rest cs) :=
  match cs with
  | [] => none
  | c :: rest =>
    if c = quotationMark then some ([], .tail c rest)
    else if c = backslash then
      match readEscape? rest with
      | none => none
      | some (char, ⟨afterEscape, shorter⟩) =>
        (readCharacters? afterEscape).map fun (chars, left) ↦
          (char :: chars, (Rest.trans ⟨afterEscape, shorter⟩ left).cons)
    else if c.toNat < 0x20 then none
    else (readCharacters? rest).map fun (chars, left) ↦ (c :: chars, left.cons)
termination_by cs.length

/-! ### Words and numbers -/

/-- The document that a bare word stands for. -/
def ofWord? (word : List Char) : Option Json :=
  match String.ofList word with
  | "null" => some .null
  | "true" => some (.bool true)
  | "false" => some (.bool false)
  | _ => none

/-- Reads a word or a number that begins with `first`: it extends as far as its kind of character
does. -/
def readScalar? (first : Char) (rest : List Char) : Option (Json × Rest (first :: rest)) :=
  let isPart := if first.isLower then Char.isLower else Numeral.isPart
  let run := first :: rest.takeWhile isPart
  let json? := if first.isLower then ofWord? run else (Numeral.ofList? run).bind Numeral.toJson?
  json?.map fun json ↦
    (json, ⟨rest.dropWhile isPart, Nat.lt_succ_of_le (length_dropWhile_le isPart rest)⟩)

/-! ### Documents -/

mutual

/-- Reads one document, of at most `depth` containers inside each other. -/
def readDocument? (depth : Nat) (cs : List Char) : Option (Json × Rest cs) :=
  match readMark? cs with
  | none => none
  | some (c, ⟨rest, shorter⟩) =>
    if c = quotationMark then
      (readCharacters? rest).map fun (chars, left) ↦
        (.string (String.ofList chars), Rest.trans ⟨rest, shorter⟩ left)
    else if c = '[' then
      match depth with
      | 0 => none
      | depth + 1 =>
        match readMark? rest with
        | some (']', left) => some (.array [], Rest.trans ⟨rest, shorter⟩ left)
        | _ =>
          (readItems? depth rest).map fun (items, left) ↦
            (.array items, Rest.trans ⟨rest, shorter⟩ left)
    else if c = '{' then
      match depth with
      | 0 => none
      | depth + 1 =>
        match readMark? rest with
        | some ('}', left) => some (.object [], Rest.trans ⟨rest, shorter⟩ left)
        | _ =>
          (readMembers? depth rest).map fun (members, left) ↦
            (.object members, Rest.trans ⟨rest, shorter⟩ left)
    else
      (readScalar? c rest).map fun (json, ⟨left, h⟩) ↦
        (json, ⟨left, Nat.lt_of_le_of_lt (Nat.le_of_lt_succ h) shorter⟩)
termination_by 2 * cs.length

/-- Reads the items of an array, at least one, and the closing bracket. -/
def readItems? (depth : Nat) (cs : List Char) : Option (List Json × Rest cs) :=
  match readDocument? depth cs with
  | none => none
  | some (item, ⟨afterItem, _⟩) =>
    match readMark? afterItem with
    | some (']', ⟨left, _⟩) => some ([item], ⟨left, by omega⟩)
    | some (',', ⟨rest, _⟩) =>
      (readItems? depth rest).map fun (items, ⟨left, _⟩) ↦ (item :: items, ⟨left, by omega⟩)
    | _ => none
termination_by 2 * cs.length + 1

/-- Reads the members of an object, at least one, and the closing brace. -/
def readMembers? (depth : Nat) (cs : List Char) : Option (List (String × Json) × Rest cs) :=
  match readMark? cs with
  | none => none
  | some (c, ⟨afterMark, _⟩) =>
    if c = quotationMark then
      match readCharacters? afterMark with
      | none => none
      | some (key, ⟨afterKey, _⟩) =>
        match readMark? afterKey with
        | some (':', ⟨beforeValue, _⟩) =>
          match readDocument? depth beforeValue with
          | none => none
          | some (json, ⟨afterValue, _⟩) =>
            match readMark? afterValue with
            | some ('}', ⟨left, _⟩) => some ([(String.ofList key, json)], ⟨left, by omega⟩)
            | some (',', ⟨rest, _⟩) =>
              (readMembers? depth rest).map fun (members, ⟨left, _⟩) ↦
                ((String.ofList key, json) :: members, ⟨left, by omega⟩)
            | _ => none
        | _ => none
    else none
termination_by 2 * cs.length + 1

end

/-- How many containers inside each other are read. -/
def depthLimit : Nat :=
  127

/-- Reads one document from the front of a text, and answers it with the rest of the text. -/
def read? (text : List Char) : Option (Json × List Char) :=
  (readDocument? depthLimit text).map fun (json, rest) ↦ (json, rest.1)

end ParamSql.Json
