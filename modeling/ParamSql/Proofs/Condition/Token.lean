import ParamSql.Proofs.Identifier.Resolve
import Mathlib.Data.List.Basic

/-!
# Tokens of conditions

How the text of a condition falls into tokens: parentheses, commas and words. A word is a longest
run of characters of names, or a longest run of other characters, so that `a<=b` falls into three
words just as `a <= b` does.

Blanks, parentheses and commas end a word wherever they stand. So a text is cut at any of them
(`lex_append_separator`) without a look at what surrounds it, and the tokens of a text that was put
together are put together from the tokens of its parts.
-/

namespace ParamSql

open Identifier (isNameChar)

/-- A token of a condition. -/
inductive Token
  /-- An opening parenthesis. -/
  | opening
  /-- A closing parenthesis. -/
  | closing
  /-- A comma. -/
  | comma
  /-- Anything else that stands in one piece. -/
  | word (cs : List Char)
deriving DecidableEq

namespace Token

/-! ### Cutting a text -/

/-- The token that a character is by itself. -/
def ofMark? : Char → Option Token
  | '(' => some opening
  | ')' => some closing
  | ',' => some comma
  | _ => none

/-- Whether a character ends a word wherever it stands. -/
def isSeparator (c : Char) : Bool :=
  c.isWhitespace || (ofMark? c).isSome

/-- The characters that make up names and placeholders. -/
def isNamePart (c : Char) : Bool :=
  isNameChar c || c == ':'

/-- Whether a character begins a word that the text after it goes on with. -/
def joins (c : Char) : List Char → Bool
  | [] => false
  | d :: _ => !isSeparator d && isNamePart c == isNamePart d

/-- The tokens with a character put in front of their first word. -/
def extend (c : Char) : List Token → List Token
  | word cs :: tokens => word (c :: cs) :: tokens
  | tokens => word [c] :: tokens

/-- The tokens of a text. -/
def lex : List Char → List Token
  | [] => []
  | c :: rest =>
    if c.isWhitespace then lex rest
    else
      match ofMark? c with
      | some mark => mark :: lex rest
      | none => if joins c rest then extend c (lex rest) else word [c] :: lex rest

/-! ### Separators -/

theorem lex_cons_of_isWhitespace {c : Char} (hc : c.isWhitespace = true) (rest : List Char) :
    lex (c :: rest) = lex rest := by
  rw [lex, if_pos hc]

/-- A text that does not begin with a separator begins with a word. -/
theorem lex_eq_word_cons {c : Char} (hc : isSeparator c = false) (rest : List Char) :
    ∃ cs tokens, lex (c :: rest) = word cs :: tokens := by
  rw [isSeparator, Bool.or_eq_false_iff, Option.isSome_eq_false_iff, Option.isNone_iff_eq_none]
    at hc
  rw [lex, hc.1, hc.2]
  simp only [Bool.false_eq_true, if_false]
  split
  · cases lex rest with
    | nil => exact ⟨_, _, rfl⟩
    | cons token tokens => cases token <;> exact ⟨_, _, rfl⟩
  · exact ⟨_, _, rfl⟩

/-- Whether a word goes on is not changed by what follows a later separator. -/
theorem joins_append_separator {c s : Char} (hs : isSeparator s = true) (rest after : List Char) :
    joins c (rest ++ s :: after) = joins c rest := by
  cases rest with
  | nil => simp [joins, hs]
  | cons d rest => rfl

theorem extend_append {c : Char} {rest : List Char} (h : joins c rest = true)
    (tokens : List Token) : extend c (lex rest ++ tokens) = extend c (lex rest) ++ tokens := by
  cases rest with
  | nil => exact absurd h Bool.false_ne_true
  | cons d rest =>
    rw [joins, Bool.and_eq_true, Bool.not_eq_true'] at h
    obtain ⟨cs, more, hlex⟩ := lex_eq_word_cons h.1 rest
    rw [hlex]
    rfl

/-- **A text is cut at every separator.** -/
theorem lex_append_separator (before : List Char) {s : Char} (hs : isSeparator s = true)
    (after : List Char) : lex (before ++ s :: after) = lex before ++ lex (s :: after) := by
  induction before with
  | nil => rfl
  | cons c before ih =>
    rw [List.cons_append, lex, lex, joins_append_separator hs, ih]
    split
    · rfl
    · cases ofMark? c with
      | some mark => rfl
      | none =>
        simp only
        split
        · rename_i hjoins
          exact extend_append hjoins _
        · rfl

/-- A blank at the end of a text cuts off what comes after it. -/
theorem lex_append_blank (before after : List Char) :
    lex (before ++ ' ' :: after) = lex before ++ lex after := by
  rw [lex_append_separator before rfl, lex_cons_of_isWhitespace rfl]

/-- A blank that is put between two texts separates their tokens. -/
theorem lex_blank (first second : String) :
    lex (first ++ " " ++ second).toList = lex first.toList ++ lex second.toList := by
  rw [String.toList_append, String.toList_append, List.append_assoc,
    show " ".toList = [' '] from rfl, List.singleton_append, lex_append_blank]

/-! ### Words -/

/-- Characters of names and placeholders are no separators. -/
theorem isSeparator_eq_false_of_isNamePart {c : Char} (hc : isNamePart c = true) :
    isSeparator c = false := by
  rw [Bool.eq_false_iff]
  intro hs
  rw [isSeparator, Bool.or_eq_true] at hs
  rcases hs with hblank | hmark
  · simp only [Char.isWhitespace, Bool.or_eq_true, decide_eq_true_eq] at hblank
    rcases hblank with ((rfl | rfl) | rfl) | rfl <;> exact absurd hc (by decide)
  · unfold ofMark? at hmark
    split at hmark
    · exact absurd hc (by decide)
    · exact absurd hc (by decide)
    · exact absurd hc (by decide)
    · exact absurd hmark Bool.false_ne_true

/-- A text of characters of names and placeholders is one word. -/
theorem lex_eq_word {cs : List Char} (hne : cs ≠ []) (hcs : ∀ c ∈ cs, isNamePart c = true) :
    lex cs = [word cs] := by
  induction cs with
  | nil => exact absurd rfl hne
  | cons c cs ih =>
    obtain ⟨hc, hrest⟩ := List.forall_mem_cons.1 hcs
    have hsep := isSeparator_eq_false_of_isNamePart hc
    rw [isSeparator, Bool.or_eq_false_iff, Option.isSome_eq_false_iff,
      Option.isNone_iff_eq_none] at hsep
    rw [lex, hsep.1, hsep.2]
    cases cs with
    | nil => rfl
    | cons d cs =>
      have hd : isNamePart d = true := hrest d List.mem_cons_self
      have hjoins : joins c (d :: cs) = true := by
        rw [joins, isSeparator_eq_false_of_isNamePart hd, hc, hd]
        rfl
      simp only [Bool.false_eq_true, if_false, hjoins, if_true]
      rw [ih (List.cons_ne_nil _ _) hrest]
      rfl

theorem isNamePart_of_isDigit {c : Char} (hc : c.isDigit = true) : isNamePart c = true := by
  simp [isNamePart, isNameChar, Char.isAlphanum, hc]

/-- A numeral is one word. -/
theorem lex_repr (n : Nat) : lex n.repr.toList = [word n.repr.toList] := by
  rw [Nat.toList_repr]
  exact lex_eq_word Nat.toDigits_ne_nil fun _ hc ↦
    isNamePart_of_isDigit (Nat.isDigit_of_mem_toDigits (by decide) (by decide) hc)

/-! ### Joined texts -/

/-- The tokens of texts that are joined by a separator which begins with a mark or a blank and ends
with a blank. -/
theorem lex_intercalate {separator : String} {s : Char} {middle : List Char}
    (hseparator : separator.toList = s :: middle ++ [' ']) (hs : isSeparator s = true)
    (texts : List String) :
    lex (separator.intercalate texts).toList =
      (lex (s :: middle)).intercalate (texts.map fun text ↦ lex text.toList) := by
  induction texts with
  | nil => simp [lex]
  | cons text texts ih =>
    cases texts with
    | nil => simp
    | cons next texts =>
      rw [String.intercalate_cons_cons, String.toList_append, String.toList_append, hseparator,
        List.append_assoc, List.append_assoc, List.singleton_append, List.cons_append,
        lex_append_separator _ hs, ← List.cons_append, lex_append_blank, ih]
      simp only [List.map_cons, List.intercalate_cons_cons, List.append_assoc]

end Token

end ParamSql
