import ParamSql.Param.Inline
import ParamSql.Proofs.Param.Clean
import ParamSql.Proofs.Param.Numbered

/-!
# Inlining is writing values at once

A statement is shown by searching its finished text for placeholders and putting literals in their
places. If the text spells a clean template, that comes to the same as writing the literals in the
first place (`inline_of_isSpelledBy`).

The text is gone through symbol by symbol. A placeholder in the place of a value is found whole,
since no digit follows it, and its literal is not looked at again (`inlined_placeholderAt`). At any
other character no placeholder is found that anything is bound to, so the character stands for
itself (`inlined_cons`). This includes placeholders whose digits are not those of our numbers: they
are found, but their names are not among those that values are bound to.
-/

namespace ParamSql

open Template (Clean IsSpelledBy SpelledBy)

/-! ### Literals -/

/-- The literal of a value where it is shown: the absent value and the empty text have one of their
own, and the escaper has the say on every other value. -/
def Value.shown (escaper : Escaper) (v : Value) : String :=
  if v = .null then "null" else if v = .text "" then "''" else escaper v

theorem Escaper.inlined_eq_shown (escaper : Escaper) : escaper.inlined = Value.shown escaper := by
  funext v
  rw [inlined.eq_def, Value.shown]
  cases v with
  | text s => by_cases hs : s = "" <;> simp [hs]
  | null | bool | int | double => simp

/-! ### Cutting a text -/

namespace Piece

variable {c : Char} {cs digits rest : List Char}

theorem cut_nil : cut [] = [] := by
  have hnone : atFront? [] = none := rfl
  rw [cut]
  split
  · rename_i hfront
    rw [hnone] at hfront
    cases hfront
  · rfl

/-- Where no placeholder begins, a character stands for itself. -/
theorem cut_cons_of_atFront?_eq_none (h : atFront? (c :: cs) = none) :
    cut (c :: cs) = plain c :: cut cs := by
  rw [cut]
  split
  · rename_i hfront
    rw [h] at hfront
    cases hfront
  · rfl

/-- Where a placeholder begins, it is cut off whole. -/
theorem cut_of_atFront?_eq_some (h : atFront? cs = some (digits, rest)) :
    cut cs = placeholder digits :: cut rest := by
  rw [cut]
  split
  · rename_i hfront
    rw [h] at hfront
    obtain ⟨rfl, rfl⟩ := Prod.mk.inj (Option.some.inj hfront)
    rfl
  · rename_i hfront
    rw [h] at hfront
    cases hfront

/-- A placeholder begins with its mark, and has as many digits as there are. -/
theorem atFront?_eq_some_iff :
    atFront? cs = some (digits, rest) ↔
      ∃ tail, cs = ':' :: 'p' :: '_' :: tail ∧ digits ≠ [] ∧
        digits = tail.takeWhile Text.isDecimalDigit ∧
        rest = tail.dropWhile Text.isDecimalDigit := by
  constructor
  · intro h
    unfold atFront? at h
    split at h
    · rename_i tail
      split at h
      · cases h
      · rename_i hdigits
        obtain ⟨rfl, rfl⟩ := Prod.mk.inj (Option.some.inj h)
        exact ⟨tail, rfl, fun hnil ↦ hdigits hnil, rfl, rfl⟩
    · cases h
  · rintro ⟨tail, rfl, hne, rfl, rfl⟩
    rw [atFront?]
    split
    · exact absurd ‹_› hne
    · rfl

/-- A placeholder does not begin with another character than its mark. -/
theorem atFront?_cons_of_ne (h : c ≠ ':') (cs : List Char) : atFront? (c :: cs) = none := by
  rw [Option.eq_none_iff_forall_ne_some]
  rintro ⟨digits, rest⟩ hfront
  obtain ⟨tail, heq, -⟩ := atFront?_eq_some_iff.1 hfront
  exact h (List.cons.inj heq).1

/-- Behind the mark, digits that no further digit follows are the digits of a placeholder. -/
theorem atFront?_mark_append (hne : digits ≠ [])
    (hdigits : ∀ d ∈ digits, Text.isDecimalDigit d = true)
    (hbehind : ∀ d ∈ rest.head?, Text.isDecimalDigit d = false) :
    atFront? (':' :: 'p' :: '_' :: (digits ++ rest)) = some (digits, rest) := by
  have hstop : rest.takeWhile Text.isDecimalDigit = [] ∧
      rest.dropWhile Text.isDecimalDigit = rest := by
    cases rest with
    | nil => exact ⟨rfl, rfl⟩
    | cons d rest =>
      have hd := hbehind d rfl
      exact ⟨by rw [List.takeWhile_cons, hd]; rfl, by rw [List.dropWhile_cons, hd]; rfl⟩
  refine atFront?_eq_some_iff.2 ⟨_, rfl, hne, ?_, ?_⟩
  · rw [List.takeWhile_append_of_pos hdigits, hstop.1, List.append_nil]
  · rw [List.dropWhile_append_of_pos hdigits, hstop.2]

end Piece

namespace Params

variable (escaper : Escaper) (ps : Params)

/-- The characters of a text with its placeholders replaced. -/
def inlined (cs : List Char) : List Char :=
  (Piece.cut cs).flatMap (Piece.write escaper ps)

variable {escaper ps} {c : Char} {cs : List Char}

theorem inlined_nil : ps.inlined escaper [] = [] := by
  rw [inlined, Piece.cut_nil]
  rfl

/-! ### Characters that stand for themselves -/

/-- A character other than the mark of placeholders stands for itself. -/
theorem inlined_cons_of_ne (h : c ≠ ':') (cs : List Char) :
    ps.inlined escaper (c :: cs) = c :: ps.inlined escaper cs := by
  rw [inlined, Piece.cut_cons_of_atFront?_eq_none (Piece.atFront?_cons_of_ne h cs)]
  rfl

/-- So do several of them. -/
theorem inlined_append_of_not_mem {cs : List Char} (h : ':' ∉ cs) (rest : List Char) :
    ps.inlined escaper (cs ++ rest) = cs ++ ps.inlined escaper rest := by
  induction cs with
  | nil => rfl
  | cons c cs ih =>
    obtain ⟨hne, hrest⟩ := not_or.1 (mt List.mem_cons.2 h)
    rw [List.cons_append, inlined_cons_of_ne (Ne.symm hne), ih hrest, List.cons_append]

theorem not_mem_takeWhile_isDecimalDigit (cs : List Char) :
    ':' ∉ cs.takeWhile Text.isDecimalDigit := by
  intro hmem
  have hdigit := List.all_eq_true.1 List.all_takeWhile _ hmem
  revert hdigit
  decide

/-- **A character stands for itself** unless a placeholder begins there that a value is bound to. -/
theorem inlined_cons
    (h : ∀ digits rest, Piece.atFront? (c :: cs) = some (digits, rest) →
      ps.get? (String.ofList ('p' :: '_' :: digits)) = none) :
    ps.inlined escaper (c :: cs) = c :: ps.inlined escaper cs := by
  cases hfront : Piece.atFront? (c :: cs) with
  | none =>
    rw [inlined, Piece.cut_cons_of_atFront?_eq_none hfront]
    rfl
  | some found =>
    obtain ⟨digits, rest⟩ := found
    obtain ⟨tail, heq, -, hdigits, hrest⟩ := Piece.atFront?_eq_some_iff.1 hfront
    obtain ⟨rfl, rfl⟩ := List.cons.inj heq
    -- the placeholder is found and left as it is, which is what its characters come to one by one
    have hmark : ':' ∉ ['p', '_'] ++ digits := by
      rw [hdigits, List.mem_append]
      exact not_or.2 ⟨by decide, not_mem_takeWhile_isDecimalDigit tail⟩
    have htail : 'p' :: '_' :: tail = ['p', '_'] ++ digits ++ rest := by
      rw [hdigits, hrest, List.append_assoc, List.takeWhile_append_dropWhile]
      rfl
    rw [htail, inlined_append_of_not_mem hmark, ← htail, inlined,
      Piece.cut_of_atFront?_eq_some hfront, List.flatMap_cons, Piece.write,
      h digits rest hfront]
    rfl

/-! ### Placeholders -/

/-- The digits of a number are decimal digits. -/
theorem isDecimalDigit_of_mem_toDigits {n : Nat} : ∀ d ∈ Nat.toDigits 10 n,
    Text.isDecimalDigit d = true := by
  intro d hd
  exact Template.isDecimalDigit_of_isDigit (Nat.isDigit_of_mem_toDigits (by decide) (by decide) hd)

theorem toList_nameAt (n : Nat) : (nameAt n).toList = 'p' :: '_' :: Nat.toDigits 10 n := by
  rw [nameAt, String.toList_append, Nat.toList_repr]
  rfl

theorem toList_placeholderAt_append (n : Nat) (cs : List Char) :
    (placeholderAt n).toList ++ cs = ':' :: 'p' :: '_' :: (Nat.toDigits 10 n ++ cs) := by
  rw [placeholderAt, String.toList_append, toList_nameAt]
  rfl

theorem ofList_toDigits (n : Nat) :
    String.ofList ('p' :: '_' :: Nat.toDigits 10 n) = nameAt n := by
  rw [← toList_nameAt, String.ofList_toList]

/-- **A placeholder is found whole** if no digit follows it, and its literal takes its place. -/
theorem inlined_placeholderAt {n : Nat} {v : Value} (hv : ps.Refers n v)
    (hbehind : ∀ d ∈ cs.head?, Text.isDecimalDigit d = false) :
    ps.inlined escaper ((placeholderAt n).toList ++ cs) =
      (escaper.inlined v).toList ++ ps.inlined escaper cs := by
  have hfront := Piece.atFront?_mark_append Nat.toDigits_ne_nil
    (isDecimalDigit_of_mem_toDigits (n := n)) hbehind
  rw [toList_placeholderAt_append, inlined, Piece.cut_of_atFront?_eq_some hfront,
    List.flatMap_cons, Piece.write, ofList_toDigits, hv]
  rfl

/-- Nothing is bound to a name whose digits do not begin like a number. -/
theorem Numbered.get?_eq_none (h : ps.Numbered) {d : Char} {digits : List Char}
    (hd : d.isDigit = false) : ps.get? (String.ofList ('p' :: '_' :: d :: digits)) = none := by
  rw [get?, Option.map_eq_none_iff, List.find?_eq_none]
  intro p hp hname
  obtain ⟨n, hn⟩ := h.exists_eq_nameAt hp
  rw [beq_iff_eq, hn, ← String.toList_inj, toList_nameAt, String.toList_ofList] at hname
  have hmem : d ∈ Nat.toDigits 10 n := by
    rw [(List.cons.inj (List.cons.inj hname).2).2]
    exact List.mem_cons_self
  rw [Nat.isDigit_of_mem_toDigits (by decide) (by decide) hmem] at hd
  exact Bool.false_ne_true hd.symm

end Params

/-! ### Texts that spell clean templates -/

namespace Template

variable {stands : Nat → Value → Prop} {t : Template} {c : Char} {cs : List Char}

/-- A character other than the mark of placeholders is a character of the template. -/
theorem SpelledBy.exists_of_ne (h : SpelledBy stands t (c :: cs)) (hc : c ≠ ':') :
    ∃ rest, t = .char c :: rest ∧ SpelledBy stands rest cs := by
  generalize htext : c :: cs = text at h
  cases h with
  | nil => cases htext
  | char d hrest =>
    obtain ⟨rfl, rfl⟩ := List.cons.inj htext
    exact ⟨_, rfl, hrest⟩
  | value hv hrest =>
    rw [Params.placeholderAt, String.toList_append] at htext
    exact absurd (List.cons.inj htext).1 hc

theorem Clean.of_cons {s : Symbol} (h : Clean (s :: t)) : Clean t :=
  fun accident haccident hwithin ↦
    h accident haccident (hwithin.trans (List.suffix_cons s t).isInfix)

end Template

namespace Params

variable {ps : Params} {escaper : Escaper}

/-- A clean template is written as its text is inlined. -/
theorem inlined_of_spelledBy (h : ps.Numbered) {t : Template} {cs : List Char}
    (hspelled : SpelledBy ps.Refers t cs) (hclean : Clean t) :
    ps.inlined escaper cs = t.flatMap (Symbol.write escaper.inlined) := by
  induction hspelled with
  | nil => exact inlined_nil
  | @char c t cs hrest ih =>
    rw [inlined_cons, ih hclean.of_cons]
    · rfl
    · -- a placeholder that is found here is none of ours, for the template does not spell it
      intro digits rest hfront
      obtain ⟨tail, heq, hne, hdigits, -⟩ := Piece.atFront?_eq_some_iff.1 hfront
      obtain ⟨rfl, rfl⟩ := List.cons.inj heq
      obtain ⟨t₁, rfl, h₁⟩ := hrest.exists_of_ne (by decide)
      obtain ⟨t₂, rfl, h₂⟩ := h₁.exists_of_ne (by decide)
      cases tail with
      | nil => exact absurd hdigits hne
      | cons d tail =>
        cases hd : Text.isDecimalDigit d with
        | false =>
          rw [List.takeWhile_cons, hd] at hdigits
          exact absurd hdigits hne
        | true =>
          have hcolon : d ≠ ':' := by
            rintro rfl
            exact absurd hd (by decide)
          obtain ⟨t₃, rfl, -⟩ := h₂.exists_of_ne hcolon
          have hdigit : d.isDigit = false := by
            rw [Bool.eq_false_iff]
            intro hdigit
            exact hclean _ (.spelled d hdigit) ⟨[], t₃, rfl⟩
          rw [hdigits, List.takeWhile_cons, hd]
          exact h.get?_eq_none hdigit
  | @value n v t cs hv hrest ih =>
    rw [inlined_placeholderAt hv, ih hclean.of_cons]
    · rfl
    · -- a digit behind the placeholder would be one of the template
      intro d hd
      cases cs with
      | nil => cases hd
      | cons e cs =>
        obtain rfl : e = d := by simpa using hd
        rw [Bool.eq_false_iff]
        intro hdigit
        have hcolon : e ≠ ':' := by
          rintro rfl
          exact absurd hdigit (by decide)
        obtain ⟨t₁, rfl, -⟩ := hrest.exists_of_ne hcolon
        exact hclean _ (.digit v e hdigit) ⟨[], t₁, rfl⟩

/-- **Inlining is writing values at once.** -/
theorem inline_of_isSpelledBy (h : ps.Numbered) {t : Template} {text : String}
    (hspelled : IsSpelledBy ps.Refers t text) (hclean : Clean t) (escaper : Escaper) :
    ps.inline escaper text = t.write (Value.shown escaper) := by
  rw [inline, Template.write, ← escaper.inlined_eq_shown, ← inlined_of_spelledBy h hspelled hclean]
  rfl

end Params

end ParamSql
