import ParamSql.Proofs.Identifier.Lookup
import Mathlib.Data.List.Forall2

/-!
# Names in a text

A *wording* is what a text says before it is decided how names are written in it. A text spells a
wording if every name stands in its place, between backticks or, unless it is a reserved word, as it
is (`Wording.SpelledBy`): to the database, a reserved word that is written as it is would be a
keyword. So in a text that spells a wording, a reserved word that is a name stands between backticks
(`SpelledBy.exists_quoted`).

There are places in which a name is written as it is given, whether it is reserved or not. Which
part of a wording stands there is left open: one that says just that (`Part.given`), or one that
asks for a name (`Part.name`) where the name is no reserved word (`SpelledBy.ofName`). What is made
of a column by resolving it spells the column behind its alias either way (`spelledBy_resolve`).
-/

namespace ParamSql

open Text (tick)

namespace Identifier

/-! ### Reserved words -/

/-- The name is one of the reserved words in some mixture of cases. -/
def IsReservedWord (name : String) : Prop :=
  upperCase name ∈ reservedWords

instance (name : String) : Decidable (IsReservedWord name) :=
  decidable_of_iff (isReserved name = true) isReserved_iff

/-- There is no backtick in a reserved word that would have to be doubled. -/
theorem quote_eq {name : String} (h : IsReservedWord name) : quote name = "`" ++ name ++ "`" := by
  have hplain : ∀ c ∈ name.toList, (if c = tick then [tick, tick] else [c]) = [c] := by
    intro c hc
    refine if_neg fun htick ↦ ?_
    have hfree := isReserved_eq_false_of_mem hc (.inl htick)
    rw [isReserved_iff.2 h] at hfree
    exact Bool.false_ne_true hfree.symm
  rw [← String.toList_inj, toList_quote, List.flatMap_congr hplain, List.flatMap_singleton']
  simp only [String.toList_append]
  rfl

theorem isQualified_iff {name : String} : isQualified name = true ↔ '.' ∈ name.toList := by
  rw [isQualified, List.contains_iff_mem]

/-- A name is qualified whether it is quoted or not. -/
theorem isQualified_bare (name : String) : isQualified (bare name) = isQualified name := by
  rw [bare]
  split
  · rename_i hreserved
    rw [Bool.eq_iff_iff, isQualified_iff, isQualified_iff]
    constructor
    · intro hdot
      exact (mem_toList_quote hdot).resolve_left (by decide)
    · intro hdot
      rw [isReserved_eq_false_of_mem hdot (.inr rfl)] at hreserved
      exact absurd hreserved Bool.false_ne_true
  · rfl

end Identifier

open Identifier (IsReservedWord)

/-! ### Wordings -/

/-- A part of a wording. -/
inductive Part
  /-- A text that stands for itself. -/
  | text (t : String)
  /-- A name, in its place. -/
  | name (n : String)
  /-- A name in its place, which is written as it is given. -/
  | given (n : String)
deriving DecidableEq

/-- A text with names in it. -/
abbrev Wording :=
  List Part

namespace Wording

/-- Several wordings, separated by a text. -/
def joined (separator : String) (wordings : List Wording) : Wording :=
  [Part.text separator].intercalate wordings

/-- The text is that of the wording, a name standing between backticks or, unless it is a reserved
word, as it is. -/
inductive SpelledBy : Wording → String → Prop
  /-- Nothing is spelled by nothing. -/
  | nil : SpelledBy [] ""
  /-- A text is spelled by itself. -/
  | text (t : String) {w : Wording} {s : String} :
      SpelledBy w s → SpelledBy (.text t :: w) (t ++ s)
  /-- A name is spelled by itself between backticks. -/
  | quoted (n : String) {w : Wording} {s : String} :
      SpelledBy w s → SpelledBy (.name n :: w) ("`" ++ n ++ "`" ++ s)
  /-- A name that is no reserved word is spelled by itself. -/
  | bare {n : String} {w : Wording} {s : String} :
      ¬ IsReservedWord n → SpelledBy w s → SpelledBy (.name n :: w) (n ++ s)
  /-- A name that is written as it is given is spelled by itself. -/
  | given (n : String) {w : Wording} {s : String} :
      SpelledBy w s → SpelledBy (.given n :: w) (n ++ s)

namespace SpelledBy

variable {w w₁ w₂ : Wording} {s s₁ s₂ : String}

theorem append (h₁ : SpelledBy w₁ s₁) (h₂ : SpelledBy w₂ s₂) :
    SpelledBy (w₁ ++ w₂) (s₁ ++ s₂) := by
  induction h₁ with
  | nil => rwa [List.nil_append, String.empty_append]
  | text t _ ih =>
    rw [List.cons_append, String.append_assoc]
    exact ih.text t
  | quoted n _ ih =>
    rw [List.cons_append, String.append_assoc]
    exact ih.quoted n
  | bare hfree _ ih =>
    rw [List.cons_append, String.append_assoc]
    exact ih.bare hfree
  | given n _ ih =>
    rw [List.cons_append, String.append_assoc]
    exact ih.given n

theorem ofText (t : String) : SpelledBy [.text t] t := by
  have h := SpelledBy.nil.text t
  rwa [String.append_empty] at h

theorem ofGiven (n : String) : SpelledBy [.given n] n := by
  have h := SpelledBy.nil.given n
  rwa [String.append_empty] at h

/-- A name that is no reserved word may be written as it is given. -/
theorem ofName {n : String} (h : ¬ IsReservedWord n) : SpelledBy [.name n] n := by
  have h := SpelledBy.nil.bare h
  rwa [String.append_empty] at h

/-- A text behind what spells a wording. -/
theorem ended (h : SpelledBy w s) (t : String) : SpelledBy (w ++ [.text t]) (s ++ t) :=
  h.append (.ofText t)

/-- Texts that spell wordings spell them joined if they are joined. -/
theorem joined (separator : String) {wordings : List Wording} {texts : List String}
    (h : List.Forall₂ SpelledBy wordings texts) :
    SpelledBy (Wording.joined separator wordings) (separator.intercalate texts) := by
  rw [Wording.joined]
  induction h with
  | nil => exact .nil
  | @cons first text wordings texts hfirst hrest ih =>
    cases hrest with
    | nil => simpa using hfirst
    | cons hsecond hrest =>
      rw [List.intercalate_cons_cons, String.intercalate_cons_cons]
      exact (hfirst.append (.ofText separator)).append ih

/-- **A reserved word that is a name stands between backticks.** -/
theorem exists_quoted (h : SpelledBy w s) {n : String} (hn : .name n ∈ w)
    (hreserved : IsReservedWord n) :
    ∃ before behind, s = before ++ ("`" ++ n ++ "`") ++ behind := by
  induction h with
  | nil => exact absurd hn List.not_mem_nil
  | @text t w s _ ih =>
    obtain ⟨before, behind, rfl⟩ := ih (by simpa using hn)
    exact ⟨t ++ before, behind, by simp only [String.append_assoc]⟩
  | @quoted m w s _ ih =>
    rcases List.mem_cons.1 hn with heq | hn
    · obtain rfl := Part.name.inj heq
      exact ⟨"", s, by rw [String.empty_append]⟩
    · obtain ⟨before, behind, rfl⟩ := ih hn
      exact ⟨"`" ++ m ++ "`" ++ before, behind, by simp only [String.append_assoc]⟩
  | @bare m w s hfree _ ih =>
    rcases List.mem_cons.1 hn with heq | hn
    · obtain rfl := Part.name.inj heq
      exact absurd hreserved hfree
    · obtain ⟨before, behind, rfl⟩ := ih hn
      exact ⟨m ++ before, behind, by simp only [String.append_assoc]⟩
  | @given m w s _ ih =>
    obtain ⟨before, behind, rfl⟩ := ih (by simpa using hn)
    exact ⟨m ++ before, behind, by simp only [String.append_assoc]⟩

end SpelledBy

/-! ### Columns -/

/-- A name that stands alone is written as a name. -/
theorem spelledBy_bare (name : String) : SpelledBy [.name name] (Identifier.bare name) := by
  rw [Identifier.bare]
  split
  · rename_i hreserved
    have hquoted := SpelledBy.nil.quoted name
    rwa [String.append_empty, ← Identifier.quote_eq (Identifier.isReserved_iff.1 hreserved)]
      at hquoted
  · rename_i hfree
    exact .ofName (mt Identifier.isReserved_iff.2 hfree)

/-- A column, behind the alias if there is one and the column has no qualifier of its own. What part
the alias is, is left open. -/
def ofColumn (part : String → Part) (alias? : Option String) (column : String) : Wording :=
  match alias? with
  | none => [.name column]
  | some qualifier =>
    if qualifier.isEmpty || Identifier.isQualified column then [.name column]
    else [part qualifier, .text ".", .name column]

/-- **A resolved column is written as a name**, its alias as it is given. -/
theorem spelledBy_resolve {part : String → Part} {alias? : Option String}
    (halias : ∀ qualifier ∈ alias?, SpelledBy [part qualifier] qualifier) (column : String) :
    SpelledBy (ofColumn part alias? column) (Identifier.resolve alias? column) := by
  cases alias? with
  | none => exact spelledBy_bare column
  | some qualifier =>
    simp only [ofColumn, Identifier.resolve, Identifier.isQualified_bare]
    split
    · exact spelledBy_bare column
    · rw [String.append_assoc]
      exact (halias qualifier rfl).append ((spelledBy_bare column).text ".")

end Wording

end ParamSql
