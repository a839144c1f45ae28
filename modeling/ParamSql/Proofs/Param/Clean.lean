import ParamSql.Text.DecimalDigit
import ParamSql.Proofs.Param.Template
import Mathlib.Data.List.Infix

/-!
# Templates without accidents

Placeholders are found in the finished text of a statement, where nothing tells those that stand for
values from what only looks like one. A template is *clean* if its text has no other placeholders
than those in the places of its values: it nowhere spells out a placeholder, and no digit follows a
value, which would be taken for a part of its number (`Accident`).

Clean templates are not clean any more when they are put side by side, for an accident may begin in
the one and go on in the other. It cannot if the second one does not begin with what accidents go on
with, and it cannot if the first one has nothing in it that accidents begin with (`Clean.append`).
Texts of the first kind are what separates the parts of a statement, and texts of both kinds are all
that is put around what a caller says (`IsSeparator`).
-/

namespace ParamSql

/-- A text does not spell out a placeholder. -/
def Text.LacksPlaceholders (text : String) : Prop :=
  ∀ d : Char, d.isDigit = true → ¬ [':', 'p', '_', d] <:+: text.toList

namespace Symbol

/-- Placeholders may begin with the symbol. -/
def opens : Symbol → Bool
  | char c => c == ':'
  | value _ => true

/-- Placeholders may go on with the symbol. -/
def continues : Symbol → Bool
  | char c => c == 'p' || c == '_' || Text.isDecimalDigit c
  | value _ => false

end Symbol

namespace Template

variable {t t₁ t₂ : Template}

/-! ### Accidents -/

/-- What would be found as a placeholder, or change the number of one. -/
inductive Accident : Template → Prop
  /-- A placeholder that stands for nothing. -/
  | spelled (d : Char) (hd : d.isDigit = true) :
      Accident [.char ':', .char 'p', .char '_', .char d]
  /-- A digit behind the number of a placeholder. -/
  | digit (v : Value) (d : Char) (hd : Text.isDecimalDigit d = true) :
      Accident [.value v, .char d]

/-- There are no accidents in the template. -/
def Clean (t : Template) : Prop :=
  ∀ accident, Accident accident → ¬ accident <:+: t

/-- ASCII digits are decimal digits. -/
theorem isDecimalDigit_of_isDigit {d : Char} (h : d.isDigit = true) :
    Text.isDecimalDigit d = true := by
  have hrange : 48 ≤ d.toNat ∧ d.toNat < 58 := by
    simp only [Char.isDigit, Bool.and_eq_true, decide_eq_true_eq, UInt32.le_iff_toNat_le] at h
    have hlower : 48 ≤ d.toNat := h.1
    have hupper : d.toNat ≤ 57 := h.2
    omega
  simp [Text.isDecimalDigit, Text.digitZeros, hrange.1, hrange.2]

/-- An accident begins with a symbol that opens, and goes on with symbols that continue. -/
theorem Accident.eq_cons {accident : Template} (h : Accident accident) :
    ∃ first rest, accident = first :: rest ∧ first.opens = true ∧
      ∀ s ∈ rest, s.continues = true := by
  cases h with
  | spelled d hd =>
    refine ⟨_, _, rfl, rfl, ?_⟩
    simp [Symbol.continues, isDecimalDigit_of_isDigit hd]
  | digit v d hd =>
    refine ⟨_, _, rfl, rfl, ?_⟩
    simp [Symbol.continues, hd]

/-! ### Clean templates -/

theorem clean_nil : Clean [] := by
  intro accident h hwithin
  obtain ⟨first, rest, rfl, -, -⟩ := h.eq_cons
  exact absurd (List.infix_nil.1 hwithin) (List.cons_ne_nil _ _)

/-- Nothing in the template can open a placeholder. -/
def Plain (t : Template) : Prop :=
  ∀ s ∈ t, s.opens = false

/-- The template does not begin with what could continue a placeholder. -/
def Breaks (t : Template) : Prop :=
  ∀ s ∈ t.head?, s.continues = false

/-- **Clean templates side by side** are clean, if no accident goes from one to the other. -/
theorem Clean.append (h₁ : Clean t₁) (h₂ : Clean t₂) (hmeet : Plain t₁ ∨ Breaks t₂) :
    Clean (t₁ ++ t₂) := by
  intro accident haccident hwithin
  rcases List.infix_append_iff_ne_nil.1 hwithin with hfirst | hsecond |
    ⟨start, tail, hstart, htail, heq, hsuffix, hstarts⟩
  · exact h₁ accident haccident hfirst
  · exact h₂ accident haccident hsecond
  · -- the accident begins in the one and goes on in the other
    obtain ⟨first, rest, rfl, hopens, hcontinues⟩ := haccident.eq_cons
    obtain ⟨s, start, rfl⟩ := List.exists_cons_of_ne_nil hstart
    obtain ⟨next, tail, rfl⟩ := List.exists_cons_of_ne_nil htail
    obtain ⟨rfl, hrest⟩ := List.cons.inj heq
    rcases hmeet with hplain | hbreaks
    · have hmem : first ∈ t₁ := hsuffix.subset List.mem_cons_self
      rw [hplain first hmem] at hopens
      exact Bool.false_ne_true hopens
    · obtain ⟨behind, rfl⟩ := hstarts
      have hnext : next.continues = true :=
        hcontinues next (hrest ▸ List.mem_append_right _ List.mem_cons_self)
      rw [hbreaks next rfl] at hnext
      exact Bool.false_ne_true hnext

theorem Plain.clean (h : Plain t) : Clean t := by
  intro accident haccident hwithin
  obtain ⟨first, rest, rfl, hopens, -⟩ := haccident.eq_cons
  rw [h first (hwithin.subset List.mem_cons_self)] at hopens
  exact Bool.false_ne_true hopens

/-- A value alone is clean. -/
theorem clean_value (v : Value) : Clean [.value v] := by
  intro accident haccident hwithin
  have hlength := hwithin.length_le
  cases haccident <;> simp at hlength

/-- A text that does not spell out a placeholder is clean. -/
theorem clean_ofText {text : String} (h : Text.LacksPlaceholders text) : Clean (ofText text) := by
  intro accident haccident hwithin
  obtain ⟨cs, hcs, rfl⟩ := List.infix_map_iff.1 hwithin
  generalize hsymbols : cs.map Symbol.char = symbols at haccident
  cases haccident with
  | spelled d hd =>
    have heq : cs = [':', 'p', '_', d] := by
      refine List.map_injective_iff.2 (fun a b hab ↦ Symbol.char.inj hab) ?_
      exact hsymbols
    exact h d hd (heq ▸ hcs)
  | digit v d hd =>
    cases cs with
    | nil => cases hsymbols
    | cons c cs => cases (List.cons.inj hsymbols).1

/-! ### Texts around others -/

/-- There is no colon in the text. -/
theorem plain_ofText {text : String} (h : ':' ∉ text.toList) : Plain (ofText text) := by
  intro s hs
  obtain ⟨c, hc, rfl⟩ := List.mem_map.1 hs
  exact beq_false_of_ne fun hcolon ↦ h (hcolon ▸ hc)

/-- A text that may stand behind anything and before anything. -/
structure IsSeparator (text : String) : Prop where
  /-- There is no colon in it. -/
  colonless : ':' ∉ text.toList
  /-- It does not continue a placeholder. -/
  breaks : (text.toList.head?.any fun c ↦ !(Symbol.char c).continues) = true

instance (text : String) : Decidable (IsSeparator text) :=
  decidable_of_iff (':' ∉ text.toList ∧
      (text.toList.head?.any fun c ↦ !(Symbol.char c).continues) = true)
    ⟨fun h ↦ ⟨h.1, h.2⟩, fun h ↦ ⟨h.colonless, h.breaks⟩⟩

theorem IsSeparator.breaks_append {separator : String} (h : IsSeparator separator) (t : Template) :
    Breaks (ofText separator ++ t) := by
  have hbreaks := h.breaks
  intro s hs
  rw [ofText] at hs
  cases hcs : separator.toList with
  | nil =>
    rw [hcs] at hbreaks
    cases hbreaks
  | cons c cs =>
    rw [hcs] at hbreaks hs
    obtain rfl : Symbol.char c = s := by simpa using hs
    simpa using hbreaks

/-- Clean templates are clean with a separator between them. -/
theorem Clean.separated {separator : String} (h : IsSeparator separator) (h₁ : Clean t₁)
    (h₂ : Clean t₂) : Clean (t₁ ++ (ofText separator ++ t₂)) := by
  have hplain := plain_ofText h.colonless
  exact h₁.append (hplain.clean.append h₂ (.inl hplain)) (.inr (h.breaks_append t₂))

/-- Clean templates are clean with a separator behind them. -/
theorem Clean.ended {separator : String} (h : IsSeparator separator) (ht : Clean t) :
    Clean (t ++ ofText separator) := by
  have hseparated := ht.separated h clean_nil
  rwa [List.append_nil] at hseparated

/-- Clean templates are clean with a text without colon before them. -/
theorem Clean.opened {text : String} (h : ':' ∉ text.toList) (ht : Clean t) :
    Clean (ofText text ++ t) :=
  (plain_ofText h).clean.append ht (.inl (plain_ofText h))

/-- **Clean templates are clean when they are joined.** -/
theorem Clean.joined {separator : String} (h : IsSeparator separator) {parts : List Template}
    (hparts : ∀ t ∈ parts, Clean t) : Clean (joined separator parts) := by
  rw [Template.joined]
  induction parts with
  | nil => exact clean_nil
  | cons t parts ih =>
    obtain ⟨hfirst, hrest⟩ := List.forall_mem_cons.1 hparts
    cases parts with
    | nil => simpa using hfirst
    | cons second parts =>
      rw [List.intercalate_cons_cons, List.append_assoc]
      exact hfirst.separated h (ih hrest)

end Template

end ParamSql
