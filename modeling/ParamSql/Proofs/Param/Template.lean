import ParamSql.Param.Basic
import Mathlib.Data.List.Forall2

/-!
# Templates

A *template* is what a text says before its values are taken care of: characters, and values in the
places where they belong. There are two ways to make a text of it. A pen writes the values out
(`Template.write`); a statement refers to them, by placeholders that stand for them
(`Template.SpelledBy`).

For the second way it is left open which number a placeholder has and what it means for a number to
stand for a value. So a text that spells a template goes on spelling it as long as the numbers in it
keep their values (`SpelledBy.mono`), and templates are spelled part by part (`SpelledBy.append`,
`SpelledBy.joined`).
-/

namespace ParamSql

/-- One symbol of a template. -/
inductive Symbol
  /-- A character that stands for itself. -/
  | char (c : Char)
  /-- A value, in its place. -/
  | value (v : Value)

/-- The characters that a pen for values writes a symbol with. -/
def Symbol.write (pen : Value → String) : Symbol → List Char
  | char c => [c]
  | value v => (pen v).toList

/-- A text with values in it. -/
abbrev Template :=
  List Symbol

namespace Template

/-- A text without values. -/
def ofText (text : String) : Template :=
  text.toList.map .char

/-- Several templates, separated by a text. -/
def joined (separator : String) (parts : List Template) : Template :=
  (ofText separator).intercalate parts

/-- The text in which every value is written out where it stands. -/
def write (pen : Value → String) (t : Template) : String :=
  String.ofList (t.flatMap (Symbol.write pen))

theorem ofText_append (first second : String) :
    ofText (first ++ second) = ofText first ++ ofText second := by
  rw [ofText, String.toList_append, List.map_append, ofText, ofText]

theorem ofText_intercalate (separator : String) (texts : List String) :
    ofText (separator.intercalate texts) = joined separator (texts.map ofText) := by
  induction texts with
  | nil => rfl
  | cons text texts ih =>
    cases texts with
    | nil => simp [joined]
    | cons second rest =>
      rw [String.intercalate_cons_cons, ofText_append, ofText_append, ih, joined, joined,
        List.map_cons, List.map_cons, List.map_cons, List.intercalate_cons_cons]

/-! ### Texts that spell a template -/

/-- The characters are those of the template, with a placeholder in the place of every value, whose
number stands for that value. -/
inductive SpelledBy (stands : Nat → Value → Prop) : Template → List Char → Prop
  /-- Nothing is spelled by nothing. -/
  | nil : SpelledBy stands [] []
  /-- A character is spelled by itself. -/
  | char (c : Char) {t : Template} {cs : List Char} :
      SpelledBy stands t cs → SpelledBy stands (.char c :: t) (c :: cs)
  /-- A value is spelled by a placeholder for it. -/
  | value {n : Nat} {v : Value} {t : Template} {cs : List Char} :
      stands n v → SpelledBy stands t cs →
        SpelledBy stands (.value v :: t) ((Params.placeholderAt n).toList ++ cs)

/-- The text is that of the template, with a placeholder in the place of every value. -/
abbrev IsSpelledBy (stands : Nat → Value → Prop) (t : Template) (text : String) : Prop :=
  SpelledBy stands t text.toList

namespace SpelledBy

variable {stands stands' : Nat → Value → Prop} {t t₁ t₂ : Template} {cs cs₁ cs₂ : List Char}

/-- What a text spells depends on the numbers in it only. -/
theorem mono (h : SpelledBy stands t cs) (hstands : ∀ n v, stands n v → stands' n v) :
    SpelledBy stands' t cs := by
  induction h with
  | nil => exact .nil
  | char c _ ih => exact ih.char c
  | value hvalue _ ih => exact ih.value (hstands _ _ hvalue)

theorem append (h₁ : SpelledBy stands t₁ cs₁) (h₂ : SpelledBy stands t₂ cs₂) :
    SpelledBy stands (t₁ ++ t₂) (cs₁ ++ cs₂) := by
  induction h₁ with
  | nil => exact h₂
  | char c _ ih => exact ih.char c
  | value hvalue _ ih =>
    rw [List.cons_append, List.append_assoc]
    exact ih.value hvalue

theorem ofText (text : String) : IsSpelledBy stands (Template.ofText text) text := by
  rw [IsSpelledBy, Template.ofText]
  induction text.toList with
  | nil => exact .nil
  | cons c cs ih => exact ih.char c

/-- A placeholder spells the value that its number stands for. -/
theorem placeholder {n : Nat} {v : Value} (h : stands n v) :
    IsSpelledBy stands [.value v] (Params.placeholderAt n) := by
  have hvalue := SpelledBy.nil.value h
  rwa [List.append_nil] at hvalue

/-- Texts that spell templates spell them joined if they are joined. -/
theorem joined (separator : String) {parts : List Template} {texts : List String}
    (h : List.Forall₂ (IsSpelledBy stands) parts texts) :
    IsSpelledBy stands (Template.joined separator parts) (separator.intercalate texts) := by
  rw [IsSpelledBy, Template.joined, String.toList_intercalate]
  induction h with
  | nil => exact .nil
  | @cons t text parts texts hfirst hrest ih =>
    cases hrest with
    | nil => simpa using hfirst
    | cons hsecond hrest =>
      rw [List.map_cons, List.map_cons, List.intercalate_cons_cons, List.intercalate_cons_cons]
      exact (hfirst.append (.ofText separator)).append ih

/-- Only the empty text spells the empty template. -/
theorem eq_nil_iff (h : SpelledBy stands t cs) : t = [] ↔ cs = [] := by
  cases h with
  | nil => exact iff_of_true rfl rfl
  | char c _ => simp
  | value _ _ => simp [Params.placeholderAt]

end SpelledBy

end Template

end ParamSql
