import ParamSql.Proofs.Param.Inlined

/-!
# Placeholders are replaced whole, and once

A text consists of stretches in which there is no placeholder and of placeholders between them, each
with all the digits that follow its mark. Where it is shown, the stretches stay and every
placeholder is replaced by the literal of what its name was bound to first (`Substituted`). That
says nothing of a scanner, and yet it leaves no choice: inlining makes such a text
(`substituted_inlined`), and there is no other one (`inlined_eq_of_substituted`).

Both directions rest on the seam between two parts of a text (`Piece.cut_append`). The pieces of the
whole are those of the parts, unless the second part begins with a character that a placeholder goes
on with. A placeholder does not begin with such a character, so nothing in front of one, not even an
unfinished mark, changes how it is read.
-/

namespace ParamSql

open Text (isDecimalDigit)

/-! ### Pieces of a text in parts -/

namespace Piece

variable {a b cs digits rest : List Char}

/-- There is no placeholder in the text. -/
def Absent (cs : List Char) : Prop :=
  ∀ d : Char, isDecimalDigit d = true → ¬ [':', 'p', '_', d] <:+: cs

/-- The text does not begin with what a placeholder goes on with. -/
def Apart (cs : List Char) : Prop :=
  ∀ c ∈ cs.head?, (Symbol.char c).continues = false

/-- A placeholder begins where its mark stands in front of a digit, and nowhere else. -/
theorem atFront?_eq_none_iff :
    atFront? cs = none ↔ ∀ d, isDecimalDigit d = true → ¬ [':', 'p', '_', d] <+: cs := by
  rw [Option.eq_none_iff_forall_ne_some]
  constructor
  · rintro hnone d hd ⟨behind, rfl⟩
    refine hnone _ (atFront?_eq_some_iff.2 ⟨d :: behind, rfl, ?_, rfl, rfl⟩)
    rw [List.takeWhile_cons_of_pos hd]
    exact List.cons_ne_nil _ _
  · rintro hnone ⟨digits, rest⟩ hfront
    obtain ⟨tail, rfl, hne, rfl, -⟩ := atFront?_eq_some_iff.1 hfront
    cases tail with
    | nil => exact hne rfl
    | cons d tail =>
      by_cases hd : isDecimalDigit d = true
      · exact hnone d hd ⟨tail, rfl⟩
      · exact hne (List.takeWhile_cons_of_neg hd)

/-- A text with a placeholder at the front is the placeholder, with all its digits, and a rest. -/
theorem eq_source_append_of_atFront? (h : atFront? cs = some (digits, rest)) :
    cs = (placeholder digits).source ++ rest ∧ digits ≠ [] ∧
      (∀ d ∈ digits, isDecimalDigit d = true) ∧
      ∀ d ∈ rest.head?, isDecimalDigit d = false := by
  obtain ⟨tail, rfl, hne, rfl, rfl⟩ := atFront?_eq_some_iff.1 h
  refine ⟨?_, hne, List.all_eq_true.1 List.all_takeWhile, fun d hd ↦ ?_⟩
  · rw [source, List.cons_append, List.cons_append, List.cons_append,
      List.takeWhile_append_dropWhile]
  · have hstop := List.head?_dropWhile_not isDecimalDigit tail
    rw [Option.mem_def.1 hd] at hstop
    exact hstop

/-- It is the same in a longer text, if no digit follows. -/
theorem atFront?_append_of_eq_some (h : atFront? a = some (digits, rest))
    (hb : ∀ d ∈ b.head?, isDecimalDigit d = false) :
    atFront? (a ++ b) = some (digits, rest ++ b) := by
  obtain ⟨rfl, hne, hdigits, hrest⟩ := eq_source_append_of_atFront? h
  rw [List.append_assoc]
  refine atFront?_mark_append hne hdigits fun d hd ↦ ?_
  rw [List.head?_append] at hd
  rcases Option.or_eq_some_iff.1 hd with hd | ⟨-, hd⟩
  · exact hrest d hd
  · exact hb d hd

/-- None comes about at the front where a text is continued apart. -/
theorem atFront?_append_of_eq_none (h : atFront? a = none) (hne : a ≠ []) (hb : Apart b) :
    atFront? (a ++ b) = none := by
  rw [atFront?_eq_none_iff] at h ⊢
  intro d hd hwhole
  rcases List.prefix_or_prefix_of_prefix hwhole (List.prefix_append a b) with hfirst | ⟨tail, hmark⟩
  · exact h d hd hfirst
  · -- the mark begins in the one and goes on in the other, with a character that continues it
    obtain ⟨c, a, rfl⟩ := List.exists_cons_of_ne_nil hne
    obtain ⟨rfl, htail⟩ := List.cons.inj hmark
    cases tail with
    | nil =>
      rw [List.append_nil] at hmark
      exact h d hd (hmark ▸ List.prefix_refl _)
    | cons e tail =>
      rw [← hmark, List.prefix_append_right_inj] at hwhole
      obtain ⟨behind, rfl⟩ := hwhole
      have hcontinues : ∀ e ∈ ['p', '_', d], (Symbol.char e).continues = true := by
        simp [Symbol.continues, hd]
      have he := hcontinues e (htail ▸ List.mem_append_right a List.mem_cons_self)
      rw [hb e rfl] at he
      exact Bool.false_ne_true he

/-- **The pieces of a text in two parts** are those of the parts, if the second one stands apart. -/
theorem cut_append (a : List Char) (hb : Apart b) : cut (a ++ b) = cut a ++ cut b := by
  have hdigit : ∀ d ∈ b.head?, isDecimalDigit d = false := by
    intro d hd
    have hcontinues := hb d hd
    simp_all [Symbol.continues]
  -- by induction along the pieces of the first part
  induction a using cut.induct with
  | case1 a digits rest hfront _ ih =>
    rw [cut_of_atFront?_eq_some hfront,
      cut_of_atFront?_eq_some (atFront?_append_of_eq_some hfront hdigit), ih, List.cons_append]
  | case2 => rw [cut_nil, List.nil_append, List.nil_append]
  | case3 c rest hfront ih =>
    have hwhole := atFront?_append_of_eq_none hfront (List.cons_ne_nil c rest) hb
    rw [List.cons_append] at hwhole ⊢
    rw [cut_cons_of_atFront?_eq_none hfront, cut_cons_of_atFront?_eq_none hwhole, ih,
      List.cons_append]

theorem apart_source (digits rest : List Char) : Apart ((placeholder digits).source ++ rest) := by
  rintro c hc
  obtain rfl : ':' = c := Option.some.inj hc
  decide

/-- **A placeholder is one piece**, whatever stands in front of it. -/
theorem cut_append_placeholder (a : List Char) (hne : digits ≠ [])
    (hdigits : ∀ d ∈ digits, isDecimalDigit d = true)
    (hb : ∀ d ∈ b.head?, isDecimalDigit d = false) :
    cut (a ++ ((placeholder digits).source ++ b)) = cut a ++ placeholder digits :: cut b := by
  rw [cut_append a (apart_source digits b), source]
  exact congrArg (cut a ++ ·) (cut_of_atFront?_eq_some (atFront?_mark_append hne hdigits hb))

/-- Where there is no placeholder, every character is a piece. -/
theorem cut_of_absent (h : Absent cs) : cut cs = cs.map plain := by
  induction cs with
  | nil => exact cut_nil
  | cons c cs ih =>
    have hfront : atFront? (c :: cs) = none :=
      atFront?_eq_none_iff.2 fun d hd hwithin ↦ h d hd hwithin.isInfix
    have hrest : Absent cs :=
      fun d hd hwithin ↦ h d hd (hwithin.trans (List.suffix_cons c cs).isInfix)
    rw [cut_cons_of_atFront?_eq_none hfront, ih hrest, List.map_cons]

theorem absent_nil : Absent [] :=
  fun _ _ hwithin ↦ absurd (List.infix_nil.1 hwithin) (List.cons_ne_nil _ _)

/-- A placeholder is absent from a longer text if it does not begin with the new character. -/
theorem Absent.cons {c : Char} (h : Absent cs)
    (hfront : ∀ d, isDecimalDigit d = true → ¬ [':', 'p', '_', d] <+: c :: cs) :
    Absent (c :: cs) :=
  fun d hd hwithin ↦ (List.infix_cons_iff.1 hwithin).elim (hfront d hd) (h d hd)

end Piece

/-! ### Replacing placeholders -/

open Piece (Absent placeholder)

/-- What takes the place of a placeholder: the literal of what its name was bound to first, `null`
for the absent value and two quotes for the empty text whatever the escaper. A name that nothing is
bound to stays, with its mark. -/
def Parameter.shown (escaper : Escaper) (name : String) : List Parameter → String
  | [] => ":" ++ name
  | p :: later =>
    if p.name = name then
      match p.value with
      | .null => "null"
      | .text s => if s = "" then "''" else escaper (.text s)
      | .bool b => escaper (.bool b)
      | .int i => escaper (.int i)
      | .double d => escaper (.double d)
    else shown escaper name later

/-- The second text is the first one with every placeholder replaced: stretches without placeholders
stay, and a placeholder between them goes as a whole, with all the digits that follow its mark. -/
inductive Substituted (literal : String → String) : List Char → List Char → Prop
  /-- There is no placeholder left. -/
  | rest {cs : List Char} : Absent cs → Substituted literal cs cs
  /-- The first placeholder is replaced, and then those behind it. -/
  | placeholder {before digits behind shown : List Char} :
      Absent before → digits ≠ [] → (∀ d ∈ digits, isDecimalDigit d = true) →
      (∀ d ∈ behind.head?, isDecimalDigit d = false) → Substituted literal behind shown →
      Substituted literal (before ++ ((placeholder digits).source ++ behind))
        (before ++ ((literal (String.ofList ('p' :: '_' :: digits))).toList ++ shown))

/-- In front of a text in which no placeholder comes first a character stands for itself. -/
theorem Substituted.cons {literal : String → String} {c : Char} {cs shown : List Char}
    (h : Substituted literal cs shown) (hfront : Piece.atFront? (c :: cs) = none) :
    Substituted literal (c :: cs) (c :: shown) := by
  rw [Piece.atFront?_eq_none_iff] at hfront
  cases h with
  | rest habsent => exact .rest (habsent.cons hfront)
  | @placeholder before digits behind shown hbefore hne hdigits hbehind hrest =>
    have hlonger : Absent (c :: before) := hbefore.cons fun d hd hwithin ↦
      hfront d hd (hwithin.trans (List.prefix_append (c :: before) _))
    exact .placeholder hlonger hne hdigits hbehind hrest

namespace Params

variable (ps : Params) (escaper : Escaper)

theorem toList_mark_append (digits : List Char) :
    (":" ++ String.ofList ('p' :: '_' :: digits)).toList = (placeholder digits).source := by
  have hmark : ":".toList = [':'] := by decide
  rw [String.toList_append, hmark, String.toList_ofList]
  rfl

/-- A placeholder is written as what takes its place. -/
theorem write_placeholder (digits : List Char) :
    Piece.write escaper ps (placeholder digits) =
      (Parameter.shown escaper (String.ofList ('p' :: '_' :: digits)) ps.entries).toList := by
  rw [Piece.write, get?, ← toList_mark_append]
  -- by induction on the bindings, of which the first one with the name counts
  induction ps.entries with
  | nil => rfl
  | cons p later ih =>
    rw [Parameter.shown, List.find?_cons]
    by_cases hname : p.name = String.ofList ('p' :: '_' :: digits)
    · rw [if_pos hname, beq_iff_eq.2 hname]
      cases hvalue : p.value with
      | text s => by_cases hs : s = "" <;> simp [Escaper.inlined, hvalue, hs]
      | null | bool | int | double => simp [Escaper.inlined, hvalue]
    · rw [if_neg hname, beq_eq_false_iff_ne.2 hname]
      exact ih

variable {ps escaper}

/-- Where there is no placeholder, nothing changes. -/
theorem inlined_of_absent {cs : List Char} (h : Absent cs) : ps.inlined escaper cs = cs := by
  rw [inlined, Piece.cut_of_absent h, List.flatMap_map]
  exact List.flatMap_singleton' cs

/-- **A placeholder in the middle of a text** is replaced, and what is in front of it and behind it
is shown as it is on its own. -/
theorem inlined_append_placeholder (a : List Char) {digits b : List Char} (hne : digits ≠ [])
    (hdigits : ∀ d ∈ digits, isDecimalDigit d = true)
    (hb : ∀ d ∈ b.head?, isDecimalDigit d = false) :
    ps.inlined escaper (a ++ ((placeholder digits).source ++ b)) =
      ps.inlined escaper a ++
        ((Parameter.shown escaper (String.ofList ('p' :: '_' :: digits)) ps.entries).toList ++
          ps.inlined escaper b) := by
  rw [inlined, Piece.cut_append_placeholder a hne hdigits hb, List.flatMap_append,
    List.flatMap_cons, write_placeholder]
  rfl

/-- **What is shown is the text with every placeholder replaced.** -/
theorem substituted_inlined (cs : List Char) :
    Substituted (Parameter.shown escaper · ps.entries) cs (ps.inlined escaper cs) := by
  -- by induction along the pieces of the text
  induction cs using Piece.cut.induct with
  | case1 cs digits rest hfront _ ih =>
    obtain ⟨rfl, hne, hdigits, hrest⟩ := Piece.eq_source_append_of_atFront? hfront
    have hinlined := @inlined_append_placeholder ps escaper [] digits rest hne hdigits hrest
    rw [inlined_nil, List.nil_append, List.nil_append] at hinlined
    rw [hinlined]
    exact .placeholder Piece.absent_nil hne hdigits hrest ih
  | case2 =>
    rw [inlined_nil]
    exact .rest Piece.absent_nil
  | case3 c rest hfront ih =>
    rw [inlined, Piece.cut_cons_of_atFront?_eq_none hfront]
    exact ih.cons hfront

/-- And there is no other such text. -/
theorem inlined_eq_of_substituted {cs shown : List Char}
    (h : Substituted (Parameter.shown escaper · ps.entries) cs shown) :
    ps.inlined escaper cs = shown := by
  induction h with
  | rest habsent => exact inlined_of_absent habsent
  | placeholder hbefore hne hdigits hbehind _ ih =>
    rw [inlined_append_placeholder _ hne hdigits hbehind, inlined_of_absent hbefore, ih]

theorem toList_inline (text : String) :
    (ps.inline escaper text).toList = ps.inlined escaper text.toList :=
  String.toList_ofList

/-- **Placeholders are replaced whole, and once.** In any text a placeholder that no digit follows
is replaced by the literal of its name, whatever comes before and behind it, and these are shown as
they are on their own. A text without placeholders is shown as it is. And all that happens to a text
is that its placeholders, with all their digits, are replaced. -/
theorem inline_substitutes (ps : Params) (escaper : Escaper) :
    (∀ (a b name : String) (digits : List Char), name.toList = 'p' :: '_' :: digits →
        digits ≠ [] → (∀ d ∈ digits, isDecimalDigit d = true) →
        (∀ d ∈ b.toList.head?, isDecimalDigit d = false) →
        ps.inline escaper (a ++ (":" ++ name) ++ b) =
          ps.inline escaper a ++ Parameter.shown escaper name ps.entries ++
            ps.inline escaper b) ∧
      (∀ text : String, Absent text.toList → ps.inline escaper text = text) ∧
      ∀ text shown : String,
        Substituted (Parameter.shown escaper · ps.entries) text.toList shown.toList ↔
          ps.inline escaper text = shown := by
  refine ⟨?_, fun text habsent ↦ ?_, fun text shown ↦ ?_⟩
  · intro a b name digits hname hne hdigits hb
    obtain rfl : name = String.ofList ('p' :: '_' :: digits) := by
      rw [← hname, String.ofList_toList]
    rw [← String.toList_inj, toList_inline, String.toList_append, String.toList_append,
      toList_mark_append, List.append_assoc, inlined_append_placeholder _ hne hdigits hb,
      String.toList_append, String.toList_append, toList_inline, toList_inline, List.append_assoc]
  · rw [← String.toList_inj, toList_inline, inlined_of_absent habsent]
  · rw [← String.toList_inj, toList_inline]
    refine ⟨inlined_eq_of_substituted, fun hshown ↦ ?_⟩
    rw [← hshown]
    exact substituted_inlined text.toList

/-- A name that is bound twice, behind an unfinished mark and in front of a longer name that begins
like it. Its literal looks like a placeholder. -/
theorem inline_substitutes_adjacent :
    let ps : Params := (({} : Params).register "p_0" (.text ":p_1")).register "p_0" (.int 7)
    "p_0".toList = 'p' :: '_' :: ['0'] ∧ (∀ d ∈ ['0'], isDecimalDigit d = true) ∧
      (∀ d ∈ ":p_01".toList.head?, isDecimalDigit d = false) ∧
      ps.inline Value.display ("x = :p_" ++ (":" ++ "p_0") ++ ":p_01") = "x = :p_:p_1:p_01" := by
  intro ps
  have hname : "p_0".toList = 'p' :: '_' :: ['0'] := by decide
  have hdigits : ∀ d ∈ ['0'], isDecimalDigit d = true := List.forall_mem_singleton.2 (by decide)
  have hb : ∀ d ∈ ":p_01".toList.head?, isDecimalDigit d = false := by
    have hhead : ":p_01".toList.head? = some ':' := by decide
    intro d hd
    obtain rfl := Option.some.inj (hhead.symm.trans hd)
    decide
  have hshown := (inline_substitutes ps Value.display).1 "x = :p_" ":p_01" "p_0" ['0'] hname
    (List.cons_ne_nil _ _) hdigits hb
  rw [hshown]
  exact ⟨hname, hdigits, hb, by decide +kernel⟩

end Params

end ParamSql
