import ParamSql.Identifier.Basic
import Mathlib.Tactic.Common

/-!
# Resolved names

What a resolved name is made of, and that it is never a reserved word. The look-up in the table is
used in one direction only: what it finds is there (`mem_of_occursIn`). No reserved word has a
backtick or a dot in it, so a name that was quoted or qualified is not one, and a name that was left
alone was left alone because it is not one (`isReserved_resolve`). Where there is an alias to put in
front, a resolved name has a qualifier, its own or the alias (`isQualified_resolve`). With both of
them, there is nothing left to do on a resolved name (`resolve_resolve`).

A name is *plain* when it has characters of names only, and at least one. Resolving against a plain
alias keeps names plain (`IsPlain.resolve`), since all that it adds is backticks and a dot.
-/

namespace ParamSql.Identifier

open Text (tick)

/-! ### The look-up finds only what is there -/

theorem mem_of_occursBetween {table : Array String} {key : String} {lo hi : Nat}
    {hi_le : hi ≤ table.size} (h : occursBetween table key lo hi hi_le = true) : key ∈ table := by
  fun_induction occursBetween table key lo hi hi_le with
  | case1 lo hi hi_le hlt mid hmid heq => exact heq ▸ Array.getElem_mem hmid
  | case2 lo hi hi_le hlt mid hmid hne hless ih => exact ih h
  | case3 lo hi hi_le hlt mid hmid hne hless ih => exact ih h
  | case4 => exact absurd h Bool.false_ne_true

theorem mem_of_occursIn {table : Array String} {key : String} (h : occursIn table key = true) :
    key ∈ table :=
  mem_of_occursBetween h

/-! ### Names with a mark in them are not reserved -/

/-- The characters of reserved words. -/
def isWordChar (c : Char) : Bool :=
  c.isUpper || c.isDigit || c == '_'

/-- A word that is given by its characters is checked on them, one word of a list after the other:
evaluating `String.toList` on each word of the table would decode it anew. -/
theorem all_toList_cons_ofList {p : Char → Bool} {cs : List Char} {words : List String}
    (hcs : cs.all p = true) (hwords : ∀ word ∈ words, word.toList.all p = true) :
    ∀ word ∈ String.ofList cs :: words, word.toList.all p = true := by
  refine List.forall_mem_cons.2 ⟨?_, hwords⟩
  rwa [String.toList_ofList]

set_option maxRecDepth 4000 in
theorem all_isWordChar_of_mem_reservedWords :
    ∀ word ∈ reservedWords.toList, word.toList.all isWordChar = true := by
  unfold reservedWords
  repeat refine all_toList_cons_ofList rfl ?_
  exact List.forall_mem_nil _

theorem toList_upperCase (name : String) :
    (upperCase name).toList = name.toList.map Char.toUpper :=
  String.toList_ofList

/-- A name is not a reserved word if there is a character in it that reserved words do not have. -/
theorem isReserved_eq_false_of_isWordChar {name : String} {c : Char} (hc : c ∈ name.toList)
    (hchar : isWordChar c.toUpper = false) : isReserved name = false := by
  rw [Bool.eq_false_iff]
  intro hreserved
  have hword := all_isWordChar_of_mem_reservedWords _
    (Array.mem_def.1 (mem_of_occursIn hreserved))
  rw [toList_upperCase, List.all_eq_true] at hword
  have hupper := hword _ (List.mem_map_of_mem hc)
  rw [hchar] at hupper
  exact Bool.false_ne_true hupper

/-- A name with a backtick or a dot in it is not a reserved word. -/
theorem isReserved_eq_false_of_mem {name : String} {c : Char} (hc : c ∈ name.toList)
    (hmark : c = tick ∨ c = '.') : isReserved name = false := by
  refine isReserved_eq_false_of_isWordChar hc ?_
  -- upper case changes neither mark
  rcases hmark with rfl | rfl <;> decide

/-! ### Quoted and resolved names -/

theorem toList_quote (name : String) :
    (quote name).toList =
      tick :: name.toList.flatMap (fun c ↦ if c = tick then [tick, tick] else [c]) ++ [tick] :=
  String.toList_ofList

/-- Quoting adds backticks and nothing else. -/
theorem mem_toList_quote {name : String} {c : Char} (h : c ∈ (quote name).toList) :
    c = tick ∨ c ∈ name.toList := by
  rw [toList_quote, List.mem_append, List.mem_cons, List.mem_singleton, List.mem_flatMap] at h
  rcases h with (htick | ⟨d, hd, hc⟩) | htick
  · exact .inl htick
  · split at hc
    · simp_all
    · obtain rfl := List.mem_singleton.1 hc
      exact .inr hd
  · exact .inl htick

theorem isReserved_quote (name : String) : isReserved (quote name) = false := by
  refine isReserved_eq_false_of_mem (c := tick) ?_ (.inl rfl)
  rw [toList_quote]
  exact List.mem_append_left _ List.mem_cons_self

/-- A name that stands alone is written so that it is not a reserved word. -/
theorem isReserved_bare (name : String) : isReserved (bare name) = false := by
  unfold bare
  split
  · exact isReserved_quote name
  · rename_i hfree
    exact Bool.eq_false_iff.2 hfree

theorem mem_toList_bare {name : String} {c : Char} (h : c ∈ (bare name).toList) :
    c = tick ∨ c ∈ name.toList := by
  unfold bare at h
  split at h
  · exact mem_toList_quote h
  · exact .inr h

/-- A resolved name is the bare name, or the bare name behind an alias and a dot. -/
theorem resolve_eq_or (alias? : Option String) (name : String) :
    resolve alias? name = bare name ∨
      ∃ qualifier ∈ alias?, resolve alias? name = qualifier ++ "." ++ bare name := by
  cases alias? with
  | none => exact .inl rfl
  | some qualifier =>
    by_cases h : qualifier.isEmpty || isQualified (bare name)
    · exact .inl (by simp only [resolve, h, if_true])
    · exact .inr ⟨qualifier, rfl, by simp only [resolve, h]; rfl⟩

/-- **A resolved name is never a reserved word.** -/
theorem isReserved_resolve (alias? : Option String) (name : String) :
    isReserved (resolve alias? name) = false := by
  rcases resolve_eq_or alias? name with hbare | ⟨qualifier, -, hqualified⟩
  · rw [hbare]
    exact isReserved_bare name
  · rw [hqualified]
    exact isReserved_eq_false_of_mem (c := '.') (by simp) (.inr rfl)

/-- A name that is not a reserved word stands as it is. -/
theorem bare_of_isReserved_eq_false {name : String} (h : isReserved name = false) :
    bare name = name := by
  rw [bare, h, if_neg Bool.false_ne_true]

/-- Where there is an alias, a resolved name has a qualifier. -/
theorem isQualified_resolve {qualifier : String} (h : qualifier.isEmpty = false) (name : String) :
    isQualified (resolve (some qualifier) name) = true := by
  rw [resolve, h, Bool.false_or]
  split
  · rename_i hown
    exact hown
  · rw [isQualified, List.contains_iff_mem, String.toList_append, String.toList_append]
    exact List.mem_append_left _ (List.mem_append_right _ (by decide))

/-- **Resolving a name twice is resolving it once.** -/
theorem resolve_resolve (alias? : Option String) (name : String) :
    resolve alias? (resolve alias? name) = resolve alias? name := by
  have hbare : bare (resolve alias? name) = resolve alias? name :=
    bare_of_isReserved_eq_false (isReserved_resolve alias? name)
  cases alias? with
  | none => exact hbare
  | some qualifier =>
    rw [resolve, hbare]
    cases hempty : qualifier.isEmpty with
    | true => rfl
    | false => rw [isQualified_resolve hempty name]; rfl

/-- Resolving adds the alias, backticks and a dot, and nothing else. -/
theorem mem_toList_resolve {alias? : Option String} {name : String} {c : Char}
    (h : c ∈ (resolve alias? name).toList) :
    c = tick ∨ c = '.' ∨ c ∈ name.toList ∨ ∃ qualifier ∈ alias?, c ∈ qualifier.toList := by
  rcases resolve_eq_or alias? name with hbare | ⟨qualifier, hq, hqualified⟩
  · rw [hbare] at h
    rcases mem_toList_bare h with htick | hname
    · exact .inl htick
    · exact .inr (.inr (.inl hname))
  · rw [hqualified, String.toList_append, String.toList_append, List.mem_append,
      List.mem_append] at h
    rcases h with (halias | hdot) | hwritten
    · exact .inr (.inr (.inr ⟨qualifier, hq, halias⟩))
    · exact .inr (.inl (by simpa using hdot))
    · rcases mem_toList_bare hwritten with htick | hname
      · exact .inl htick
      · exact .inr (.inr (.inl hname))

theorem bare_ne_empty {name : String} (h : name ≠ "") : bare name ≠ "" := by
  unfold bare
  split
  · intro hempty
    have hlist := congrArg String.toList hempty
    rw [toList_quote] at hlist
    exact absurd hlist (by simp)
  · exact h

theorem resolve_ne_empty {alias? : Option String} {name : String} (h : name ≠ "") :
    resolve alias? name ≠ "" := by
  rcases resolve_eq_or alias? name with hbare | ⟨qualifier, -, hqualified⟩
  · rw [hbare]
    exact bare_ne_empty h
  · rw [hqualified]
    intro hempty
    have hlist := congrArg String.toList hempty
    simp at hlist

/-! ### Plain names -/

/-- The characters of names: letters, digits, the underscore, the dot that stands behind a
qualifier, the backtick of a quoted name, and whatever is not ASCII. -/
def isNameChar (c : Char) : Bool :=
  c.isAlphanum || c == '_' || c == '.' || c == tick || decide (128 ≤ c.toNat)

/-- A name of at least one character, all of them characters of names. -/
def IsPlain (name : String) : Prop :=
  name ≠ "" ∧ ∀ c ∈ name.toList, isNameChar c = true

instance (name : String) : Decidable (IsPlain name) :=
  decidable_of_iff (name ≠ "" ∧ name.toList.all isNameChar = true)
    (and_congr_right fun _ ↦ List.all_eq_true)

/-- Plain names stay plain. -/
theorem IsPlain.resolve {alias? : Option String} {name : String} (hname : IsPlain name)
    (halias : ∀ qualifier ∈ alias?, IsPlain qualifier) :
    IsPlain (resolve alias? name) := by
  refine ⟨resolve_ne_empty hname.1, fun c hc ↦ ?_⟩
  rcases mem_toList_resolve hc with rfl | rfl | hc | ⟨qualifier, hq, hc⟩
  · rfl
  · rfl
  · exact hname.2 c hc
  · exact (halias qualifier hq).2 c hc

end ParamSql.Identifier
