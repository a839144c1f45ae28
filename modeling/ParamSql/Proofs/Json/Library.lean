import ParamSql.Json.Library
import ParamSql.Proofs.Json.Reader

/-!
# What is expected of a JSON library

Whoever writes values and reads them back relies on a library for six things (`Library.Lawful`): the
words and the integers of JSON are read as what they are, strings and finite doubles are read back
as they were written, a point or a power of ten is written in every double, and what has one is not
read as an integer. How a library rounds digits that it has not written itself is of no concern.

The library that is used unless another one is given is such a library (`lawful_standard`).
-/

namespace ParamSql.Json

/-! ### Expectations -/

/-- The number of a document, as a double. -/
def number? : Json → Option Double
  | integer n => some (Double.ofInt n)
  | double d => some d
  | null | bool _ | string _ | array _ | object _ => none

/-- There is a point or the letter of a power of ten in a text. -/
def IsMarked (text : List Char) : Prop :=
  '.' ∈ text ∨ 'e' ∈ text ∨ 'E' ∈ text

/-- What is expected of a JSON library. -/
structure Library.Lawful (library : Library) : Prop where
  /-- The word for what is absent is read. -/
  read_null : library.read? "null".toList = some (.null, [])
  /-- The word for what is true is read. -/
  read_true : library.read? "true".toList = some (.bool true, [])
  /-- The word for what is false is read. -/
  read_false : library.read? "false".toList = some (.bool false, [])
  /-- The digits of an integer of sixty-four bits are read as this integer. -/
  read_integer : ∀ i : Int64,
    library.read? (Int.repr i.toInt).toList = some (.integer i.toInt, [])
  /-- What is read as an integer has neither a point nor a power of ten. -/
  not_isMarked : ∀ text n, library.read? text = some (.integer n, []) → ¬ IsMarked text
  /-- A finite double is written with a point or with a power of ten. -/
  isMarked_double : ∀ d : Double, d.isFinite = true → IsMarked (library.double d).toList
  /-- And in digits that are read back as the same number. -/
  read_double : ∀ d : Double, d.isFinite = true → ∃ json,
    library.read? (library.double d).toList = some (json, []) ∧ json.number? = some d
  /-- A string is read back as it was written. -/
  read_string : ∀ s, library.read? (library.string s).toList = some (.string s, [])
  /-- There is nothing more in an empty rest. -/
  isEnd_nil : library.isEnd [] = true

/-! ### Points and powers of ten -/

namespace Numeral

/-- A numeral with a fraction or a power of ten is marked by it. -/
theorem isMarked_text {n : Numeral} (h : n.fraction? ≠ none ∨ n.power? ≠ none) :
    IsMarked n.text := by
  have hunsigned : IsMarked n.unsigned := by
    rw [unsigned, mantissa]
    rcases h with hfraction | hpower
    · obtain ⟨fraction, hfraction⟩ := Option.ne_none_iff_exists'.1 hfraction
      rw [hfraction]
      exact .inl (by simp)
    · obtain ⟨power, hpower⟩ := Option.ne_none_iff_exists'.1 hpower
      rw [hpower]
      exact .inr (.inl (by simp))
  rw [text]
  split
  · have hsign {c : Char} : c ∈ n.unsigned → c ∈ '-' :: n.unsigned := List.mem_cons_of_mem _
    exact hunsigned.imp hsign (.imp hsign hsign)
  · exact hunsigned

/-- What has been read as a numeral without fraction and power of ten was not marked. -/
theorem not_isMarked_of_ofUnsigned? {negative : Bool} {cs : List Char} {n : Numeral}
    (h : ofUnsigned? negative cs = some n) (hfraction : n.fraction? = none)
    (hpower : n.power? = none) : ¬ IsMarked cs := by
  obtain ⟨hpowerless, hpointless⟩ :
      (Text.splitAt? (fun c ↦ c == 'e' || c == 'E') cs).2 = none ∧
        (Text.splitAt? (· == '.')
          (Text.splitAt? (fun c ↦ c == 'e' || c == 'E') cs).1).2 = none := by
    simp only [ofUnsigned?, Option.bind_eq_bind, Option.pure_def] at h
    obtain ⟨-, -, h⟩ := Option.bind_eq_some_iff.1 h
    revert h
    generalize Text.splitAt? (· == '.') _ = parts, (Text.splitAt? _ cs).2 = powerText?
    intro h
    -- whatever there is of the two is in the numeral
    cases hpoint : parts.2 with
    | none =>
      cases powerText? with
      | none => exact ⟨rfl, rfl⟩
      | some text =>
        simp only [hpoint, Option.bind_eq_some_iff, Option.map_eq_some_iff] at h
        obtain ⟨_, ⟨power, -, rfl⟩, hn⟩ := h
        rw [← Option.some.inj hn] at hpower
        cases hpower
    | some fraction =>
      simp only [hpoint, Option.bind_eq_some_iff] at h
      obtain ⟨-, -, h⟩ := h
      cases powerText? with
      | none | some =>
        obtain ⟨_, -, hn⟩ := Option.bind_eq_some_iff.1 h
        rw [← Option.some.inj hn] at hfraction
        cases hfraction
  obtain ⟨hmantissa, hletter⟩ := Text.splitAt?_of_snd_eq_none hpowerless
  rw [hmantissa] at hpointless
  have hpoint := (Text.splitAt?_of_snd_eq_none hpointless).2
  rintro (hmem | hmem | hmem)
  · exact absurd (hpoint _ hmem) (by decide)
  · exact absurd (hletter _ hmem) (by decide)
  · exact absurd (hletter _ hmem) (by decide)

theorem not_isMarked_of_ofList? {cs : List Char} {n : Numeral} (h : ofList? cs = some n)
    (hfraction : n.fraction? = none) (hpower : n.power? = none) : ¬ IsMarked cs := by
  rw [ofList?.eq_def] at h
  split at h
  · next unsigned =>
    have hunsigned := not_isMarked_of_ofUnsigned? h hfraction hpower
    simpa [IsMarked] using hunsigned
  · exact not_isMarked_of_ofUnsigned? h hfraction hpower

/-- A numeral that is an integer has neither a fraction nor a power of ten. -/
theorem eq_none_of_toJson?_eq_integer {n : Numeral} {i : Int} (h : n.toJson? = some (.integer i)) :
    n.fraction? = none ∧ n.power? = none := by
  have hinteger : (n.fraction?.isNone && n.power?.isNone) = true := by
    by_contra hmarked
    rw [Bool.not_eq_true] at hmarked
    rw [toJson?] at h
    simp only [hmarked, Bool.false_and, Bool.false_eq_true, if_false] at h
    split at h <;> cases h
  rw [Bool.and_eq_true, Option.isNone_iff_eq_none, Option.isNone_iff_eq_none] at hinteger
  exact hinteger

end Numeral

/-! ### The library that is used unless another one is given -/

/-- What is left of a text is behind the first character that is not blank. -/
theorem exists_of_readMark? {cs rest : List Char} {c : Char} {h : rest.length < cs.length}
    (hread : readMark? cs = some (c, ⟨rest, h⟩)) :
    ∃ blanks : List Char, cs = blanks ++ c :: rest ∧ ∀ b ∈ blanks, isBlank b = true := by
  rw [readMark?, firstNot?] at hread
  split at hread
  · cases hread
  · next a behind hkept =>
    obtain ⟨rfl, hrest⟩ := Prod.mk.inj (Option.some.inj hread)
    obtain rfl := congrArg Subtype.val hrest
    refine ⟨cs.takeWhile isBlank, ?_, List.all_eq_true.1 List.all_takeWhile⟩
    rw [← hkept, List.takeWhile_append_dropWhile]

/-- What is read as an integer is so as a scalar: it begins neither like a string nor like an array
or an object. -/
theorem exists_of_answer_readDocument? {depth : Nat} {text : List Char} {n : Int}
    (h : answer (readDocument? depth text) = some (integer n, [])) :
    ∃ blanks c rest, text = blanks ++ c :: rest ∧ (∀ b ∈ blanks, isBlank b = true) ∧
      answer (readScalar? c rest) = some (integer n, []) := by
  rw [readDocument?] at h
  cases hread : readMark? text with
  | none =>
    rw [hread] at h
    cases h
  | some read =>
    obtain ⟨c, rest, shorter⟩ := read
    obtain ⟨blanks, htext, hblanks⟩ := exists_of_readMark? hread
    refine ⟨blanks, c, rest, htext, hblanks, ?_⟩
    simp only [hread] at h
    split at h
    · cases hc : readCharacters? rest <;> simp [hc, answer] at h
    split at h
    · cases depth with
      | zero => simp [answer] at h
      | succ depth =>
        simp only at h
        split at h
        · simp [answer] at h
        · cases hc : readItems? depth rest <;> simp [hc, answer] at h
    split at h
    · cases depth with
      | zero => simp [answer] at h
      | succ depth =>
        simp only at h
        split at h
        · simp [answer] at h
        · cases hc : readMembers? depth rest <;> simp [hc, answer] at h
    · simpa [answer, Option.map_map] using h

/-- A word is no integer, and a number that is one is not marked. -/
theorem not_isMarked_of_answer_readScalar? {c : Char} {rest : List Char} {n : Int}
    (h : answer (readScalar? c rest) = some (integer n, [])) : ¬ IsMarked (c :: rest) := by
  rw [readScalar?, answer] at h
  simp only [Option.map_map, Option.map_eq_some_iff, Function.comp_apply, Prod.mk.injEq] at h
  obtain ⟨json, hjson, rfl, hrest⟩ := h
  have hrun : rest.takeWhile (if c.isLower then Char.isLower else Numeral.isPart) = rest :=
    List.takeWhile_eq_self_iff.2 (List.dropWhile_eq_nil_iff.1 hrest)
  rw [hrun] at hjson
  split at hjson
  · rw [ofWord?] at hjson
    split at hjson <;> cases hjson
  · obtain ⟨numeral, hread, hinteger⟩ := Option.bind_eq_some_iff.1 hjson
    obtain ⟨hfraction, hpower⟩ := Numeral.eq_none_of_toJson?_eq_integer hinteger
    exact Numeral.not_isMarked_of_ofList? hread hfraction hpower

/-- What is read as an integer is not marked. -/
theorem not_isMarked_of_read? {text : List Char} {n : Int}
    (h : read? text = some (integer n, [])) : ¬ IsMarked text := by
  rw [read?_eq_answer] at h
  obtain ⟨blanks, c, rest, rfl, hblanks, hscalar⟩ := exists_of_answer_readDocument? h
  have hnot := not_isMarked_of_answer_readScalar? hscalar
  have hblank {mark : Char} (hmark : isBlank mark = false)
      (hmem : mark ∈ blanks ++ c :: rest) : mark ∈ c :: rest :=
    (List.mem_append.1 hmem).resolve_left fun hb ↦
      Bool.false_ne_true (hmark.symm.trans (hblanks mark hb))
  exact fun hmarked ↦ hnot
    (hmarked.imp (hblank (by decide)) (.imp (hblank (by decide)) (hblank (by decide))))

/-- **The library that is used unless another one is given is as expected.** -/
theorem Library.lawful_standard : standard.Lawful where
  read_null := Json.read?_null
  read_true := Json.read?_true
  read_false := Json.read?_false
  read_integer i := by
    rw [← Numeral.text_ofInteger]
    exact read?_text (Numeral.isProper_ofInteger _) (Numeral.toJson?_ofInteger i)
  not_isMarked _ _ := not_isMarked_of_read?
  isMarked_double d hfinite := by
    obtain ⟨n, hjson, -, hmarked, -⟩ := Numeral.exists_toJson?_eq_double hfinite
    show IsMarked (d.json?.getD "null").toList
    rw [hjson, Option.getD_some, String.toList_ofList]
    exact Numeral.isMarked_text hmarked
  read_double d hfinite := by
    obtain ⟨n, hjson, hproper, -, hdouble⟩ := Numeral.exists_toJson?_eq_double hfinite
    refine ⟨.double d, ?_, rfl⟩
    show Json.read? (d.json?.getD "null").toList = _
    rw [hjson, Option.getD_some, String.toList_ofList]
    exact read?_text hproper hdouble
  read_string := read?_quote
  isEnd_nil := rfl

end ParamSql.Json
