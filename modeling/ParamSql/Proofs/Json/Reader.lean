import ParamSql.Json.Reader
import ParamSql.Proofs.Json.Numeral

/-!
# Documents read back

A written scalar is read as one document that takes up the whole text. A string is read character by
character (`answer_readCharacters?_escape`), each in the form that it was written in, and ends at
the mark behind it (`answer_readCharacters?_flatMap`). A number extends as far as characters of
numbers do, and so to the end (`read?_text`).

A reader also proves that what it leaves is shorter than what it was given. That is of no interest
here and is left out of what is said of it: see `answer`.
-/

namespace ParamSql

theorem firstNot?_cons {α : Type} {p : α → Bool} {a : α} (h : p a = false) (rest : List α) :
    firstNot? p (a :: rest) = some (a, .tail a rest) := by
  have hkept : (a :: rest).dropWhile p = a :: rest :=
    List.dropWhile_cons_of_neg (Bool.eq_false_iff.1 h)
  unfold firstNot?
  split
  · next hnil => cases hkept.symm.trans hnil
  · next b left hcons =>
    obtain ⟨rfl, rfl⟩ := List.cons.inj (hkept.symm.trans hcons)
    rfl

namespace Json

open Text (quotationMark backslash hexValue?)

/-- The answer of a reader, without the proof that the rest is shorter. -/
def answer {α : Type} {cs : List Char} (read : Option (α × Rest cs)) : Option (α × List Char) :=
  read.map fun (a, left) ↦ (a, left.1)

/-! ### Strings -/

/-- The letter after a backslash is read as the character that it stands for. -/
theorem ofShortEscape?_of_shortEscape? {c letter : Char} (h : shortEscape? c = some letter) :
    letter ≠ 'u' ∧ ofShortEscape? letter = some c := by
  unfold shortEscape? at h
  split_ifs at h with hmark hb ht hn hf hr
  · obtain rfl := Option.some.inj h
    rcases hmark with rfl | rfl <;> decide
  all_goals
    obtain rfl := Option.some.inj h
    rw [← Char.ofNat_toNat c]
  · rw [hb]
    decide
  · rw [ht]
    decide
  · rw [hn]
    decide
  · rw [hf]
    decide
  · rw [hr]
    decide

theorem hexValue?_control {n : Nat} (h : n < 0x20) :
    hexValue? ['0', '0', Nat.digitChar (n / 16), Nat.digitChar (n % 16)] = some n := by
  revert n
  decide

theorem answer_readCharacters?_backslash {rest after : List Char} {c : Char}
    (h : answer (readEscape? rest) = some (c, after)) :
    answer (readCharacters? (backslash :: rest)) =
      (answer (readCharacters? after)).map fun (chars, left) ↦ (c :: chars, left) := by
  rw [readCharacters?]
  rw [if_neg (by decide), if_pos rfl]
  cases hescape : readEscape? rest with
  | none =>
    rw [hescape] at h
    cases h
  | some read =>
    obtain ⟨char, after', shorter⟩ := read
    rw [hescape] at h
    obtain ⟨rfl, rfl⟩ := Prod.mk.inj (Option.some.inj h)
    simp only [answer, Option.map_map]
    rfl

/-- A control character is read from its four digits. -/
theorem answer_readEscape?_control {c : Char} (h : c.toNat < 0x20) (rest : List Char) :
    answer (readEscape? ('u' :: '0' :: '0' :: Nat.digitChar (c.toNat / 16) ::
      Nat.digitChar (c.toNat % 16) :: rest)) = some (c, rest) := by
  have hunit : ofUnit? c.toNat = some c := by
    rw [ofUnit?, if_neg (by omega), Char.ofNat_toNat]
  rw [readEscape?.eq_def]
  dsimp only
  rw [if_pos rfl, readUnits?, readUnit?, hexValue?_control h]
  simp only [Option.map_some, hunit]
  rfl

/-- A character is read as it was written. -/
theorem answer_readCharacters?_escape (c : Char) (rest : List Char) :
    answer (readCharacters? (escape c ++ rest)) =
      (answer (readCharacters? rest)).map fun (chars, left) ↦ (c :: chars, left) := by
  rw [escape]
  cases hshort : shortEscape? c with
  | some letter =>
    obtain ⟨hu, hletter⟩ := ofShortEscape?_of_shortEscape? hshort
    show answer (readCharacters? (backslash :: letter :: rest)) = _
    refine answer_readCharacters?_backslash ?_
    rw [readEscape?.eq_def]
    dsimp only
    rw [if_neg hu, hletter]
    rfl
  | none =>
    dsimp only
    by_cases hcontrol : c.toNat < 0x20
    · rw [if_pos hcontrol]
      exact answer_readCharacters?_backslash (answer_readEscape?_control hcontrol rest)
    · rw [if_neg hcontrol]
      have hmark : ¬ (c = quotationMark ∨ c = backslash) := fun hmark ↦ by
        rw [shortEscape?, if_pos hmark] at hshort
        cases hshort
      rw [List.singleton_append, readCharacters?, if_neg (fun h ↦ hmark (.inl h)),
        if_neg (fun h ↦ hmark (.inr h)), if_neg hcontrol]
      simp only [answer, Option.map_map]
      rfl

/-- **A string is read as it was written**, whatever follows it. -/
theorem answer_readCharacters?_flatMap (cs rest : List Char) :
    answer (readCharacters? (cs.flatMap escape ++ quotationMark :: rest)) = some (cs, rest) := by
  induction cs with
  | nil =>
    rw [List.flatMap_nil, List.nil_append, readCharacters?, if_pos rfl]
    rfl
  | cons c cs ih =>
    rw [List.flatMap_cons, List.append_assoc, answer_readCharacters?_escape, ih]
    rfl

/-! ### Documents -/

theorem read?_eq_answer (text : List Char) : read? text = answer (readDocument? depthLimit text) :=
  rfl

/-- What begins with the mark around strings is read as one. -/
theorem read?_quotationMark {cs chars rest : List Char}
    (h : answer (readCharacters? cs) = some (chars, rest)) :
    read? (quotationMark :: cs) = some (string (String.ofList chars), rest) := by
  rw [read?_eq_answer, readDocument?, readMark?, firstNot?_cons (by decide)]
  simp only [Rest.tail, if_pos]
  cases hread : readCharacters? cs with
  | none =>
    rw [hread] at h
    cases h
  | some read =>
    rw [hread] at h
    obtain ⟨rfl, rfl⟩ := Prod.mk.inj (Option.some.inj h)
    rfl

theorem read?_quote (s : String) : read? (quote s).toList = some (string s, []) := by
  rw [quote, String.toList_ofList, List.cons_append,
    read?_quotationMark (answer_readCharacters?_flatMap s.toList []), String.ofList_toList]

section Scalar

variable {first : Char} {rest : List Char}

/-- What begins like a word or a number is read as one. -/
theorem read?_cons_eq (hblank : isBlank first = false)
    (hmark : ¬ (first = quotationMark ∨ first = '[' ∨ first = '{')) :
    read? (first :: rest) = answer (readScalar? first rest) := by
  rw [not_or, not_or] at hmark
  rw [read?_eq_answer, readDocument?, readMark?, firstNot?_cons hblank]
  simp only [Rest.tail, if_neg hmark.1, if_neg hmark.2.1, if_neg hmark.2.2]
  cases readScalar? first rest <;> rfl

/-- A word or a number that reaches to the end of the text. -/
theorem answer_readScalar? {json : Json}
    (hpart : rest.all (if first.isLower then Char.isLower else Numeral.isPart) = true)
    (hjson : (if first.isLower then ofWord? (first :: rest)
      else (Numeral.ofList? (first :: rest)).bind Numeral.toJson?) = some json) :
    answer (readScalar? first rest) = some (json, []) := by
  rw [List.all_eq_true] at hpart
  have htake := List.takeWhile_eq_self_iff.2 hpart
  have hdrop := List.dropWhile_eq_nil_iff.2 hpart
  simp only [readScalar?, htake, hjson, Option.map_some, answer, hdrop]

end Scalar

theorem read?_null : read? ['n', 'u', 'l', 'l'] = some (null, []) :=
  (read?_cons_eq (by decide) (by decide)).trans (answer_readScalar? (by rfl) (by rfl))

theorem read?_true : read? ['t', 'r', 'u', 'e'] = some (bool true, []) :=
  (read?_cons_eq (by decide) (by decide)).trans (answer_readScalar? (by rfl) (by rfl))

theorem read?_false : read? ['f', 'a', 'l', 's', 'e'] = some (bool false, []) :=
  (read?_cons_eq (by decide) (by decide)).trans (answer_readScalar? (by rfl) (by rfl))

/-- A character that a number begins with begins nothing else. -/
theorem begins_number {first : Char} (h : first.isDigit = true ∨ first = '-') :
    isBlank first = false ∧ ¬ (first = quotationMark ∨ first = '[' ∨ first = '{') ∧
      first.isLower = false := by
  rcases h with hdigit | rfl
  · have hne {mark : Char} (hmark : mark.isDigit = false) : ¬ first = mark := fun heq ↦
      beq_eq_false_iff_ne.1 (Text.beq_eq_false_of_isDigit hdigit hmark) heq
    refine ⟨?_, ?_, ?_⟩
    · simp [isBlank, hne]
    · simp [hne, quotationMark]
    · have hlower : ¬ 'a'.val ≤ first.val := fun hle ↦ by
        have hletter : 97 ≤ first.toNat := hle
        have hbounds := Text.isDigit_iff.1 hdigit
        omega
      show (decide ('a'.val ≤ first.val) && _) = false
      rw [decide_eq_false hlower, Bool.false_and]
  · decide

/-- **A numeral is read as it was written**, and as the document that it stands for. -/
theorem read?_text {n : Numeral} (h : n.IsProper) {json : Json} (hjson : n.toJson? = some json) :
    read? n.text = some (json, []) := by
  obtain ⟨first, rest, htext, hfirst⟩ := Numeral.exists_text_eq_cons h
  obtain ⟨hblank, hmark, hlower⟩ := begins_number hfirst
  rw [htext, read?_cons_eq hblank hmark]
  refine answer_readScalar? (List.all_eq_true.2 fun c hc ↦ ?_) ?_
  · rw [hlower]
    exact Numeral.isPart_of_mem_text h (htext ▸ List.mem_cons_of_mem first hc)
  · rw [hlower, ← htext, Numeral.ofList?_text h]
    exact hjson

end Json

end ParamSql
