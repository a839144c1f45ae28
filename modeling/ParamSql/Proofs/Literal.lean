import ParamSql.Literal
import Mathlib.Data.List.Basic

/-!
# Reading string literals

How MySQL reads a literal at the front of a text, and that it finds there what was written. A
literal ends with the first quote that is neither doubled nor escaped, so there are three things to
go wrong: a quote in the text may end the literal, a backslash in it may escape the quote that is to
end it, and the text behind the literal may double that quote.

Against the first two there is one equation for each character (`readBody?_escape`): whatever comes
after a character as it is written, the reader takes that character and goes on with the rest. The
third is nothing that a literal can help. It is read back *exactly if* the text behind it does not
begin with a quote (`read?_quote_append_eq_iff`).

The reader knows the escapes that stand for a control character that is never written as it is, and
takes any other escaped character for itself.
-/

namespace ParamSql.Literal

open Text (apostrophe backslash)

/-! ### The reader -/

/-- The character that an escaped character stands for, which is itself unless it is one of four
letters. -/
def unescape (c : Char) : Char :=
  if c = '0' then Char.ofNat 0x00
  else if c = 'n' then Char.ofNat 0x0a
  else if c = 'r' then Char.ofNat 0x0d
  else if c = 'Z' then Char.ofNat 0x1a
  else c

/-- What has been read, with a character in front of it. -/
def push (c : Char) (read : List Char × List Char) : List Char × List Char :=
  (c :: read.1, read.2)

/-- Reads a literal from behind its opening quote: the characters in it, and the text after it. A
literal that is not closed is none. -/
def readBody? : List Char → Option (List Char × List Char)
  | [] => none
  | c :: rest =>
    if c = apostrophe then
      match rest with
      | [] => some ([], [])
      | d :: after =>
        if d = apostrophe then (readBody? after).map (push apostrophe) else some ([], d :: after)
    else if c = backslash then
      match rest with
      | [] => none
      | d :: after => (readBody? after).map (push (unescape d))
    else (readBody? rest).map (push c)

/-- Reads the literal that a text begins with: the text in it, and the text after it. -/
def read? (text : String) : Option (String × String) :=
  match text.toList with
  | [] => none
  | c :: rest =>
    if c = apostrophe then
      (readBody? rest).map fun (inside, after) ↦ (String.ofList inside, String.ofList after)
    else none

/-! ### Characters as they are written -/

/-- The control characters that have a letter, with their letters. -/
def controlLetters : List (Char × Char) :=
  [(Char.ofNat 0x00, '0'), (Char.ofNat 0x0a, 'n'), (Char.ofNat 0x0d, 'r'), (Char.ofNat 0x1a, 'Z')]

theorem mem_controlLetters {c letter : Char} (h : controlLetter? c = some letter) :
    (c, letter) ∈ controlLetters := by
  unfold controlLetter? at h
  split_ifs at h <;> cases h <;> subst c <;> decide

theorem unescape_of_controlLetter? {c letter : Char} (h : controlLetter? c = some letter) :
    unescape letter = c :=
  (by decide : ∀ pair ∈ controlLetters, unescape pair.2 = pair.1) _ (mem_controlLetters h)

/-- A character that is neither a quote nor a backslash stands for itself. -/
theorem readBody?_cons_of_ne {c : Char} (hquote : c ≠ apostrophe) (hescape : c ≠ backslash)
    (rest : List Char) : readBody? (c :: rest) = (readBody? rest).map (push c) := by
  cases rest <;> simp [readBody?, hquote, hescape]

/-- **A character is read as it was written**, whatever comes after it. -/
theorem readBody?_escape (c : Char) (rest : List Char) :
    readBody? (escape c ++ rest) = (readBody? rest).map (push c) := by
  rw [escape]
  by_cases hquote : c = apostrophe
  · rw [if_pos hquote, hquote]
    rfl
  rw [if_neg hquote]
  by_cases hescape : c = backslash
  · rw [if_pos hescape, hescape]
    rfl
  rw [if_neg hescape]
  cases hletter : controlLetter? c with
  | some letter =>
    show (readBody? rest).map (push (unescape letter)) = _
    rw [unescape_of_controlLetter? hletter]
  | none =>
    exact readBody?_cons_of_ne hquote hescape rest

/-- And so is a text. -/
theorem readBody?_flatMap_escape (text rest : List Char) :
    readBody? (text.flatMap escape ++ rest) =
      (readBody? rest).map fun (inside, after) ↦ (text ++ inside, after) := by
  induction text with
  | nil => exact Option.map_id'.symm
  | cons c text ih =>
    rw [List.flatMap_cons, List.append_assoc, readBody?_escape, ih, Option.map_map]
    rfl

/-! ### Where a literal ends -/

/-- A quote closes a literal unless another one comes after it. -/
theorem readBody?_closing {rest : List Char} (h : rest.head? ≠ some apostrophe) :
    readBody? (apostrophe :: rest) = some ([], rest) := by
  cases rest with
  | nil => rfl
  | cons c rest =>
    have hc : c ≠ apostrophe := fun hc ↦ h (congrArg some hc)
    show (if c = apostrophe then _ else _) = _
    rw [if_neg hc]

/-- A doubled quote does not. -/
theorem ne_nil_of_readBody?_doubled {rest inside after : List Char}
    (h : readBody? (apostrophe :: apostrophe :: rest) = some (inside, after)) : inside ≠ [] := by
  obtain ⟨read, -, hread⟩ := Option.map_eq_some_iff.1 (show (readBody? rest).map _ = _ from h)
  obtain rfl : apostrophe :: read.1 = inside := congrArg Prod.fst hread
  exact List.cons_ne_nil _ _

/-- A literal in front of a text, as far as the literal decides on it. -/
theorem read?_quote_append (s t : String) :
    read? (quote s ++ t) =
      (readBody? (apostrophe :: t.toList)).map fun (inside, after) ↦
        (s ++ String.ofList inside, String.ofList after) := by
  have htext : (quote s ++ t).toList =
      apostrophe :: (s.toList.flatMap escape ++ apostrophe :: t.toList) := by
    simp [quote]
  rw [read?, htext]
  show (readBody? _).map _ = _
  rw [readBody?_flatMap_escape, Option.map_map]
  refine congrArg (Option.map · _) (funext fun read ↦ ?_)
  simp

/-- **When a literal is read as the text that it was written for**, and the text after it is left:
exactly if that does not begin with a quote. -/
theorem read?_quote_append_eq_iff (s t : String) :
    read? (quote s ++ t) = some (s, t) ↔ t.toList.head? ≠ some apostrophe := by
  rw [read?_quote_append]
  constructor
  · intro hread hhead
    obtain ⟨rest, ht⟩ := List.head?_eq_some_iff.1 hhead
    obtain ⟨⟨inside, after⟩, hbody, hsame⟩ := Option.map_eq_some_iff.1 hread
    rw [ht] at hbody
    refine ne_nil_of_readBody?_doubled hbody ?_
    have hs : s ++ String.ofList inside = s := congrArg Prod.fst hsame
    simpa using hs
  · intro hhead
    rw [readBody?_closing hhead]
    simp

/-! ### What a literal is made of -/

/-- The characters that a literal does not contain as they are. -/
def controls : List Char :=
  controlLetters.map Prod.fst

theorem letter_not_mem_controls {c letter : Char} (h : controlLetter? c = some letter) :
    letter ∉ controls :=
  (by decide : ∀ pair ∈ controlLetters, pair.2 ∉ controls) _ (mem_controlLetters h)

/-- A character that no letter stands for is none of them. -/
theorem not_mem_controls {c : Char} (h : controlLetter? c = none) : c ∉ controls := by
  intro hmem
  obtain ⟨pair, hpair, rfl⟩ := List.mem_map.1 hmem
  have hletter : controlLetter? pair.1 = some pair.2 :=
    (by decide : ∀ pair ∈ controlLetters, controlLetter? pair.1 = some pair.2) pair hpair
  rw [hletter] at h
  cases h

/-- No character is written with one of them. -/
theorem not_mem_controls_of_mem_escape {c d : Char} (h : d ∈ escape c) : d ∉ controls := by
  rw [escape] at h
  by_cases hquote : c = apostrophe
  · rw [if_pos hquote, List.mem_pair, or_self] at h
    exact h ▸ by decide
  rw [if_neg hquote] at h
  by_cases hescape : c = backslash
  · rw [if_pos hescape, List.mem_pair, or_self] at h
    exact h ▸ by decide
  rw [if_neg hescape] at h
  cases hletter : controlLetter? c with
  | some letter =>
    rw [hletter] at h
    rcases List.mem_pair.1 h with rfl | rfl
    · decide
    · exact letter_not_mem_controls hletter
  | none =>
    rw [hletter] at h
    rw [List.mem_singleton.1 h]
    exact not_mem_controls hletter

theorem disjoint_quote_controls (s : String) : (quote s).toList.Disjoint controls := by
  intro d hd
  rw [quote, String.toList_ofList, List.mem_append, List.mem_cons, List.mem_flatMap,
    List.mem_singleton] at hd
  rcases hd with (rfl | ⟨c, -, hc⟩) | rfl
  · decide
  · exact not_mem_controls_of_mem_escape hc
  · decide

/-- **Literals delimit themselves.** A literal in front of any text is read as the text that it was
written for, and all of it is read and nothing more, exactly if the text behind it does not begin
with a quote. No literal contains one of the four control characters, and different texts have
different literals. -/
theorem quote_self_delimiting :
    (∀ s t : String, read? (quote s ++ t) = some (s, t) ↔ t.toList.head? ≠ some apostrophe) ∧
      (∀ s : String, (quote s).toList.Disjoint controls) ∧ Function.Injective quote := by
  refine ⟨read?_quote_append_eq_iff, disjoint_quote_controls, fun s s' hsame ↦ ?_⟩
  have hread (s : String) : read? (quote s ++ "") = some (s, "") :=
    (read?_quote_append_eq_iff s "").2 (by decide)
  have hboth : some (s, "") = some (s', "") := by rw [← hread s, hsame, hread s']
  exact congrArg Prod.fst (Option.some.inj hboth)

example : quote "a\\'\n" = "'a\\\\''\\n'" ∧
    read? "'a\\\\''\\n', 'b'" = some ("a\\'\n", ", 'b'") := by
  decide +kernel

end ParamSql.Literal
