import ParamSql.Proofs.Identifier.Lookup
import ParamSql.Proofs.Text.ByteOrder
import Mathlib.Data.List.Forall2

/-!
# Reserved words in any mixture of cases

Two names are *spelled alike* when they are the same character by character, up to the two cases of
an ASCII letter (`SpelledAlike`). That is said without any case mapping, and it is what the look-up
comes to (`reserved_in_any_case`): turning ASCII letters into upper case identifies the two cases of
a letter and nothing else (`toUpper_eq_toUpper_iff`), and the words of the table are in upper case.
A character outside ASCII is spelled like itself only, even where its own upper case is an ASCII
letter.

The table is increasing in the order of characters, in which the look-up compares, and so in the
order of bytes.
-/

namespace ParamSql.Identifier

/-! ### The two cases of a letter -/

/-- The characters are the same, or the two cases of one ASCII letter. -/
def SameLetter (c d : Char) : Prop :=
  c = d ∨ (c.isLower ∧ c.toNat = d.toNat + 32) ∨ (d.isLower ∧ d.toNat = c.toNat + 32)

theorem isLower_iff_toNat {c : Char} : c.isLower = true ↔ 97 ≤ c.toNat ∧ c.toNat ≤ 122 := by
  show (decide ('a'.val ≤ c.val) && decide (c.val ≤ 'z'.val)) = true ↔ _
  rw [Bool.and_eq_true, decide_eq_true_eq, decide_eq_true_eq]
  exact Iff.rfl

theorem toNat_toUpper (c : Char) :
    c.toUpper.toNat = if c.isLower then c.toNat - 32 else c.toNat := by
  by_cases hlower : c.isLower = true
  · have hbounds : 'a'.val ≤ c.val ∧ c.val ≤ 'z'.val := isLower_iff_toNat.1 hlower
    rw [if_pos hlower]
    delta Char.toUpper
    rw [dif_pos hbounds]
    rw [isLower_iff_toNat] at hlower
    show (c.val + ('A'.val - 'a'.val)).toNat = c.toNat - 32
    have hdistance : ('A'.val - 'a'.val).toNat = 2 ^ 32 - 32 := by decide
    rw [UInt32.toNat_add, hdistance, Char.toNat_val]
    omega
  · have hbounds : ¬ ('a'.val ≤ c.val ∧ c.val ≤ 'z'.val) := mt isLower_iff_toNat.2 hlower
    rw [if_neg hlower]
    delta Char.toUpper
    rw [dif_neg hbounds]

/-- Upper case identifies the two cases of a letter, and nothing else. -/
theorem toUpper_eq_toUpper_iff {c d : Char} : c.toUpper = d.toUpper ↔ SameLetter c d := by
  rw [← Char.toNat_inj, toNat_toUpper, toNat_toUpper, SameLetter, ← Char.toNat_inj]
  simp only [isLower_iff_toNat]
  split <;> split <;> omega

/-! ### Names that are spelled alike -/

/-- The names are the same up to the case of ASCII letters. -/
def SpelledAlike (name other : String) : Prop :=
  List.Forall₂ SameLetter name.toList other.toList

theorem upperCase_eq_upperCase_iff {name other : String} :
    upperCase name = upperCase other ↔ SpelledAlike name other := by
  rw [← String.toList_inj, toList_upperCase, toList_upperCase, ← List.forall₂_eq_eq_eq,
    List.forall₂_map_left_iff, List.forall₂_map_right_iff, SpelledAlike]
  simp only [toUpper_eq_toUpper_iff]

/-! ### The table -/

/-- The characters of reserved words are not in lower case. -/
theorem isLower_of_isWordChar {c : Char} (h : isWordChar c = true) : ¬ c.isLower := by
  rw [isLower_iff_toNat]
  rw [isWordChar, Bool.or_eq_true, Bool.or_eq_true, beq_iff_eq] at h
  rcases h with (hupper | hdigit) | rfl
  · have hbounds : 'A'.val ≤ c.val ∧ c.val ≤ 'Z'.val := of_decide_eq_true hupper
    have hle : c.toNat ≤ 90 := hbounds.2
    omega
  · have hle : c.toNat ≤ 57 := (Char.isDigit_iff_toNat.1 hdigit).2
    omega
  · decide

/-- The words of the table are in upper case. -/
theorem upperCase_of_mem_reservedWords {word : String} (h : word ∈ reservedWords) :
    upperCase word = word := by
  have hchars := List.all_eq_true.1 (all_isWordChar_of_mem_reservedWords word (Array.mem_def.1 h))
  have hupper : ∀ c ∈ word.toList, c.toUpper = c := by
    intro c hc
    rw [← Char.toNat_inj, toNat_toUpper, if_neg (isLower_of_isWordChar (hchars c hc))]
  rw [← String.toList_inj, toList_upperCase, List.map_congr_left hupper, List.map_id']

theorem pairwise_bytes_reservedWords :
    reservedWords.toList.Pairwise fun word next ↦ Text.bytes word < Text.bytes next :=
  increasing_reservedWords.imp fun h ↦ Text.bytes_lt_bytes_iff.2 h

/-- **A name is reserved** exactly if some word of the table is the name up to the case of ASCII
letters. The table is strictly increasing in the order of bytes. -/
theorem reserved_in_any_case :
    (reservedWords.toList.Pairwise fun word next ↦ Text.bytes word < Text.bytes next) ∧
      ∀ name, isReserved name = true ↔ ∃ word ∈ reservedWords, SpelledAlike name word := by
  refine ⟨pairwise_bytes_reservedWords, fun name ↦ ?_⟩
  rw [isReserved_iff]
  constructor
  · intro hmem
    exact ⟨_, hmem, upperCase_eq_upperCase_iff.1 (upperCase_of_mem_reservedWords hmem).symm⟩
  · rintro ⟨word, hmem, halike⟩
    rwa [upperCase_eq_upperCase_iff.2 halike, upperCase_of_mem_reservedWords hmem]

/-- The Kelvin sign, whose lower case is the letter `k`, is spelled like itself only. -/
example : isReserved "kEy" = true ∧ isReserved "\u212aey" = false := by
  decide +kernel

end ParamSql.Identifier
