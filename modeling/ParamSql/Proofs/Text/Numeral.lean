import ParamSql.Text.Padded
import ParamSql.Text.Split
import Mathlib.Algebra.GroupWithZero.Nat
import Mathlib.Data.List.TakeWhile
import Mathlib.Tactic.Common

/-!
# Numerals

Digits denote a number, and as many digits as there are denote a number below the power of ten with
that exponent (`ofDigitChars_lt`). Numerals of one length come in the order of their numbers
(`lt_iff_ofDigitChars_lt`), so a number that is padded to a fixed width is compared, with whatever
follows it, as the number first and then as what follows (`padded_append_lt_iff`). All that is left
of a comparison of texts with fields of fixed width is a comparison of their fields.
-/

namespace ParamSql.Text

/-! ### Comparing place by place -/

/-- Of two lists with beginnings of one length, the beginnings are compared first. -/
theorem append_lt_append_iff {cs ds : List Char} (h : cs.length = ds.length)
    {xs ys : List Char} : cs ++ xs < ds ++ ys ↔ cs < ds ∨ cs = ds ∧ xs < ys := by
  induction cs generalizing ds with
  | nil =>
    obtain rfl := List.length_eq_zero_iff.1 h.symm
    simp
  | cons c cs ih =>
    cases ds with
    | nil => cases h
    | cons d ds =>
      rw [List.cons_append, List.cons_append, List.cons_lt_cons_iff, List.cons_lt_cons_iff,
        ih (Nat.succ.inj h), List.cons.injEq]
      tauto

/-- Multiples of a number are compared first, and then what is added to them. -/
theorem mul_add_lt_mul_add_iff {p a b x y : Nat} (hx : x < p) (hy : y < p) :
    p * a + x < p * b + y ↔ a < b ∨ a = b ∧ x < y := by
  rcases Nat.lt_trichotomy a b with hlt | rfl | hgt
  · have hnext : p * a + p ≤ p * b := Nat.mul_le_mul_left p hlt
    omega
  · omega
  · have hnext : p * b + p ≤ p * a := Nat.mul_le_mul_left p hgt
    omega

/-! ### Where a run of characters ends -/

section Run

variable {p : Char → Bool} {cs ds xs ys : List Char} (hcs : ∀ c ∈ cs, p c = true)
  (hxs : ∀ x ∈ xs.head?, p x = false)
include hcs hxs

/-- Characters with a property are taken as far as a character without it. -/
theorem takeWhile_append_eq : (cs ++ xs).takeWhile p = cs := by
  rw [List.takeWhile_append_of_pos hcs]
  cases xs with
  | nil => exact List.append_nil cs
  | cons x xs =>
    rw [List.takeWhile_cons_of_neg (Bool.eq_false_iff.1 (hxs x rfl)), List.append_nil]

theorem dropWhile_append_eq : (cs ++ xs).dropWhile p = xs := by
  rw [List.dropWhile_append_of_pos hcs]
  cases xs with
  | nil => rfl
  | cons x xs => exact List.dropWhile_cons_of_neg (Bool.eq_false_iff.1 (hxs x rfl))

/-- Characters with a property can be told from what follows them, if that begins without it. -/
theorem append_inj_of_run (hds : ∀ d ∈ ds, p d = true) (hys : ∀ y ∈ ys.head?, p y = false)
    (h : cs ++ xs = ds ++ ys) : cs = ds ∧ xs = ys := by
  have htake := congrArg (List.takeWhile p) h
  have hdrop := congrArg (List.dropWhile p) h
  rw [takeWhile_append_eq hcs hxs, takeWhile_append_eq hds hys] at htake
  rw [dropWhile_append_eq hcs hxs, dropWhile_append_eq hds hys] at hdrop
  exact ⟨htake, hdrop⟩

end Run

/-- Where nothing comes after a separator there is none. -/
theorem splitAt?_of_snd_eq_none {p : Char → Bool} {cs : List Char}
    (h : (splitAt? p cs).2 = none) : (splitAt? p cs).1 = cs ∧ ∀ c ∈ cs, p c = false := by
  rw [splitAt?] at h ⊢
  split at h
  · next hdrop =>
    rw [List.dropWhile_eq_nil_iff] at hdrop
    exact ⟨rfl, fun c hc ↦ by simpa using hdrop c hc⟩
  · cases h

section Split

variable {p : Char → Bool} {cs : List Char} (hcs : ∀ c ∈ cs, p c = false)
include hcs

/-- Characters that are no separators are all that there is before one. -/
theorem splitAt?_of_forall : splitAt? p cs = (cs, none) := by
  have hdrop : cs.dropWhile (!p ·) = [] :=
    List.dropWhile_eq_nil_iff.2 fun c hc ↦ by rw [hcs c hc, Bool.not_false]
  rw [splitAt?, hdrop]

theorem splitAt?_append_cons {d : Char} (hd : p d = true) (rest : List Char) :
    splitAt? p (cs ++ d :: rest) = (cs, some rest) := by
  have hnot : ∀ c ∈ cs, (!p c) = true := fun c hc ↦ by rw [hcs c hc, Bool.not_false]
  have hend : ∀ x ∈ (d :: rest).head?, (!p x) = false := fun x hx ↦ by
    obtain rfl := Option.some.inj hx
    rw [hd, Bool.not_true]
  rw [splitAt?, dropWhile_append_eq hnot hend, takeWhile_append_eq hnot hend]

end Split

/-! ### Digits -/

section Digits

variable {c : Char} {cs ds : List Char}

theorem isDigit_iff : c.isDigit = true ↔ 48 ≤ c.toNat ∧ c.toNat ≤ 57 :=
  Char.isDigit_iff_toNat

/-- A digit is not a character that is no digit. -/
theorem beq_eq_false_of_isDigit {mark : Char} (hc : c.isDigit = true)
    (hmark : mark.isDigit = false) : (c == mark) = false := by
  refine beq_eq_false_iff_ne.2 ?_
  rintro rfl
  exact Bool.false_ne_true (hmark.symm.trans hc)

theorem isDigit_of_mem_toDigits {n : Nat} (hc : c ∈ Nat.toDigits 10 n) : c.isDigit = true :=
  Nat.isDigit_of_mem_toDigits (by decide) (by decide) hc

/-- A number that is not zero is written without a zero in front. -/
theorem head?_toDigits_ne_zero {n : Nat} (h : n ≠ 0) : (Nat.toDigits 10 n).head? ≠ some '0' := by
  induction n using Nat.strongRecOn with
  | ind n ih =>
    rcases Nat.lt_or_ge n 10 with hlt | hge
    · have hvalue := Nat.ofDigitChars_ten_toDigits (n := n)
      rw [Nat.toDigits_of_lt_base hlt] at hvalue ⊢
      intro hzero
      rw [Option.some.inj hzero] at hvalue
      exact h hvalue.symm
    · rw [Nat.toDigits_of_base_le (by decide) hge, List.head?_append,
        Option.or_of_isSome (List.isSome_head?.2 Nat.toDigits_ne_nil)]
      exact ih (n / 10) (by omega) (by omega)

theorem ofDigitChars_cons (c : Char) (cs : List Char) :
    Nat.ofDigitChars 10 (c :: cs) 0 =
      10 ^ cs.length * (c.toNat - 48) + Nat.ofDigitChars 10 cs 0 := by
  rw [Nat.ofDigitChars_cons, Nat.ofDigitChars_eq_ofDigitChars_zero, Nat.mul_zero, Nat.zero_add]
  rfl

/-- Digits denote a number that is less than the power of ten which has one more digit. -/
theorem ofDigitChars_lt (hcs : ∀ c ∈ cs, c.isDigit = true) :
    Nat.ofDigitChars 10 cs 0 < 10 ^ cs.length := by
  induction cs with
  | nil => decide
  | cons c cs ih =>
    obtain ⟨hc, hrest⟩ := List.forall_mem_cons.1 hcs
    have hvalue := ih hrest
    have hdigit := isDigit_iff.1 hc
    rw [ofDigitChars_cons, List.length_cons, Nat.pow_succ]
    have hle : 10 ^ cs.length * (c.toNat - 48) ≤ 10 ^ cs.length * 9 :=
      Nat.mul_le_mul_left _ (by omega)
    omega

/-- **Numerals of one length come in the order of their numbers.** -/
theorem lt_iff_ofDigitChars_lt (hlength : cs.length = ds.length)
    (hcs : ∀ c ∈ cs, c.isDigit = true) (hds : ∀ d ∈ ds, d.isDigit = true) :
    cs < ds ↔ Nat.ofDigitChars 10 cs 0 < Nat.ofDigitChars 10 ds 0 := by
  induction cs generalizing ds with
  | nil =>
    obtain rfl := List.length_eq_zero_iff.1 hlength.symm
    simp
  | cons c cs ih =>
    cases ds with
    | nil => cases hlength
    | cons d ds =>
      obtain ⟨hc, hcs⟩ := List.forall_mem_cons.1 hcs
      obtain ⟨hd, hds⟩ := List.forall_mem_cons.1 hds
      have hrest : cs.length = ds.length := Nat.succ.inj hlength
      rw [isDigit_iff] at hc hd
      rw [List.cons_lt_cons_iff, ih hrest hcs hds, ofDigitChars_cons, ofDigitChars_cons, hrest,
        mul_add_lt_mul_add_iff (hrest ▸ ofDigitChars_lt hcs) (ofDigitChars_lt hds),
        Char.lt_def, UInt32.lt_iff_toNat_lt, Char.toNat_val, Char.toNat_val,
        ← Char.toNat_inj]
      omega

/-- Numerals of one length are the same if their numbers are. -/
theorem eq_of_ofDigitChars_eq (hlength : cs.length = ds.length)
    (hcs : ∀ c ∈ cs, c.isDigit = true) (hds : ∀ d ∈ ds, d.isDigit = true)
    (h : Nat.ofDigitChars 10 cs 0 = Nat.ofDigitChars 10 ds 0) : cs = ds := by
  have hle : ¬ cs < ds := by
    rw [lt_iff_ofDigitChars_lt hlength hcs hds]
    omega
  have hge : ¬ ds < cs := by
    rw [lt_iff_ofDigitChars_lt hlength.symm hds hcs]
    omega
  exact List.le_antisymm hge hle

end Digits

/-! ### Padded numerals -/

section Padded

variable {width m n : Nat}

theorem toList_padded (width n : Nat) :
    (padded width n).toList =
      List.replicate (width - (Nat.toDigits 10 n).length) '0' ++ Nat.toDigits 10 n :=
  String.toList_ofList

theorem toList_padded_ne_nil (width n : Nat) : (padded width n).toList ≠ [] := by
  rw [toList_padded]
  exact List.append_ne_nil_of_right_ne_nil _ Nat.toDigits_ne_nil

theorem isDigit_of_mem_padded {c : Char} (h : c ∈ (padded width n).toList) : c.isDigit = true := by
  rw [toList_padded, List.mem_append] at h
  rcases h with hzero | hdigit
  · rw [(List.mem_replicate.1 hzero).2]
    rfl
  · exact isDigit_of_mem_toDigits hdigit

theorem ofDigitChars_padded (width n : Nat) :
    Nat.ofDigitChars 10 (padded width n).toList 0 = n := by
  rw [toList_padded, Nat.ofDigitChars_append, Nat.ofDigitChars_replicate_zero, Nat.mul_zero,
    Nat.ofDigitChars_ten_toDigits]

/-- A number can be told from its numeral. -/
theorem toList_padded_inj : (padded width m).toList = (padded width n).toList ↔ m = n := by
  refine ⟨fun h ↦ ?_, fun h ↦ h ▸ rfl⟩
  rw [← ofDigitChars_padded width m, h, ofDigitChars_padded]

/-- A number that is small enough is as wide as it should be. -/
theorem length_padded (hwidth : 0 < width) (hn : n < 10 ^ width) :
    (padded width n).toList.length = width := by
  have hle := (Nat.length_toDigits_le_iff (by decide) hwidth).2 hn
  rw [toList_padded, List.length_append, List.length_replicate]
  omega

/-- A numeral can be cut in two, each part of which is padded. -/
theorem toList_padded_add (width low : Nat) (hwidth : 0 < width) (hlow : 0 < low)
    (hn : n < 10 ^ (width + low)) :
    (padded (width + low) n).toList =
      (padded width (n / 10 ^ low)).toList ++ (padded low (n % 10 ^ low)).toList := by
  have hpos : 0 < 10 ^ low := Nat.pow_pos (by decide)
  have hhigh : n / 10 ^ low < 10 ^ width := by
    rwa [Nat.div_lt_iff_lt_mul hpos, ← Nat.pow_add]
  have hrest : (padded low (n % 10 ^ low)).toList.length = low :=
    length_padded hlow (Nat.mod_lt n hpos)
  refine eq_of_ofDigitChars_eq ?_ (fun _ ↦ isDigit_of_mem_padded) (fun c hc ↦ ?_) ?_
  · rw [List.length_append, length_padded hwidth hhigh, hrest,
      length_padded (Nat.add_pos_left hwidth low) hn]
  · exact (List.mem_append.1 hc).elim isDigit_of_mem_padded isDigit_of_mem_padded
  · rw [ofDigitChars_padded, Nat.ofDigitChars_append, ofDigitChars_padded,
      Nat.ofDigitChars_eq_ofDigitChars_zero, ofDigitChars_padded, hrest, Nat.div_add_mod]

variable (hwidth : 0 < width) (hm : m < 10 ^ width) (hn : n < 10 ^ width) {xs ys : List Char}
include hwidth hm hn

/-- Numbers that are padded to one width are compared as numbers, before what follows them. -/
theorem padded_append_lt_iff :
    (padded width m).toList ++ xs < (padded width n).toList ++ ys ↔
      m < n ∨ m = n ∧ xs < ys := by
  have hlength := (length_padded hwidth hm).trans (length_padded hwidth hn).symm
  rw [append_lt_append_iff hlength,
    lt_iff_ofDigitChars_lt hlength (fun _ ↦ isDigit_of_mem_padded) fun _ ↦ isDigit_of_mem_padded,
    ofDigitChars_padded, ofDigitChars_padded, toList_padded_inj]

end Padded

end ParamSql.Text
