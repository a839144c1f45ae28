import ParamSql.Proofs.Double.Value
import Mathlib.Data.Int.Log
import Mathlib.Data.Rat.Floor
import Mathlib.Tactic.Positivity

/-!
# Rounding quotients

The double that a quotient is rounded to depends on the value of the quotient and not on how it is
written (`ofRatio_congr`): its exponent comes from the binary logarithm of the value
(`floorLog2_eq_log`), and a common factor does not matter to the rounding of what is left. If the
value is that of a double, it is rounded to this double (`ofRatio_eq_abs`).
-/

namespace ParamSql

/-! ### Powers with integer exponents -/

/-- A power with an integer exponent as a quotient of powers, one of which is one. -/
theorem zpow_eq_div {b : ℚ} (hb : b ≠ 0) (e : Int) : b ^ e = b ^ e.toNat / b ^ (-e).toNat := by
  rw [eq_div_iff (pow_ne_zero _ hb), ← zpow_natCast, ← zpow_natCast, ← zpow_add₀ hb]
  exact congrArg _ (by omega)

theorem pow_toNat {e : Int} (he : 0 ≤ e) (b : ℚ) : b ^ e.toNat = b ^ e := by
  rw [← zpow_natCast, Int.toNat_of_nonneg he]

/-- Logarithms are determined by the powers on either side. -/
theorem log_eq_of_zpow {b : Nat} (hb : 1 < b) {q : ℚ} {e : Int} (hlow : (b : ℚ) ^ e ≤ q)
    (hhigh : q < (b : ℚ) ^ (e + 1)) : Int.log b q = e := by
  have hq : 0 < q := (zpow_pos (Nat.cast_pos.2 (by omega)) e).trans_le hlow
  have hle := (Int.zpow_le_iff_le_log hb hq).1 hlow
  have hlt := (Int.lt_zpow_iff_log_lt hb hq).1 hhigh
  omega

/-! ### The exponent of a quotient -/

section Log

variable {num den : Nat} (hden : 0 < den)
include hden

/-- Quotients are compared with powers of two as whole numbers are. -/
theorem zpow_le_div_iff (e : Int) :
    (2 : ℚ) ^ e ≤ num / den ↔ den * 2 ^ e.toNat ≤ num * 2 ^ (-e).toNat := by
  rw [zpow_eq_div two_ne_zero, div_le_div_iff₀ (by positivity) (by positivity), mul_comm]
  exact_mod_cast Iff.rfl

/-- The exponent that is chosen for a quotient is the binary logarithm of its value. -/
theorem floorLog2_eq_log (hnum : num ≠ 0) : floorLog2 num den = Int.log 2 (num / den : ℚ) := by
  have hcast : (0 : ℚ) < den := Nat.cast_pos.2 hden
  have hnumlow : (2 : ℚ) ^ num.log2 ≤ num := mod_cast Nat.log2_self_le hnum
  have hnumhigh : (num : ℚ) < 2 ^ (num.log2 + 1) := mod_cast Nat.lt_log2_self
  have hdenlow : (2 : ℚ) ^ den.log2 ≤ den := mod_cast Nat.log2_self_le hden.ne'
  have hdenhigh : (den : ℚ) < 2 ^ (den.log2 + 1) := mod_cast Nat.lt_log2_self
  have hlow : (2 : ℚ) ^ ((num.log2 : Int) - den.log2 - 1) ≤ num / den := by
    rw [sub_sub, zpow_sub₀ two_ne_zero, zpow_natCast, ← Nat.cast_succ, zpow_natCast]
    exact div_le_div₀ (Nat.cast_nonneg num) hnumlow hcast hdenhigh.le
  have hhigh : (num / den : ℚ) < 2 ^ ((num.log2 : Int) - den.log2 + 1) := by
    rw [sub_add_eq_add_sub, zpow_sub₀ two_ne_zero, ← Nat.cast_succ, zpow_natCast, zpow_natCast]
    exact div_lt_div₀ hnumhigh hdenlow (by positivity) (by positivity)
  rw [floorLog2]
  refine (log_eq_of_zpow one_lt_two ?_ ?_).symm
  · rw [Nat.cast_ofNat]
    split
    · next hfits => exact (zpow_le_div_iff hden _).2 hfits
    · exact hlow
  · rw [Nat.cast_ofNat]
    split
    · exact hhigh
    · next hfits =>
      rw [sub_add_cancel]
      exact lt_of_not_ge (mt (zpow_le_div_iff hden _).1 hfits)

/-- The parts that a quotient is rounded to. -/
theorem Double.ofRatio_eq_ofScaled (hnum : num ≠ 0) {e : Int}
    (he : max (Int.log 2 (num / den : ℚ) - 52) (-1074) = e) :
    ofRatio num den =
      ofScaled (roundHalfEven (num * 2 ^ (-e).toNat) (den * 2 ^ e.toNat)) e := by
  rw [← floorLog2_eq_log hden hnum] at he
  rw [ofRatio, if_neg hnum, ← he]
  rfl

end Log

/-! ### Quotients of one value -/

/-- A common factor does not matter. -/
theorem roundHalfEven_mul_right {c : Nat} (hc : 0 < c) (num den : Nat) :
    roundHalfEven (num * c) (den * c) = roundHalfEven num den := by
  have hless : ∀ x y : Nat, 2 * (x * c) < y * c ↔ 2 * x < y := fun x y ↦ by
    rw [← Nat.mul_assoc, Nat.mul_lt_mul_right hc]
  have hmore : ∀ x y : Nat, y * c < 2 * (x * c) ↔ y < 2 * x := fun x y ↦ by
    rw [← Nat.mul_assoc, Nat.mul_lt_mul_right hc]
  simp only [roundHalfEven, Nat.mul_div_mul_right _ _ hc, Nat.mul_mod_mul_right, hless, hmore]

section Congr

variable {num den num' den' : Nat} (hden : 0 < den) (hden' : 0 < den')
include hden hden'

theorem roundHalfEven_congr (h : num * den' = num' * den) :
    roundHalfEven num den = roundHalfEven num' den' := by
  rw [← roundHalfEven_mul_right hden', h, Nat.mul_comm den, roundHalfEven_mul_right hden]

/-- **Rounding depends on the value of a quotient only.** -/
theorem Double.ofRatio_congr (h : (num / den : ℚ) = num' / den') :
    ofRatio num den = ofRatio num' den' := by
  have hcross : num * den' = num' * den := by
    rw [div_eq_div_iff (Nat.cast_ne_zero.2 hden.ne') (Nat.cast_ne_zero.2 hden'.ne')] at h
    exact_mod_cast h
  rcases eq_or_ne num 0 with rfl | hnum
  · rw [Nat.zero_mul] at hcross
    obtain rfl : num' = 0 := (Nat.mul_eq_zero.1 hcross.symm).resolve_right hden.ne'
    rw [ofRatio, ofRatio, if_pos rfl, if_pos rfl]
  · have hnum' : num' ≠ 0 := by
      rintro rfl
      rw [Nat.zero_mul] at hcross
      exact (Nat.mul_pos (Nat.pos_of_ne_zero hnum) hden').ne' hcross
    have hround (e : Int) : roundHalfEven (num * 2 ^ (-e).toNat) (den * 2 ^ e.toNat) =
        roundHalfEven (num' * 2 ^ (-e).toNat) (den' * 2 ^ e.toNat) := by
      refine roundHalfEven_congr (by positivity) (by positivity) ?_
      rw [Nat.mul_mul_mul_comm, hcross, Nat.mul_mul_mul_comm]
    rw [ofRatio_eq_ofScaled hden hnum rfl, ofRatio_eq_ofScaled hden' hnum' rfl, h, hround]

end Congr

namespace Double

/-! ### Parts of a double -/

section Parts

variable (d : Double)

theorem magnitude_lt : d.magnitude < signBit :=
  Nat.mod_lt _ (by decide)

theorem bits_abs : d.abs.bits.toNat = d.magnitude :=
  UInt64.toNat_ofNat_of_lt' (d.magnitude_lt.trans (by decide))

@[simp]
theorem negative_abs : d.abs.negative = false := by
  rw [negative, bits_abs, decide_eq_false_iff_not]
  exact d.magnitude_lt.not_ge

@[simp]
theorem magnitude_abs : d.abs.magnitude = d.magnitude := by
  rw [magnitude, bits_abs, Nat.mod_eq_of_lt d.magnitude_lt]

/-- A double is put together from its sign and its absolute value. -/
theorem ofMagnitude_negative_magnitude : ofMagnitude d.negative d.magnitude = d := by
  have hbits := d.bits.toNat_lt
  have hnat : (if d.negative then signBit + d.magnitude else d.magnitude) = d.bits.toNat := by
    unfold negative magnitude signBit
    split
    · next h =>
      have hle := of_decide_eq_true h
      omega
    · next h =>
      have hlt := mt decide_eq_true h
      omega
  rw [ofMagnitude, hnat, UInt64.ofNat_toNat]

/-- A double is its absolute value, with the sign that it has. -/
theorem sign_abs : (if d.negative then d.abs.neg else d.abs) = d := by
  conv_rhs => rw [← d.ofMagnitude_negative_magnitude]
  cases d.negative with
  | false => rfl
  | true => rw [if_pos rfl, neg, negative_abs, magnitude_abs, Bool.not_false]

theorem value_abs : d.abs.value = d.significand * 2 ^ d.exponent := by
  rw [value, negative_abs, if_neg Bool.false_ne_true, one_mul, significand, exponent, magnitude_abs,
    significand, exponent]

theorem significand_lt : (d.significand : ℚ) < 2 ^ (53 : Int) := by
  have hnat : d.significand < 2 * hiddenBit := by
    unfold significand hiddenBit
    split <;> omega
  refine (Nat.cast_lt.2 hnat).trans_eq ?_
  unfold hiddenBit
  norm_num

theorem exponent_ge : -1074 ≤ d.exponent := by
  unfold exponent hiddenBit
  split <;> omega

/-- A double that is not normal has the least exponent. -/
theorem normal_or : (2 : ℚ) ^ (52 : Int) ≤ d.significand ∨ d.exponent = -1074 := by
  unfold significand exponent
  split
  · exact .inr rfl
  · left
    have hle : ((hiddenBit : Nat) : ℚ) ≤ (hiddenBit + d.magnitude % hiddenBit : Nat) :=
      Nat.cast_le.2 (Nat.le_add_right hiddenBit _)
    refine le_trans ?_ hle
    unfold hiddenBit
    norm_num

variable {d}

theorem exponent_le (hfinite : d.isFinite = true) : d.exponent ≤ 971 := by
  have hlt := of_decide_eq_true hfinite
  unfold infiniteMagnitude hiddenBit at hlt
  unfold exponent hiddenBit
  split <;> omega

/-- The absolute value is made from the parts. -/
theorem ofScaled_significand_exponent (hfinite : d.isFinite = true) :
    ofScaled d.significand d.exponent = d.abs := by
  have hlt := of_decide_eq_true hfinite
  have hmagnitude :
      (d.exponent + 1074).toNat * hiddenBit + d.significand = d.magnitude := by
    unfold significand exponent hiddenBit
    split <;> omega
  rw [ofScaled, hmagnitude, Nat.min_eq_left hlt.le, abs]

end Parts

/-! ### Rounding the value of a double -/

section Nonzero

variable {d : Double} (hne : d.magnitude ≠ 0)
include hne

theorem significand_ne_zero : d.significand ≠ 0 := by
  unfold significand hiddenBit
  split <;> omega

theorem value_abs_pos : 0 < d.abs.value := by
  rw [value_abs]
  exact mul_pos (Nat.cast_pos.2 (Nat.pos_of_ne_zero (significand_ne_zero hne))) (zpow_pos two_pos _)

/-- The exponent of a double is the one that is chosen for its value: the significand has
fifty-three digits at most, and as many unless the exponent is the least. -/
theorem max_log_value_abs : max (Int.log 2 d.abs.value - 52) (-1074) = d.exponent := by
  have hvalue := value_abs_pos hne
  have hpos : (0 : ℚ) < 2 ^ d.exponent := zpow_pos two_pos _
  have hhigh : Int.log 2 d.abs.value < 53 + d.exponent := by
    rw [← Int.lt_zpow_iff_log_lt one_lt_two hvalue, value_abs, Nat.cast_ofNat,
      zpow_add₀ two_ne_zero]
    exact mul_lt_mul_of_pos_right d.significand_lt hpos
  have hlow : 52 + d.exponent ≤ Int.log 2 d.abs.value ∨ d.exponent = -1074 := by
    refine d.normal_or.imp_left fun hnormal ↦ ?_
    rw [← Int.zpow_le_iff_le_log one_lt_two hvalue, value_abs, Nat.cast_ofNat,
      zpow_add₀ two_ne_zero]
    exact mul_le_mul_of_nonneg_right hnormal hpos.le
  have hleast := d.exponent_ge
  omega

/-- **A double is what its value is rounded to**, however that is written as a quotient. -/
theorem ofRatio_eq_abs (hfinite : d.isFinite = true) {num den : Nat} (hden : 0 < den)
    (h : (num / den : ℚ) = d.abs.value) : ofRatio num den = d.abs := by
  have hnum : num ≠ 0 := by
    rintro rfl
    rw [Nat.cast_zero, zero_div] at h
    exact (value_abs_pos hne).ne h
  have he := max_log_value_abs hne
  rw [← h] at he
  -- the quotient lies on the grid on which it is rounded
  have hexact : num * 2 ^ (-d.exponent).toNat =
      d.significand * (den * 2 ^ d.exponent.toNat) := by
    rw [value_abs, zpow_eq_div two_ne_zero, mul_div_assoc',
      div_eq_div_iff (by positivity) (by positivity)] at h
    have hnat : num * 2 ^ (-d.exponent).toNat = d.significand * 2 ^ d.exponent.toNat * den := by
      exact_mod_cast h
    rw [hnat]
    ring
  rw [ofRatio_eq_ofScaled hden hnum he, hexact,
    roundHalfEven_of_dvd (by positivity) (Nat.dvd_mul_left _ _),
    Nat.mul_div_cancel _ (by positivity), ofScaled_significand_exponent hfinite]

end Nonzero

end Double

end ParamSql
