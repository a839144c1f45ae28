import ParamSql.Double.Rounding
import Mathlib.Algebra.Order.Field.Rat
import Mathlib.Tactic.NormNum
import Mathlib.Tactic.Ring

/-!
# Values of doubles

The rational number that a finite double denotes, and which natural numbers are denoted by the
double that they are rounded to: those that fifty-three binary digits, and zeros behind them, are
enough for (`value_ofNat_eq_iff`).

A significand that is rounded up to `2 ^ 53` carries into the exponent and leaves the value alone,
so the value of `ofScaled` is what it is called with (`value_ofScaled`). What is left is the
rounding of a quotient to a natural number, which is exact if and only if the divisor divides.
-/

namespace ParamSql

/-! ### Rounded quotients -/

theorem roundHalfEven_eq_or (num den : Nat) :
    roundHalfEven num den = num / den ∨ roundHalfEven num den = num / den + 1 := by
  simp only [roundHalfEven]
  split
  · exact .inl rfl
  · split
    · exact .inr rfl
    · split
      · exact .inl rfl
      · exact .inr rfl

theorem roundHalfEven_of_dvd {num den : Nat} (hden : 0 < den) (h : den ∣ num) :
    roundHalfEven num den = num / den := by
  rw [roundHalfEven, Nat.mod_eq_zero_of_dvd h, if_pos (by omega)]

/-- Rounding is exact where the divisor divides, and nowhere else. -/
theorem roundHalfEven_mul_eq_iff {num den : Nat} (hden : 0 < den) :
    roundHalfEven num den * den = num ↔ den ∣ num := by
  constructor
  · intro h
    exact ⟨roundHalfEven num den, by rw [Nat.mul_comm, h]⟩
  · intro h
    rw [roundHalfEven_of_dvd hden h, Nat.div_mul_cancel h]

/-- The binary logarithm of a natural number. -/
theorem floorLog2_one {n : Nat} (h : n ≠ 0) : floorLog2 n 1 = n.log2 := by
  have hpow : 1 * Nat.pow 2 n.log2 ≤ n := by
    rw [Nat.one_mul]
    exact Nat.log2_self_le h
  have hone : Nat.log2 1 = 0 := by decide
  simp only [floorLog2, hone, Nat.cast_zero, sub_zero, Int.toNat_natCast, Int.toNat_neg_natCast]
  rw [if_pos]
  simpa using hpow

namespace Double

/-! ### Values -/

/-- The rational number that a finite double denotes. -/
def value (d : Double) : ℚ :=
  (if d.negative then -1 else 1) * d.significand * 2 ^ d.exponent

section Scaled

variable {m : Nat} {e : Int} (hm : m ≤ 2 * hiddenBit) (hlow : -1074 ≤ e) (hhigh : e ≤ 970)
include hm hlow hhigh

/-- Nothing is cut off from a double that is not too large. -/
theorem bits_ofScaled :
    (ofScaled m e).bits.toNat = (e + 1074).toNat * hiddenBit + m := by
  unfold hiddenBit at hm
  have hmin : min ((e + 1074).toNat * hiddenBit + m) infiniteMagnitude =
      (e + 1074).toNat * hiddenBit + m := by
    unfold infiniteMagnitude hiddenBit
    omega
  have hlt : (e + 1074).toNat * hiddenBit + m < 2 ^ 64 := by
    unfold hiddenBit
    omega
  rw [ofScaled, hmin]
  exact UInt64.toNat_ofNat_of_lt' hlt

theorem negative_ofScaled : (ofScaled m e).negative = false := by
  rw [negative, bits_ofScaled hm hlow hhigh, decide_eq_false_iff_not]
  unfold signBit
  unfold hiddenBit at hm ⊢
  omega

theorem magnitude_ofScaled :
    (ofScaled m e).magnitude = (e + 1074).toNat * hiddenBit + m := by
  rw [magnitude, bits_ofScaled hm hlow hhigh]
  unfold signBit
  unfold hiddenBit at hm ⊢
  omega

theorem isFinite_ofScaled : (ofScaled m e).isFinite = true := by
  rw [isFinite, magnitude_ofScaled hm hlow hhigh, decide_eq_true_eq]
  unfold infiniteMagnitude
  unfold hiddenBit at hm ⊢
  omega

/-- **A double has the value that it is made from.** -/
theorem value_ofScaled (hnormal : hiddenBit ≤ m ∨ e = -1074) :
    (ofScaled m e).value = m * 2 ^ e := by
  have hmagnitude := magnitude_ofScaled hm hlow hhigh
  rw [value, negative_ofScaled hm hlow hhigh, if_neg Bool.false_ne_true, one_mul]
  rcases Nat.lt_or_ge m hiddenBit with hsubnormal | hnormal'
  · -- without a hidden bit
    obtain rfl := hnormal.resolve_left (by omega)
    have hm' : (ofScaled m (-1074)).magnitude = m := by
      rw [hmagnitude, show (-1074 + 1074 : Int).toNat = 0 from rfl, Nat.zero_mul, Nat.zero_add]
    rw [significand, exponent, hm', if_pos hsubnormal, if_pos hsubnormal]
  · have hhidden : ¬ (ofScaled m e).magnitude < hiddenBit := by
      rw [hmagnitude]
      omega
    rw [significand, exponent, if_neg hhidden, if_neg hhidden, hmagnitude]
    rcases Nat.lt_or_ge m (2 * hiddenBit) with hlt | hge
    · have hsignificand : hiddenBit + ((e + 1074).toNat * hiddenBit + m) % hiddenBit = m := by
        unfold hiddenBit at *
        omega
      have hexponent :
          ((((e + 1074).toNat * hiddenBit + m) / hiddenBit : Nat) : Int) - 1075 = e := by
        unfold hiddenBit at *
        omega
      rw [hsignificand, hexponent]
    · -- rounded up to the next power of two
      obtain rfl : m = 2 * hiddenBit := by omega
      have hsignificand : hiddenBit +
          ((e + 1074).toNat * hiddenBit + 2 * hiddenBit) % hiddenBit = hiddenBit := by
        unfold hiddenBit
        omega
      have hexponent :
          ((((e + 1074).toNat * hiddenBit + 2 * hiddenBit) / hiddenBit : Nat) : Int) - 1075 =
            e + 1 := by
        unfold hiddenBit
        omega
      rw [hsignificand, hexponent, zpow_add_one₀ two_ne_zero]
      push_cast
      ring

end Scaled

/-! ### Natural numbers -/

section OfNat

variable {n : Nat}

/-- The quotient that a natural number is scaled to, before it is rounded, has fifty-three digits
in front of the point. -/
theorem scaled_div (h : n ≠ 0) :
    hiddenBit ≤ n * 2 ^ (52 - n.log2) / 2 ^ (n.log2 - 52) ∧
      n * 2 ^ (52 - n.log2) / 2 ^ (n.log2 - 52) < 2 * hiddenBit := by
  have hpow : 2 ^ 52 * 2 ^ (n.log2 - 52) = 2 ^ n.log2 * 2 ^ (52 - n.log2) := by
    rw [← Nat.pow_add, ← Nat.pow_add]
    exact congrArg (2 ^ ·) (by omega)
  have hlow : 2 ^ n.log2 * 2 ^ (52 - n.log2) ≤ n * 2 ^ (52 - n.log2) :=
    Nat.mul_le_mul_right _ (Nat.log2_self_le h)
  have hhigh : n * 2 ^ (52 - n.log2) < 2 ^ (n.log2 + 1) * 2 ^ (52 - n.log2) :=
    Nat.mul_lt_mul_of_pos_right Nat.lt_log2_self (Nat.two_pow_pos _)
  have hpos : 0 < 2 ^ (n.log2 - 52) := Nat.two_pow_pos _
  rw [Nat.le_div_iff_mul_le hpos, Nat.div_lt_iff_lt_mul hpos]
  refine ⟨hpow.le.trans hlow, hhigh.trans_eq ?_⟩
  rw [Nat.pow_succ, Nat.mul_right_comm, ← hpow, Nat.mul_comm, ← Nat.mul_assoc]
  rfl

/-- Rounded, it is the significand of the double. -/
theorem ofNat_eq_ofScaled (h : n ≠ 0) :
    ofNat n = ofScaled (roundHalfEven (n * 2 ^ (52 - n.log2)) (2 ^ (n.log2 - 52)))
      (n.log2 - 52) := by
  have he : max (floorLog2 n 1 - 52) (-1074) = (n.log2 : Int) - 52 := by
    rw [floorLog2_one h]
    omega
  have hdown : (-((n.log2 : Int) - 52)).toNat = 52 - n.log2 := by omega
  have hup : ((n.log2 : Int) - 52).toNat = n.log2 - 52 := by omega
  rw [ofNat, ofRatio, if_neg h]
  simp only [he, hdown, hup, Nat.one_mul]
  rfl

/-- A natural number that is not too large becomes a finite double, whose value is a multiple of the
power of two that its fifty-three leading digits are counted in. -/
theorem value_ofNat (h : n ≠ 0) (hn : n.log2 < 1023) :
    (ofNat n).isFinite = true ∧
      (ofNat n).value =
        roundHalfEven (n * 2 ^ (52 - n.log2)) (2 ^ (n.log2 - 52)) * 2 ^ ((n.log2 : Int) - 52) := by
  obtain ⟨hlow, hhigh⟩ := scaled_div h
  obtain ⟨hfloor, hceil⟩ :
      hiddenBit ≤ roundHalfEven (n * 2 ^ (52 - n.log2)) (2 ^ (n.log2 - 52)) ∧
        roundHalfEven (n * 2 ^ (52 - n.log2)) (2 ^ (n.log2 - 52)) ≤ 2 * hiddenBit := by
    rcases roundHalfEven_eq_or (n * 2 ^ (52 - n.log2)) (2 ^ (n.log2 - 52)) with heq | heq <;>
      omega
  rw [ofNat_eq_ofScaled h]
  exact ⟨isFinite_ofScaled hceil (by omega) (by omega),
    value_ofScaled hceil (by omega) (by omega) (.inl hfloor)⟩

theorem isFinite_ofNat (hn : n.log2 < 1023) : (ofNat n).isFinite = true := by
  by_cases h : n = 0
  · rw [h]
    decide +kernel
  · exact (value_ofNat h hn).1

/-- **Which natural numbers are doubles**: those of which everything behind the fifty-three leading
binary digits is zero. -/
theorem value_ofNat_eq_iff (hn : n.log2 < 1023) :
    (ofNat n).value = n ↔ 2 ^ (n.log2 - 52) ∣ n := by
  by_cases h : n = 0
  · subst h
    exact iff_of_true (by decide +kernel) (Nat.dvd_zero _)
  have hpow : (2 : ℚ) ^ ((n.log2 : Int) - 52) * 2 ^ (52 - n.log2) = 2 ^ (n.log2 - 52) := by
    rw [← zpow_natCast, ← zpow_natCast, ← zpow_add₀ two_ne_zero]
    exact congrArg _ (by omega)
  have hpos : (2 : ℚ) ^ (52 - n.log2) ≠ 0 := pow_ne_zero _ two_ne_zero
  -- cleared of fractions, the question is whether a rounding is exact
  have hcleared : (ofNat n).value = n ↔
      roundHalfEven (n * 2 ^ (52 - n.log2)) (2 ^ (n.log2 - 52)) * 2 ^ (n.log2 - 52) =
        n * 2 ^ (52 - n.log2) := by
    rw [(value_ofNat h hn).2, ← mul_left_inj' hpos, mul_assoc, hpow]
    norm_cast
  rw [hcleared, roundHalfEven_mul_eq_iff (Nat.two_pow_pos _)]
  -- one of the two powers is one
  rcases Nat.le_total n.log2 52 with hle | hle
  · rw [Nat.sub_eq_zero_of_le hle]
    exact iff_of_true (Nat.one_dvd _) (Nat.one_dvd _)
  · rw [Nat.sub_eq_zero_of_le hle, Nat.pow_zero, Nat.mul_one]

end OfNat

end Double

end ParamSql
