import ParamSql.Double.Decimal
import ParamSql.Proofs.Double.Quotient

/-!
# Decimal numerals read back

What a decimal numeral is read as depends on the number that it denotes and not on how many of its
digits are zeros at the end (`ofDecimal_congr`), and a numeral of the value of a double is read as
this double (`ofDecimal_eq_abs`). The bounds beyond which a numeral is not looked at are outside the
finite doubles.

So the shortest numeral of a double reads back as the double (`ofDecimal_shortest`): one that is
found on a grid was tested, and the one that stands for not finding any has all digits of the value.
-/

namespace ParamSql

/-! ### Values -/

/-- The rational number that a numeral denotes. -/
def Decimal.value (x : Decimal) : ℚ :=
  x.digits * 10 ^ x.exponent

namespace Decimal

variable {x y : Decimal}

theorem value_eq_zero_iff : x.value = 0 ↔ x.digits = 0 := by
  rw [value, mul_eq_zero, Nat.cast_eq_zero, or_iff_left (zpow_ne_zero _ (by norm_num))]

/-- The quotient that is rounded when a numeral is read. -/
theorem value_eq_div (x : Decimal) : x.value =
    ((x.digits * 10 ^ x.exponent.toNat : Nat) : ℚ) / (10 ^ (-x.exponent).toNat : Nat) := by
  rw [value, zpow_eq_div (by norm_num)]
  push_cast
  rw [mul_div_assoc]

/-- The powers of ten on either side of a number, by its number of digits. -/
theorem ten_pow_le_and_lt {n : Nat} (h : n ≠ 0) :
    10 ^ (decimalLength n - 1) ≤ n ∧ n < 10 ^ decimalLength n := by
  have hlength : 0 < decimalLength n := Nat.length_toDigits_pos
  refine ⟨?_, (Nat.length_toDigits_le_iff (by decide) hlength).1 le_rfl⟩
  rcases Nat.eq_zero_or_pos (decimalLength n - 1) with hone | hmore
  · rw [hone]
    exact Nat.one_le_iff_ne_zero.2 h
  · refine Nat.le_of_not_lt fun hlt ↦ ?_
    have hle : decimalLength n ≤ decimalLength n - 1 :=
      (Nat.length_toDigits_le_iff (by decide) hmore).2 hlt
    omega

/-- A number is written with one digit more than its decimal logarithm. -/
theorem log_value (h : x.digits ≠ 0) :
    Int.log 10 x.value = decimalLength x.digits + x.exponent - 1 := by
  obtain ⟨hlow, hhigh⟩ := ten_pow_le_and_lt h
  have hlength : 0 < decimalLength x.digits := Nat.length_toDigits_pos
  have hpos : (0 : ℚ) < 10 ^ x.exponent := zpow_pos (by norm_num) _
  have hten : (10 : ℚ) ≠ 0 := by norm_num
  refine log_eq_of_zpow (by decide) ?_ ?_
  · have hexponent : (decimalLength x.digits + x.exponent - 1 : Int) =
        (decimalLength x.digits - 1 : Nat) + x.exponent := by omega
    rw [hexponent, Nat.cast_ofNat, zpow_add₀ hten, zpow_natCast]
    exact mul_le_mul_of_nonneg_right (mod_cast hlow) hpos.le
  · rw [sub_add_cancel, Nat.cast_ofNat, zpow_add₀ hten, zpow_natCast]
    exact mul_lt_mul_of_pos_right (mod_cast hhigh) hpos

end Decimal

namespace Double

/-! ### Reading -/

/-- **What a numeral is read as depends on its value only.** -/
theorem ofDecimal_congr {x y : Decimal} (h : x.value = y.value) : ofDecimal x = ofDecimal y := by
  have hzero : x.digits = 0 ↔ y.digits = 0 := by
    rw [← Decimal.value_eq_zero_iff, h, Decimal.value_eq_zero_iff]
  by_cases hx : x.digits = 0
  · rw [ofDecimal, ofDecimal, if_pos hx, if_pos (hzero.1 hx)]
  · have hy := mt hzero.2 hx
    have htop : (decimalLength x.digits + x.exponent : Int) =
        decimalLength y.digits + y.exponent := by
      have hlog := Decimal.log_value hx
      rw [h, Decimal.log_value hy] at hlog
      omega
    have hratio :
        ofRatio (x.digits * Nat.pow 10 x.exponent.toNat) (Nat.pow 10 (-x.exponent).toNat) =
          ofRatio (y.digits * Nat.pow 10 y.exponent.toNat) (Nat.pow 10 (-y.exponent).toNat) :=
      ofRatio_congr (Nat.pow_pos (by decide)) (Nat.pow_pos (by decide))
        (x.value_eq_div.symm.trans (h.trans y.value_eq_div))
    rw [ofDecimal, ofDecimal, if_neg hx, if_neg hy]
    simp only [htop, hratio]

/-- The first power of two that is no finite double is below the numbers that are taken for infinity
without a look. -/
theorem two_zpow_le_ten_zpow : (2 : ℚ) ^ (1024 : Int) ≤ 10 ^ (310 : Int) := by
  have hnat : 2 ^ 1024 ≤ 10 ^ 310 := by decide +kernel
  rw [zpow_ofNat, zpow_ofNat]
  exact_mod_cast hnat

/-- The least double is above the numbers that are taken for zero without a look. -/
theorem ten_zpow_le_two_zpow : (10 : ℚ) ^ (-324 : Int) ≤ 2 ^ (-1074 : Int) := by
  have hnat : 2 ^ 1074 ≤ 10 ^ 324 := by decide +kernel
  rw [zpow_neg, zpow_neg, zpow_ofNat, zpow_ofNat]
  exact inv_anti₀ (by positivity) (mod_cast hnat)

variable {d : Double} (hfinite : d.isFinite = true)

include hfinite in
theorem value_abs_lt : d.abs.value < 10 ^ (310 : Int) := by
  have hpos : (0 : ℚ) < 2 ^ d.exponent := zpow_pos two_pos _
  have hle : (2 : ℚ) ^ d.exponent ≤ 2 ^ (971 : Int) :=
    zpow_le_zpow_right₀ one_le_two (exponent_le hfinite)
  calc d.abs.value = d.significand * 2 ^ d.exponent := d.value_abs
    _ < 2 ^ (53 : Int) * 2 ^ (971 : Int) :=
      mul_lt_mul d.significand_lt hle hpos (zpow_nonneg zero_le_two _)
    _ = 2 ^ (1024 : Int) := (zpow_add₀ two_ne_zero _ _).symm
    _ ≤ 10 ^ (310 : Int) := two_zpow_le_ten_zpow

theorem le_value_abs (hne : d.magnitude ≠ 0) : (10 : ℚ) ^ (-324 : Int) ≤ d.abs.value := by
  have hpos : (0 : ℚ) < 2 ^ d.exponent := zpow_pos two_pos _
  have hone : (1 : ℚ) ≤ d.significand :=
    mod_cast Nat.one_le_iff_ne_zero.2 (significand_ne_zero hne)
  calc (10 : ℚ) ^ (-324 : Int) ≤ 2 ^ (-1074 : Int) := ten_zpow_le_two_zpow
    _ ≤ 2 ^ d.exponent := zpow_le_zpow_right₀ one_le_two d.exponent_ge
    _ ≤ d.significand * 2 ^ d.exponent := le_mul_of_one_le_left hpos.le hone
    _ = d.abs.value := d.value_abs.symm

theorem abs_eq_zero_iff : d.abs = zero ↔ d.magnitude = 0 := by
  constructor
  · intro h
    rw [← magnitude_abs, h]
    decide
  · intro h
    rw [abs, h, zero]

theorem value_abs_eq_zero (h : d.magnitude = 0) : d.abs.value = 0 := by
  rw [value_abs, significand, h, if_pos (by decide), Nat.cast_zero, zero_mul]

include hfinite in
/-- **A numeral of the value of a double is read as this double.** -/
theorem ofDecimal_eq_abs {x : Decimal} (h : x.value = d.abs.value) : ofDecimal x = d.abs := by
  rcases eq_or_ne d.magnitude 0 with hzero | hne
  · rw [value_abs_eq_zero hzero, Decimal.value_eq_zero_iff] at h
    rw [ofDecimal, if_pos h, abs_eq_zero_iff.2 hzero]
  have hvalue : 0 < x.value := h ▸ value_abs_pos hne
  have hdigits : x.digits ≠ 0 := mt Decimal.value_eq_zero_iff.2 hvalue.ne'
  -- no finite double is as large or as small as what is not looked at
  have hlog := Decimal.log_value hdigits
  have htop := (Int.lt_zpow_iff_log_lt (by decide : 1 < 10) hvalue).1 (h ▸ value_abs_lt hfinite)
  have hbottom := (Int.zpow_le_iff_le_log (by decide : 1 < 10) hvalue).1 (h ▸ le_value_abs hne)
  rw [ofDecimal, if_neg hdigits, if_neg (by omega), if_neg (by omega)]
  exact ofRatio_eq_abs hne hfinite (Nat.pow_pos (by decide)) (x.value_eq_div.symm.trans h)

/-! ### Shortest numerals -/

theorem Tie.nearer_eq_or (tie : Tie) (low rest den : Nat) :
    tie.nearer low rest den = low ∨ tie.nearer low rest den = low + 1 := by
  cases tie <;> simp only [nearer] <;> split_ifs <;> first | exact .inl rfl | exact .inr rfl

/-- What is found on a grid was tested. -/
theorem ofDecimal_onGrid {tie : Tie} {k : Int} {found : Decimal}
    (h : onGrid tie d k = some found) : ofDecimal found = d := by
  simp only [onGrid] at h
  split at h
  · next hlow hhigh =>
    obtain rfl := Option.some.inj h
    -- the nearer of the two was tested, whichever it is
    generalize hnearer : Tie.nearer tie _ _ _ = n
    rcases hnearer ▸ tie.nearer_eq_or _ _ _ with rfl | rfl
    · exact eq_of_beq hlow
    · exact eq_of_beq hhigh
  · next hlow _ =>
    obtain rfl := Option.some.inj h
    exact eq_of_beq hlow
  · next _ hhigh =>
    obtain rfl := Option.some.inj h
    exact eq_of_beq hhigh
  · cases h

theorem ofDecimal_onCoarsestGrid {tie : Tie} {steps : Nat} {k : Int} {found : Decimal}
    (h : onCoarsestGrid tie d steps k = some found) : ofDecimal found = d := by
  induction steps generalizing k with
  | zero => cases h
  | succ steps ih =>
    rw [onCoarsestGrid] at h
    split at h
    · next hgrid =>
      obtain rfl := Option.some.inj h
      exact ofDecimal_onGrid hgrid
    · exact ih h

/-- All digits of the value are the value. -/
theorem value_exactDecimal (d : Double) : d.exactDecimal.value = d.abs.value := by
  rw [exactDecimal, value_abs]
  split
  · next hneg =>
    have hten : (10 : ℚ) ^ d.exponent = 5 ^ d.exponent * 2 ^ d.exponent := by
      rw [← mul_zpow]
      norm_num
    have hfive : (5 : ℚ) ^ (-d.exponent) * 5 ^ d.exponent = 1 := by
      rw [← zpow_add₀ (by norm_num), neg_add_cancel, zpow_zero]
    rw [Decimal.value, Nat.pow_eq, Nat.cast_mul, Nat.cast_pow, Nat.cast_ofNat,
      pow_toNat (by omega), hten, mul_assoc, ← mul_assoc (5 ^ (-d.exponent)), hfive, one_mul]
  · next hpos =>
    rw [Decimal.value, Nat.pow_eq, Nat.cast_mul, Nat.cast_pow, Nat.cast_ofNat,
      pow_toNat (by omega), zpow_zero, mul_one]

include hfinite in
/-- **The shortest numeral of a double reads back** as its absolute value. -/
theorem ofDecimal_shortest (tie : Tie) : ofDecimal (d.shortest tie) = d.abs := by
  rw [shortest]
  split
  · next hzero => exact (abs_eq_zero_iff.2 hzero).symm
  · cases hgrid : onCoarsestGrid tie d.abs 25 d.coarseGrid with
    | some found => exact ofDecimal_onCoarsestGrid hgrid
    | none => exact ofDecimal_eq_abs hfinite d.value_exactDecimal

include hfinite in
/-- Only the numeral of zero has no digit but zero. -/
theorem shortest_of_digits_eq_zero (tie : Tie) (h : (d.shortest tie).digits = 0) :
    d.shortest tie = ⟨0, 0⟩ := by
  have hzero := ofDecimal_shortest hfinite tie
  rw [ofDecimal, if_pos h, eq_comm, abs_eq_zero_iff] at hzero
  rw [shortest, if_pos hzero]

end Double

end ParamSql
