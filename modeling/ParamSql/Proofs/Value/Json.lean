import ParamSql.Proofs.Double.Value
import ParamSql.Value.Json

/-!
# Which documents are converted exactly

Converting a document should either give a value that denotes what the document denotes, or refuse
the document as being of a type that there is no value of (`Json.Converts`). Scalars that are not
integers keep their payload, and arrays and objects are refused. An integer that fits into
sixty-four bits with a sign is kept; one that only fits without a sign is never refused but becomes
a double, which is what it should be if and only if its eleven last binary digits are zero
(`ofJson_converts_iff`).
-/

namespace ParamSql

/-! ### What conversion should do -/

/-- The value is a number, and is the integer. -/
def Value.Denotes : Value → Int → Prop
  | .int i, n => i.toInt = n
  | .double d, n => d.isFinite = true ∧ d.value = n
  | .null, _ | .bool _, _ | .text _, _ => False

/-- The conversion was refused because of the type of what was to be converted. -/
def IsUnsupported {α : Type} : Result α → Prop
  | .error (.unsupportedType _) => True
  | .error (.configuration _) | .error (.database _) | .error (.timeout _) | .error (.settings _)
  | .ok _ => False

namespace Json

/-- The document is converted as it should be: a scalar to the value of its kind with the same
payload, an integer to a number that is the same or not at all, and nothing else. -/
def Converts : Json → Result Value → Prop
  | null, result => result = .ok .null
  | bool b, result => result = .ok (.bool b)
  | integer n, result => (∃ v : Value, result = .ok v ∧ v.Denotes n) ∨ IsUnsupported result
  | double d, result => result = .ok (.double d)
  | string s, result => result = .ok (.text s)
  | array _, result | object _, result => IsUnsupported result

/-- The integer, if the document is one, has sixty-four bits, with a sign or without. -/
def IsSixtyFourBit : Json → Prop
  | integer n => (∃ i : Int64, n = i.toInt) ∨ ∃ u : UInt64, n = u.toNat
  | null | bool _ | double _ | string _ | array _ | object _ => True

/-- The document is an integer above the signed ones that has more digits than a double: it is no
multiple of `2048`. -/
def IsTooLong : Json → Prop
  | integer n => Int64.maxValue.toInt < n ∧ ¬ 2048 ∣ n
  | null | bool _ | double _ | string _ | array _ | object _ => False

end Json

namespace Value

/-! ### Integers -/

/-- A signed integer is kept. -/
theorem ofJson_of_le_maxValue {n : Int} (hlow : Int64.minValue.toInt ≤ n)
    (hhigh : n ≤ Int64.maxValue.toInt) :
    ∃ i : Int64, ofJson (.integer n) = .ok (.int i) ∧ i.toInt = n := by
  refine ⟨Int64.ofInt n, by rw [ofJson, toInt64?, if_pos ⟨hlow, hhigh⟩], ?_⟩
  have hmin : Int64.minValue.toInt = -2 ^ 63 := by decide
  have hmax : Int64.maxValue.toInt = 2 ^ 63 - 1 := by decide
  exact Int64.toInt_ofInt_of_le (by omega) (by omega)

/-- An integer above the signed ones becomes the nearest double. -/
theorem ofJson_of_maxValue_lt {n : Nat} (h : Int64.maxValue.toInt < n) :
    ofJson (.integer n) = .ok (.double (Double.ofNat n)) := by
  rw [ofJson, toInt64?, if_neg (by omega)]
  show Except.ok (double (Double.ofInt n)) = _
  rw [Double.ofInt, if_neg (by omega), Int.natAbs_natCast]

/-- The double that such an integer becomes is the integer itself exactly if it is a multiple of
`2048`. -/
theorem denotes_ofNat_iff {n : Nat} (hlow : Int64.maxValue.toInt < n) (hhigh : n < 2 ^ 64) :
    (double (Double.ofNat n)).Denotes n ↔ 2048 ∣ n := by
  have hlow' : 2 ^ 63 ≤ n := by
    have hmax : Int64.maxValue.toInt = 2 ^ 63 - 1 := by decide
    omega
  have hne : n ≠ 0 := by omega
  have hlog : n.log2 = 63 := (Nat.log2_eq_iff hne).2 ⟨hlow', hhigh⟩
  have hsmall : n.log2 < 1023 := by omega
  have hiff := Double.value_ofNat_eq_iff hsmall
  rw [hlog] at hiff
  rw [Denotes, Int.cast_natCast]
  exact (and_iff_right (Double.isFinite_ofNat hsmall)).trans hiff

/-! ### Documents -/

/-- **What is converted exactly**: every document whose integers have sixty-four bits, unless it is
an integer above the signed ones that is no multiple of `2048`. -/
theorem ofJson_converts_iff (json : Json) (h : json.IsSixtyFourBit) :
    json.Converts (ofJson json) ↔ ¬ json.IsTooLong := by
  cases json with
  | null | bool | double | string => exact iff_of_true rfl not_false
  | array | object => exact iff_of_true trivial not_false
  | integer n =>
    have hmin : Int64.minValue.toInt ≤ n := by
      rcases h with ⟨i, rfl⟩ | ⟨u, rfl⟩
      · exact i.minValue_le_toInt
      · exact le_trans (by decide) (Int.natCast_nonneg u.toNat)
    rcases le_or_gt n Int64.maxValue.toInt with hkept | hlarge
    · obtain ⟨i, hi, rfl⟩ := ofJson_of_le_maxValue hmin hkept
      exact iff_of_true (.inl ⟨int i, hi, rfl⟩) fun htoo ↦ absurd htoo.1 hkept.not_gt
    · obtain ⟨u, rfl⟩ : ∃ u : UInt64, n = u.toNat :=
        h.resolve_left fun ⟨i, hi⟩ ↦ absurd (hi ▸ i.toInt_le) hlarge.not_ge
      have hdenotes := denotes_ofNat_iff hlarge u.toNat_lt
      rw [Json.Converts, ofJson_of_maxValue_lt hlarge, Json.IsTooLong, and_iff_right hlarge,
        not_not, show (2048 : Int) = (2048 : Nat) from rfl, Int.natCast_dvd_natCast, ← hdenotes]
      constructor
      · rintro (⟨v, hv, hn⟩ | hrefused)
        · obtain rfl := Except.ok.inj hv
          exact hn
        · exact hrefused.elim
      · exact fun hn ↦ .inl ⟨_, rfl, hn⟩

/-- `2 ^ 63` is above the signed integers, and a double. -/
theorem ofJson_converts_two_pow :
    Json.IsSixtyFourBit (.integer 9223372036854775808) ∧
      ¬ Json.IsTooLong (.integer 9223372036854775808) ∧
      Json.Converts (.integer 9223372036854775808)
        (ofJson (.integer 9223372036854775808)) := by
  have hbits : Json.IsSixtyFourBit (.integer 9223372036854775808) :=
    .inr ⟨9223372036854775808, by decide⟩
  have hshort : ¬ Json.IsTooLong (.integer 9223372036854775808) :=
    fun h ↦ h.2 (by decide)
  exact ⟨hbits, hshort, (ofJson_converts_iff _ hbits).2 hshort⟩

/-- The integer behind it becomes the same double, which is another number. -/
theorem not_converts_two_pow_add_one :
    ofJson (.integer 9223372036854775809) = .ok (.double ⟨0x43e0000000000000⟩) ∧
      ofJson (.integer 9223372036854775808) = .ok (.double ⟨0x43e0000000000000⟩) ∧
      Json.IsSixtyFourBit (.integer 9223372036854775809) ∧
      ¬ Json.Converts (.integer 9223372036854775809)
        (ofJson (.integer 9223372036854775809)) := by
  have hlarge : Int64.maxValue.toInt < (9223372036854775809 : Nat) := by decide
  have hjson := ofJson_of_maxValue_lt hlarge
  refine ⟨by decide +kernel, by decide +kernel, .inr ⟨9223372036854775809, by decide⟩, ?_⟩
  rintro (⟨v, hv, hn⟩ | hrefused)
  · obtain rfl := Except.ok.inj (hv.symm.trans hjson)
    exact absurd ((denotes_ofNat_iff hlarge (by decide)).1 hn) (by decide)
  · exact hrefused.elim

end Value

end ParamSql
