import ParamSql.Json.Numeral
import ParamSql.Proofs.Double.Decimal
import ParamSql.Proofs.Text.Numeral

/-!
# Numerals of JSON read back

A numeral is put together from its parts (`Numeral.text`) and is taken apart into the same parts
(`ofList?_text`), because the digits between them are neither a sign nor a point nor the letter of a
power of ten.

The numeral of an integer is read as this integer (`toJson?_ofInteger`). A double is written in one
of three notations, all of which are digits that a point cuts in two (`isReal_of_cut`). Each of them
shows by a point or by a power of ten that it is no integer, and has the value of the shortest
decimal number, so that it is read as what this is read as: the double (`exists_toJson?_eq_double`).
-/

namespace ParamSql.Json.Numeral

open Text (beq_eq_false_of_isDigit isDigit_of_mem_toDigits head?_toDigits_ne_zero)

/-! ### Digits -/

theorem isDigits_iff {cs : List Char} :
    isDigits cs = true ↔ cs ≠ [] ∧ ∀ c ∈ cs, c.isDigit = true := by
  rw [isDigits, Bool.and_eq_true, Bool.not_eq_true', List.isEmpty_eq_false_iff, List.all_eq_true]

theorem isPart_of_isDigit {c : Char} (hc : c.isDigit = true) : isPart c = true := by
  rw [isPart, hc]
  rfl

theorem isDigits_toDigits (n : Nat) : isDigits (Nat.toDigits 10 n) = true :=
  isDigits_iff.2 ⟨Nat.toDigits_ne_nil, fun _ ↦ isDigit_of_mem_toDigits⟩

/-! ### Written numerals -/

/-- A power of ten after its letter, with its sign. -/
def powerText (power : Int) : List Char :=
  (if power < 0 then '-' else '+') :: Nat.toDigits 10 power.natAbs

/-- The digits and the point of a numeral. -/
def mantissa (n : Numeral) : List Char :=
  n.whole ++ n.fraction?.elim [] ('.' :: ·)

/-- A numeral without its sign. -/
def unsigned (n : Numeral) : List Char :=
  n.mantissa ++ n.power?.elim [] ('e' :: powerText ·)

/-- A numeral as it is written. -/
def text (n : Numeral) : List Char :=
  if n.negative then '-' :: n.unsigned else n.unsigned

/-- There are digits wherever there should be, and no needless zero in front. -/
structure IsProper (n : Numeral) : Prop where
  isDigits_whole : isDigits n.whole = true
  first : n.whole.length = 1 ∨ n.whole.head? ≠ some '0'
  isDigits_fraction : ∀ fraction, n.fraction? = some fraction → isDigits fraction = true

theorem powerOf?_powerText (power : Int) : powerOf? (powerText power) = some power := by
  rw [powerText]
  split
  · next hneg =>
    rw [powerOf?, if_pos (isDigits_toDigits _), digitsValue, Nat.ofDigitChars_ten_toDigits]
    exact congrArg some (by omega)
  · next hpos =>
    rw [powerOf?, if_pos (isDigits_toDigits _), digitsValue, Nat.ofDigitChars_ten_toDigits]
    exact congrArg some (by omega)

section Reading

variable {n : Numeral} (h : n.IsProper)
include h

theorem splitAt?_mantissa : Text.splitAt? (· == '.') n.mantissa = (n.whole, n.fraction?) := by
  have hwhole : ∀ c ∈ n.whole, (c == '.') = false := fun c hc ↦
    beq_eq_false_of_isDigit ((isDigits_iff.1 h.isDigits_whole).2 c hc) rfl
  rw [mantissa]
  cases n.fraction? with
  | none =>
    rw [Option.elim_none, List.append_nil, Text.splitAt?_of_forall hwhole]
  | some fraction =>
    rw [Option.elim_some, Text.splitAt?_append_cons hwhole rfl]

theorem isDigit_or_eq_of_mem_mantissa {c : Char} (hc : c ∈ n.mantissa) :
    c.isDigit = true ∨ c = '.' := by
  rw [mantissa, List.mem_append] at hc
  rcases hc with hwhole | hrest
  · exact .inl ((isDigits_iff.1 h.isDigits_whole).2 c hwhole)
  · cases hfraction : n.fraction? with
    | none =>
      rw [hfraction] at hrest
      cases hrest
    | some fraction =>
      rw [hfraction, Option.elim_some, List.mem_cons] at hrest
      exact hrest.symm.imp_left ((isDigits_iff.1 (h.isDigits_fraction fraction hfraction)).2 c)

theorem splitAt?_unsigned : Text.splitAt? (fun c ↦ c == 'e' || c == 'E') n.unsigned =
    (n.mantissa, n.power?.map powerText) := by
  have hmantissa : ∀ c ∈ n.mantissa, (c == 'e' || c == 'E') = false := fun c hc ↦ by
    rcases isDigit_or_eq_of_mem_mantissa h hc with hdigit | rfl
    · rw [beq_eq_false_of_isDigit hdigit rfl, beq_eq_false_of_isDigit hdigit rfl, Bool.or_false]
    · rfl
  rw [unsigned]
  cases n.power? with
  | none =>
    rw [Option.elim_none, List.append_nil, Text.splitAt?_of_forall hmantissa, Option.map_none]
  | some power =>
    rw [Option.elim_some, Text.splitAt?_append_cons hmantissa rfl, Option.map_some]

theorem unsigned_ne_minus (rest : List Char) : n.unsigned ≠ '-' :: rest := by
  obtain ⟨hne, hdigit⟩ := isDigits_iff.1 h.isDigits_whole
  obtain ⟨c, whole, hwhole⟩ := List.exists_cons_of_ne_nil hne
  rw [unsigned, mantissa, hwhole]
  intro heq
  have hminus := hdigit c (hwhole ▸ List.mem_cons_self)
  rw [(List.cons.inj heq).1] at hminus
  exact Bool.false_ne_true hminus

theorem ofUnsigned?_unsigned : ofUnsigned? n.negative n.unsigned = some n := by
  have hwhole :
      (isDigits n.whole && (n.whole.length == 1 || n.whole.head? != some '0')) = true := by
    rw [h.isDigits_whole, Bool.true_and, Bool.or_eq_true, beq_iff_eq, bne_iff_ne]
    exact h.first
  have hfraction := h.isDigits_fraction
  simp only [ofUnsigned?, splitAt?_unsigned h, splitAt?_mantissa h, hwhole]
  rcases n with ⟨negative, whole, _ | fraction, _ | power⟩ <;>
    simp_all [powerOf?_powerText]

/-- **A numeral is read as it was written.** -/
theorem ofList?_text : ofList? n.text = some n := by
  have hunsigned := ofUnsigned?_unsigned h
  rw [text]
  cases hsign : n.negative with
  | true =>
    rw [if_pos rfl, ofList?, ← hsign, hunsigned]
  | false =>
    rw [if_neg Bool.false_ne_true, ofList?.eq_2 _ (unsigned_ne_minus h), ← hsign, hunsigned]

end Reading

/-! ### Characters of a numeral -/

section Characters

variable {n : Numeral} (h : n.IsProper)
include h

theorem isPart_of_mem_text {c : Char} (hc : c ∈ n.text) : isPart c = true := by
  have hunsigned (hc : c ∈ n.unsigned) : isPart c = true := by
    rw [unsigned, List.mem_append] at hc
    rcases hc with hmantissa | hpower
    · rcases isDigit_or_eq_of_mem_mantissa h hmantissa with hdigit | rfl
      · exact isPart_of_isDigit hdigit
      · rfl
    · cases hpower? : n.power? with
      | none =>
        rw [hpower?] at hpower
        cases hpower
      | some power =>
        rw [hpower?, Option.elim_some, List.mem_cons, powerText, List.mem_cons] at hpower
        rcases hpower with rfl | hsign | hdigit
        · rfl
        · split at hsign <;> subst hsign <;> rfl
        · exact isPart_of_isDigit (isDigit_of_mem_toDigits hdigit)
  rw [text] at hc
  split at hc
  · rcases List.mem_cons.1 hc with rfl | hc
    · rfl
    · exact hunsigned hc
  · exact hunsigned hc

/-- A numeral begins with its sign or with a digit. -/
theorem exists_text_eq_cons :
    ∃ first rest, n.text = first :: rest ∧ (first.isDigit = true ∨ first = '-') := by
  rw [text]
  split
  · exact ⟨_, _, rfl, .inr rfl⟩
  · obtain ⟨hne, hdigit⟩ := isDigits_iff.1 h.isDigits_whole
    obtain ⟨first, rest, hwhole⟩ := List.exists_cons_of_ne_nil hne
    rw [unsigned, mantissa, hwhole]
    exact ⟨_, _, rfl, .inl (hdigit first (hwhole ▸ List.mem_cons_self))⟩

end Characters

/-! ### Integers -/

/-- The numeral of an integer. -/
def ofInteger (i : Int) : Numeral :=
  ⟨decide (i < 0), Nat.toDigits 10 i.natAbs, none, none⟩

theorem isProper_ofInteger (i : Int) : (ofInteger i).IsProper where
  isDigits_whole := isDigits_toDigits i.natAbs
  first := by
    rcases eq_or_ne i.natAbs 0 with hzero | hne
    · rw [ofInteger, hzero]
      exact .inl rfl
    · exact .inr (head?_toDigits_ne_zero hne)
  isDigits_fraction := fun _ h ↦ nomatch h

theorem unsigned_ofInteger (i : Int) : (ofInteger i).unsigned = Nat.toDigits 10 i.natAbs :=
  (List.append_nil _).trans (List.append_nil _)

theorem text_ofInteger (i : Int) : (ofInteger i).text = (Int.repr i).toList := by
  rw [text, unsigned_ofInteger]
  cases i with
  | ofNat n =>
    rw [Int.repr, Nat.repr_eq_ofList_toDigits, String.toList_ofList, ofInteger,
      if_neg (by simp)]
    rfl
  | negSucc n =>
    rw [Int.repr, Nat.repr_eq_ofList_toDigits, String.toList_append, String.toList_ofList,
      String.toList_ofList, ofInteger, if_pos (decide_eq_true (Int.negSucc_lt_zero n))]
    rfl

/-- An integer of sixty-four bits with a sign is kept. -/
theorem toJson?_ofInteger (i : Int64) : (ofInteger i.toInt).toJson? = some (.integer i.toInt) := by
  have hlow := i.minValue_le_toInt
  have hhigh := i.toInt_le
  have hmax : Int64.maxValue.toInt = 2 ^ 63 - 1 := by decide
  have hdigits : digitsValue (Nat.toDigits 10 i.toInt.natAbs ++ []) = i.toInt.natAbs := by
    rw [List.append_nil, digitsValue, Nat.ofDigitChars_ten_toDigits]
  simp only [toJson?, ofInteger, Option.getD_none, hdigits, Option.isNone_none, Bool.true_and,
    Bool.and_eq_true, Bool.not_eq_true', decide_eq_true_eq, decide_eq_false_iff_not]
  rcases lt_or_ge i.toInt 0 with hneg | hpos
  · rw [if_neg (fun h ↦ h.1 hneg), if_pos ⟨⟨hneg, by omega⟩, by omega⟩]
    exact congrArg (some ∘ Json.integer) (by omega)
  · have hfits : i.toInt.natAbs < UInt64.size := by
      unfold UInt64.size
      omega
    rw [if_pos ⟨by omega, hfits⟩]
    exact congrArg (some ∘ Json.integer) (by omega)

/-! ### Doubles -/

/-- The decimal number that is rounded when a numeral becomes a double. -/
def decimal (n : Numeral) : Decimal :=
  ⟨digitsValue (n.whole ++ n.fraction?.getD []),
    n.power?.getD 0 - (n.fraction?.getD []).length⟩

/-- A numeral that is read as a double, and as which one: there is a point or a power of ten, and
the value is that of a decimal number. -/
structure IsReal (n : Numeral) (x : Decimal) : Prop extends n.IsProper where
  marked : n.fraction? ≠ none ∨ n.power? ≠ none
  value : n.decimal.value = x.value

theorem toJson?_of_isReal {n : Numeral} {x : Decimal} (h : n.IsReal x) {d : Double}
    (hfinite : d.isFinite = true) (hx : Double.ofDecimal x = d.abs)
    (hsign : n.negative = d.negative) : n.toJson? = some (.double d) := by
  have hread : Double.ofDecimal n.decimal = d.abs := (Double.ofDecimal_congr h.value).trans hx
  have hmarked : (n.fraction?.isNone && n.power?.isNone) = false := by
    rw [Bool.and_eq_false_iff, Option.isNone_eq_false_iff, Option.isNone_eq_false_iff,
      Option.isSome_iff_ne_none, Option.isSome_iff_ne_none]
    exact h.marked
  have hfinite' : d.abs.isFinite = true := by
    rw [Double.isFinite, Double.magnitude_abs]
    exact hfinite
  rw [decimal] at hread
  simp only [toJson?, hmarked, Bool.false_and, Bool.false_eq_true, if_false, hread, hfinite',
    if_true, hsign, Double.sign_abs]

section Cut

variable {negative : Bool} {digits : List Char} {k : Nat} {fraction? : Option (List Char)}
  {power? : Option Int} {x : Decimal}

/-- A point that cuts digits in two makes a double of them, if there is a digit in front of it, no
needless zero, and a digit behind it if it is written. -/
theorem isReal_of_cut (hdigits : ∀ c ∈ digits, c.isDigit = true) (hpos : 0 < k)
    (hlength : k ≤ digits.length) (hfirst : k = 1 ∨ digits.head? ≠ some '0')
    (hfraction : fraction?.getD [] = digits.drop k) (hne : fraction? ≠ some [])
    (hmarked : fraction? ≠ none ∨ power? ≠ none)
    (hvalue : (⟨digitsValue digits, power?.getD 0 - (digits.length - k : Nat)⟩ : Decimal).value =
      x.value) :
    IsReal ⟨negative, digits.take k, fraction?, power?⟩ x where
  isDigits_whole := by
    refine isDigits_iff.2 ⟨fun hnil ↦ ?_, fun c hc ↦ hdigits c (List.mem_of_mem_take hc)⟩
    have hzero := congrArg List.length hnil
    rw [List.length_take, List.length_nil] at hzero
    omega
  first := by
    rw [List.length_take, Nat.min_eq_left hlength, List.head?_take, if_neg hpos.ne']
    exact hfirst
  isDigits_fraction := by
    rintro fraction rfl
    refine isDigits_iff.2 ⟨fun hnil ↦ hne (congrArg some hnil), fun c hc ↦ hdigits c ?_⟩
    rw [Option.getD_some] at hfraction
    exact List.mem_of_mem_drop (hfraction ▸ hc)
  marked := hmarked
  value := by
    rw [decimal, hfraction, List.take_append_drop, List.length_drop]
    exact hvalue

end Cut

/-- The digits of a whole number, with the zeros at its end. -/
def wholeDigits (x : Decimal) : List Char :=
  Nat.toDigits 10 x.digits ++ List.replicate x.exponent.toNat '0'

theorem length_wholeDigits_pos (x : Decimal) : 0 < (wholeDigits x).length := by
  rw [wholeDigits, List.length_append]
  exact Nat.add_pos_left Nat.length_toDigits_pos _

theorem isDigit_of_mem_wholeDigits {x : Decimal} {c : Char} (hc : c ∈ wholeDigits x) :
    c.isDigit = true := by
  rcases List.mem_append.1 hc with hdigit | hzeros
  · exact isDigit_of_mem_toDigits hdigit
  · rw [(List.mem_replicate.1 hzeros).2]
    rfl

theorem head?_wholeDigits_append_ne_zero {x : Decimal} (h : x.digits ≠ 0) (cs : List Char) :
    (wholeDigits x ++ cs).head? ≠ some '0' := by
  rw [wholeDigits, List.append_assoc, List.head?_append,
    Option.or_of_isSome (List.isSome_head?.2 Nat.toDigits_ne_nil)]
  exact head?_toDigits_ne_zero h

theorem digitsValue_wholeDigits_append_zero (x : Decimal) :
    digitsValue (wholeDigits x ++ ['0']) = x.digits * 10 ^ x.exponent.toNat * 10 := by
  rw [wholeDigits, digitsValue, Nat.ofDigitChars_append, Nat.ofDigitChars_append,
    Nat.ofDigitChars_ten_toDigits, Nat.ofDigitChars_replicate_zero, Nat.mul_comm (10 ^ _),
    Nat.mul_comm _ 10]
  rfl

section Notations

variable (negative : Bool) (x : Decimal)

/-- A whole number with a point and a zero behind it. -/
def ofWhole : Numeral :=
  ⟨negative, wholeDigits x, some ['0'], none⟩

theorem unsigned_ofWhole (hexponent : 0 ≤ x.exponent) :
    (ofWhole negative x).unsigned = (x.positional ++ ".0").toList := by
  rw [Decimal.positional, if_pos hexponent, String.toList_append, String.toList_ofList]
  exact List.append_nil _

theorem isReal_ofWhole (hexponent : 0 ≤ x.exponent) (hzero : x.digits = 0 → x = ⟨0, 0⟩) :
    (ofWhole negative x).IsReal x := by
  have hcut : ofWhole negative x =
      ⟨negative, (wholeDigits x ++ ['0']).take (wholeDigits x).length, some ['0'], none⟩ := by
    rw [List.take_left, ofWhole]
  rw [hcut]
  refine isReal_of_cut (List.forall_mem_append.2 ⟨fun _ ↦ isDigit_of_mem_wholeDigits,
    List.forall_mem_singleton.2 rfl⟩) (length_wholeDigits_pos x) ?_ ?_ List.drop_left.symm nofun
    (.inl (Option.some_ne_none _)) ?_
  · rw [List.length_append]
    exact Nat.le_add_right _ _
  · rcases eq_or_ne x.digits 0 with hzero' | hne
    · rw [hzero hzero']
      exact .inl rfl
    · exact .inr (head?_wholeDigits_append_ne_zero hne _)
  · have hone : (0 - ((wholeDigits x ++ ['0']).length - (wholeDigits x).length : Nat) : Int) =
        -1 := by
      rw [List.length_append, Nat.add_sub_cancel_left]
      rfl
    rw [Option.getD_none, hone, Decimal.value, Decimal.value, digitsValue_wholeDigits_append_zero,
      Nat.cast_mul, Nat.cast_mul, Nat.cast_pow, Nat.cast_ofNat, pow_toNat hexponent, zpow_neg_one,
      mul_inv_cancel_right₀ (by norm_num)]

/-- A number with a point among its digits. -/
def ofPoint : Numeral :=
  let digits := (Text.padded ((-x.exponent).toNat + 1) x.digits).toList
  let whole := digits.length - (-x.exponent).toNat
  ⟨negative, digits.take whole, some (digits.drop whole), none⟩

theorem unsigned_ofPoint (hexponent : x.exponent < 0) :
    (ofPoint negative x).unsigned = x.positional.toList := by
  rw [Decimal.positional, if_neg (by omega), String.toList_ofList, ofPoint, Text.toList_padded]
  exact List.append_nil _

theorem isReal_ofPoint (hexponent : x.exponent < 0) (hdigits : x.digits ≠ 0) :
    (ofPoint negative x).IsReal x := by
  have hpadded := Text.toList_padded ((-x.exponent).toNat + 1) x.digits
  have hvalue := Text.ofDigitChars_padded ((-x.exponent).toNat + 1) x.digits
  have hlength : (Text.padded ((-x.exponent).toNat + 1) x.digits).toList.length =
      max ((-x.exponent).toNat + 1) (Nat.toDigits 10 x.digits).length := by
    rw [hpadded, List.length_append, List.length_replicate]
    omega
  refine isReal_of_cut (fun _ ↦ Text.isDigit_of_mem_padded) (by omega) (by omega) ?_ rfl ?_
    (.inl (Option.some_ne_none _)) ?_
  · rcases Nat.lt_or_ge (-x.exponent).toNat (Nat.toDigits 10 x.digits).length with hlong | hshort
    · -- no zero is put in front
      rw [hpadded, Nat.sub_eq_zero_of_le hlong]
      exact .inr (head?_toDigits_ne_zero hdigits)
    · left
      omega
  · intro hnil
    have hzero := congrArg List.length (Option.some.inj hnil)
    rw [List.length_drop, List.length_nil] at hzero
    omega
  · rw [digitsValue, hvalue, Option.getD_none]
    exact congrArg (fun exponent ↦ Decimal.value ⟨x.digits, exponent⟩) (by omega)

/-- A number with one digit before the point and a power of ten. -/
def ofScientific : Numeral :=
  let digits := Nat.toDigits 10 x.digits
  let fraction? := match digits.drop 1 with
    | [] => none
    | rest => some rest
  ⟨negative, digits.take 1, fraction?, some (x.exponent + digits.length - 1)⟩

theorem unsigned_ofScientific :
    (ofScientific negative x).unsigned = x.scientific.toList := by
  rw [Decimal.scientific, String.toList_ofList, unsigned, mantissa, ofScientific]
  cases (Nat.toDigits 10 x.digits).drop 1 with
  | nil => rfl
  | cons c rest => rfl

theorem isReal_ofScientific : (ofScientific negative x).IsReal x := by
  have hlength := Nat.length_toDigits_pos (b := 10) (n := x.digits)
  refine isReal_of_cut (fun _ ↦ isDigit_of_mem_toDigits) Nat.one_pos hlength (.inl rfl) ?_ ?_
    (.inr (Option.some_ne_none _)) ?_
  · cases (Nat.toDigits 10 x.digits).drop 1 with
    | nil => rfl
    | cons c rest => rfl
  · cases (Nat.toDigits 10 x.digits).drop 1 with
    | nil => exact nofun
    | cons c rest => exact nofun
  · rw [digitsValue, Nat.ofDigitChars_ten_toDigits, Option.getD_some]
    exact congrArg (fun exponent ↦ Decimal.value ⟨x.digits, exponent⟩) (by omega)

variable {x} in
/-- Whichever notation is taken, a numeral is written that has the value. -/
theorem exists_isReal (hzero : x.digits = 0 → x = ⟨0, 0⟩) (power : Int) :
    ∃ n : Numeral, n.negative = negative ∧ n.IsReal x ∧
      n.unsigned = (if -5 ≤ power ∧ power ≤ 15 then
        x.positional ++ (if 0 ≤ x.exponent then ".0" else "") else x.scientific).toList := by
  split
  · rcases lt_or_ge x.exponent 0 with hneg | hpos
    · have hdigits : x.digits ≠ 0 := fun h ↦ by
        rw [hzero h] at hneg
        exact lt_irrefl 0 hneg
      rw [if_neg hneg.not_ge, String.append_empty]
      exact ⟨_, rfl, isReal_ofPoint negative x hneg hdigits, unsigned_ofPoint negative x hneg⟩
    · rw [if_pos hpos]
      exact ⟨_, rfl, isReal_ofWhole negative x hpos hzero, unsigned_ofWhole negative x hpos⟩
  · exact ⟨_, rfl, isReal_ofScientific negative x, unsigned_ofScientific negative x⟩

end Notations

/-- **A finite double is written as a numeral that is read as this double.** -/
theorem exists_toJson?_eq_double {d : Double} (hfinite : d.isFinite = true) :
    ∃ n : Numeral, d.json? = some (String.ofList n.text) ∧ n.IsProper ∧
      (n.fraction? ≠ none ∨ n.power? ≠ none) ∧ n.toJson? = some (.double d) := by
  obtain ⟨n, hsign, hreal, hbody⟩ := exists_isReal d.negative
    (Double.shortest_of_digits_eq_zero hfinite .even)
    ((d.shortest .even).exponent + decimalLength (d.shortest .even).digits - 1)
  refine ⟨n, ?_, hreal.toIsProper, hreal.marked,
    toJson?_of_isReal hreal hfinite (Double.ofDecimal_shortest hfinite .even) hsign⟩
  rw [Double.json?, if_pos hfinite, text, hsign, hbody]
  refine congrArg some (String.toList_inj.1 ?_)
  rw [String.toList_ofList, String.toList_append]
  cases d.negative with
  | false => rfl
  | true => rfl

end ParamSql.Json.Numeral
