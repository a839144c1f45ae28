import ParamSql.Proofs.Calendar.Instant
import ParamSql.Proofs.Text.Numeral
import ParamSql.Value.Conversion
import Mathlib.Data.List.Basic

/-!
# Times and their texts

A time is written from its greatest unit down to its least one, and that makes its text both
unambiguous and sortable. Behind the year all fields have two digits, and the fraction of a second
loses zeros at its end only; so in one year the order of texts is the order of instants
(`afterYear_lt_iff`). The year itself is the one field without a fixed width. It can be told from
what follows all the same, because its sign is no digit and its digits end at a hyphen
(`yearText_append_inj`). Hence a text determines its time, in whatever year (`text_inj`), and where
all years have four digits the order of texts is that of instants throughout (`text_lt_iff`).

The value of a time with an offset is the text of that time in UTC, so it denotes the instant
(`toValue_denotes_instant`). Leap seconds are left out: one is written as the second that follows
it.

All of this is said for whatever library writes the fields and takes offsets off, as long as it does
so as it should (`Library.Lawful`). The library that is used unless another one is given does
(`lawful_standard`).
-/

namespace ParamSql

open Text (padded)

namespace Calendar

/-! ### Years -/

/-- What stands in front of the digits of a year. -/
def yearSign (year : Int) : List Char :=
  if 0 ≤ year ∧ year ≤ 9999 then [] else if year < 0 then ['-'] else ['+']

theorem yearSign_eq_minus_iff {year : Int} : yearSign year = ['-'] ↔ year < 0 := by
  unfold yearSign
  split
  · rename_i hplain
    exact iff_of_false (by decide) (by omega)
  · split
    · rename_i hnegative
      exact iff_of_true rfl hnegative
    · rename_i hlarge
      exact iff_of_false (by decide) hlarge

theorem toList_yearText (year : Int) :
    (yearText year).toList = yearSign year ++ (padded 4 year.natAbs).toList := by
  unfold yearText yearSign
  split
  · rename_i hplain
    have habs : year.natAbs = year.toNat := by omega
    rw [List.nil_append, habs]
  · split <;> exact String.toList_append

/-- A year can be told from what follows it behind a hyphen. -/
theorem yearText_append_inj {year other : Int} {cs ds : List Char}
    (h : (yearText year).toList ++ '-' :: cs = (yearText other).toList ++ '-' :: ds) :
    year = other ∧ cs = ds := by
  have hsign (y : Int) : ∀ c ∈ yearSign y, (!c.isDigit) = true := by
    unfold yearSign
    split
    · exact List.forall_mem_nil _
    · split <;> exact List.forall_mem_singleton.2 rfl
  have hnumeral (y : Int) (xs : List Char) :
      ∀ c ∈ ((padded 4 y.natAbs).toList ++ xs).head?, (!c.isDigit) = false := by
    intro c hc
    rw [List.head?_append_of_ne_nil _ (Text.toList_padded_ne_nil 4 _)] at hc
    rw [Text.isDigit_of_mem_padded (List.mem_of_mem_head? hc)]
    rfl
  rw [toList_yearText, toList_yearText, List.append_assoc, List.append_assoc] at h
  obtain ⟨hsigns, hrest⟩ :=
    Text.append_inj_of_run (hsign year) (hnumeral year _) (hsign other) (hnumeral other _) h
  -- digits end at the hyphen
  have hhyphen (xs : List Char) : ∀ c ∈ ('-' :: xs).head?, c.isDigit = false := by
    intro c hc
    obtain rfl := Option.some.inj hc
    rfl
  obtain ⟨hyears, hbehind⟩ := Text.append_inj_of_run (fun _ ↦ Text.isDigit_of_mem_padded)
    (hhyphen cs) (fun _ ↦ Text.isDigit_of_mem_padded) (hhyphen ds) hrest
  refine ⟨?_, (List.cons.inj hbehind).2⟩
  have habs := Text.toList_padded_inj.1 hyears
  have hnegative : year < 0 ↔ other < 0 := by
    rw [← yearSign_eq_minus_iff, hsigns, yearSign_eq_minus_iff]
  omega

/-! ### Fractions of a second -/

/-- Numbers are written in their order if all but zero are, and zero is written as nothing. -/
theorem ite_nil_lt_iff {m n : Nat} {cs ds : List Char} (hds : ds ≠ [])
    (h : cs < ds ↔ m < n) :
    (if m = 0 then [] else cs) < (if n = 0 then [] else ds) ↔ m < n := by
  split
  · split
    · simp only [List.lt_irrefl, false_iff]
      omega
    · obtain ⟨d, ds, rfl⟩ := List.exists_cons_of_ne_nil hds
      simp only [List.nil_lt_cons, true_iff]
      omega
  · split
    · simp only [List.not_lt_nil, false_iff]
      omega
    · exact h

/-- Decimals in groups of three, at most so many, without the last ones if they are zero. -/
def decimals : (groups : Nat) → (n : Nat) → List Char
  | 0, _ => []
  | groups + 1, n =>
    if n = 0 then []
    else (padded 3 (n / 1000 ^ groups)).toList ++ decimals groups (n % 1000 ^ groups)

/-- Decimals come in the order of what they denote, although they differ in length. -/
theorem decimals_lt_iff {groups m n : Nat} (hm : m < 1000 ^ groups) (hn : n < 1000 ^ groups) :
    decimals groups m < decimals groups n ↔ m < n := by
  induction groups generalizing m n with
  | zero =>
    rw [Nat.pow_zero] at hm hn
    simp only [decimals, List.lt_irrefl, false_iff]
    omega
  | succ groups ih =>
    have hpos : 0 < 1000 ^ groups := Nat.pow_pos (by decide)
    have hgroup {k : Nat} (hk : k < 1000 ^ (groups + 1)) : k / 1000 ^ groups < 10 ^ 3 :=
      Nat.div_lt_of_lt_mul hk
    refine ite_nil_lt_iff
      (List.append_ne_nil_of_left_ne_nil (Text.toList_padded_ne_nil 3 _) _) ?_
    rw [Text.padded_append_lt_iff (by decide) (hgroup hm) (hgroup hn),
      ih (Nat.mod_lt m hpos) (Nat.mod_lt n hpos),
      ← Text.mul_add_lt_mul_add_iff (Nat.mod_lt m hpos) (Nat.mod_lt n hpos),
      Nat.div_add_mod, Nat.div_add_mod]

/-- The fraction of a second is a point and three groups of decimals. -/
theorem toList_fractionText {n : Nat} (hn : n < 1000000000) :
    (fractionText n).toList = if n = 0 then [] else '.' :: decimals 3 n := by
  have hsix {k : Nat} (hk : k < 1000000) : (padded 6 k).toList =
      (padded 3 (k / 1000)).toList ++ (padded 3 (k % 1000)).toList :=
    Text.toList_padded_add 3 3 (by decide) (by decide) hk
  have hnine : (padded 9 n).toList =
      (padded 3 (n / 1000000)).toList ++ (padded 6 (n % 1000000)).toList :=
    Text.toList_padded_add 3 6 (by decide) (by decide) hn
  have hpoint (text : String) : ("." ++ text).toList = '.' :: text.toList := String.toList_append
  have hlow : n % 1000000 % 1000 = n % 1000 := Nat.mod_mod_of_dvd n (by decide)
  have hhigh : n / 1000 / 1000 = n / 1000000 := Nat.div_div_eq_div_mul n 1000 1000
  have hmiddle : n / 1000 % 1000 = n % 1000000 / 1000 := by omega
  unfold fractionText
  simp only [decimals, Nat.reducePow, Nat.div_one, hlow]
  by_cases hzero : n = 0
  · rw [if_pos hzero, if_pos hzero]
    rfl
  rw [if_neg hzero, if_neg hzero, if_neg hzero]
  by_cases hmillis : n % 1000000 = 0
  · rw [if_pos hmillis, if_pos hmillis, hpoint, List.append_nil]
  rw [if_neg hmillis, if_neg hmillis]
  by_cases hmicros : n % 1000 = 0
  · rw [if_pos hmicros, if_pos hmicros, hpoint, hsix (by omega), hhigh, hmiddle, List.append_nil]
  · rw [if_neg hmicros, if_neg hmicros, hpoint, hnine, hsix (by omega), hlow, List.append_nil]

/-- **Fractions of a second come in their order.** -/
theorem fractionText_lt_iff {m n : Nat} (hm : m < 1000000000) (hn : n < 1000000000) :
    (fractionText m).toList < (fractionText n).toList ↔ m < n := by
  rw [toList_fractionText hm, toList_fractionText hn]
  refine ite_nil_lt_iff (List.cons_ne_nil _ _) ?_
  rw [List.cons_lt_cons_self, decimals_lt_iff hm hn]

/-! ### Libraries -/

/-- What is expected of a library for dates and times. -/
structure Library.Lawful (library : Library) : Prop where
  /-- A year is written in at least four digits, with a sign if it does not fit in four. -/
  year : ∀ year, library.year year = yearText year
  /-- Months, days, hours, minutes and seconds are written in two digits. -/
  twoDigits : ∀ n < 100, library.twoDigits n = padded 2 n
  /-- Decimals of a second are written in groups of three, as many as are needed. -/
  fraction : ∀ nanos < 1000000000, library.fraction nanos = fractionText nanos
  /-- Taking the offset off leaves the instant alone. -/
  instant_toUtc : ∀ t, (library.toUtc t).instant = t.instant
  /-- And it leaves alone what has passed of the second. -/
  nanos_toUtc : ∀ t, (library.toUtc t).nanos = t.wall.nanos

/-- **The library that is used unless another one is given** does what is expected. -/
theorem Library.lawful_standard : standard.Lawful where
  year _ := rfl
  twoDigits _ _ := rfl
  fraction _ _ := rfl
  instant_toUtc := OffsetDateTime.instant_toUtc
  nanos_toUtc := OffsetDateTime.nanos_toUtc

end Calendar

open Calendar (Library)

namespace DateTime

open Calendar (yearText fractionText)

/-! ### Times -/

/-- What is written of a time behind its year. -/
def afterYear (t : DateTime) : List Char :=
  (padded 2 t.date.month).toList ++ '-' :: ((padded 2 t.date.day).toList ++ ' ' ::
    ((padded 2 (t.second / 3600)).toList ++ ':' :: ((padded 2 (t.second / 60 % 60)).toList ++ ':' ::
      ((padded 2 (t.second % 60)).toList ++ (fractionText t.nanos).toList))))

section

variable {library : Library} (h : library.Lawful) {t : DateTime} (ht : t.nanos < 1000000000)
include h ht

/-- The format is a year, a hyphen and the rest. -/
theorem toList_text :
    (t.text library).toList = (yearText t.date.year).toList ++ '-' :: t.afterYear := by
  have hmonth := t.date.month_le
  have hday := t.date.day_le_31
  have hsecond := t.second_lt
  rw [text, Library.format, String.toList_join, List.flatMap_map, afterYear]
  simp only [Calendar.dateTimeFormat, Calendar.Directive.text, List.flatMap_cons,
    List.flatMap_nil, List.append_nil, String.toList_singleton, List.singleton_append, h.year,
    Nat.div_eq_of_lt ht, Nat.mod_eq_of_lt ht, Nat.add_zero]
  rw [h.twoDigits _ (by omega), h.twoDigits _ (by omega), h.twoDigits _ (by omega),
    h.twoDigits _ (by omega), h.twoDigits _ (by omega), h.fraction _ ht]

end

variable {t u : DateTime} (ht : t.nanos < 1000000000) (hu : u.nanos < 1000000000)
include ht hu

/-- Within a year, what is written behind the year comes in the order of instants. -/
theorem afterYear_lt_iff (hyear : t.date.year = u.date.year) :
    t.afterYear < u.afterYear ↔ t.instant < u.instant := by
  have htwo {a b : Nat} (ha : a < 100) (hb : b < 100) {xs ys : List Char} :
      (padded 2 a).toList ++ xs < (padded 2 b).toList ++ ys ↔ a < b ∨ a = b ∧ xs < ys :=
    Text.padded_append_lt_iff (by decide) ha hb
  -- every field has two digits
  have hmonth := t.date.month_le
  have hmonth' := u.date.month_le
  have hday := t.date.day_le_31
  have hday' := u.date.day_le_31
  have hsecond := t.second_lt
  have hsecond' := u.second_lt
  rw [instant_lt_iff ht hu, Date.eq_iff, Date.IsBefore, afterYear, afterYear]
  simp (disch := omega) only [htwo, List.cons_lt_cons_self, Calendar.fractionText_lt_iff ht hu]
  omega

/-- The year is written in four digits, without a sign. -/
def HasPlainYear (t : DateTime) : Prop :=
  0 ≤ t.date.year ∧ t.date.year ≤ 9999

variable {library : Library} (h : library.Lawful)
include h

/-- **Times are the same if their texts are**, in whatever years. -/
theorem text_inj : t.text library = u.text library ↔ t = u := by
  refine ⟨fun htext ↦ ?_, fun hsame ↦ hsame ▸ rfl⟩
  rw [← String.toList_inj, toList_text h ht, toList_text h hu] at htext
  obtain ⟨hyear, hrest⟩ := Calendar.yearText_append_inj htext
  have hlt := afterYear_lt_iff ht hu hyear
  have hgt := afterYear_lt_iff hu ht hyear.symm
  rw [hrest, iff_false_left (List.lt_irrefl _)] at hlt hgt
  rw [← instant_inj ht hu]
  omega

/-- **Times of such years come in the order of their texts.** -/
theorem text_lt_iff (hyear : t.HasPlainYear) (hyear' : u.HasPlainYear) :
    t.text library < u.text library ↔ t.instant < u.instant := by
  obtain ⟨hfirst, hlast⟩ := hyear
  obtain ⟨hfirst', hlast'⟩ := hyear'
  rw [String.lt_iff, toList_text h ht, toList_text h hu, yearText, yearText,
    if_pos ⟨hfirst, hlast⟩, if_pos ⟨hfirst', hlast'⟩,
    Text.padded_append_lt_iff (by decide) (by omega) (by omega), List.cons_lt_cons_self]
  rcases Int.lt_trichotomy t.date.year u.date.year with hlt | heq | hgt
  · exact iff_of_true (.inl (by omega)) ((instant_lt_iff ht hu).2 (.inl (.inl hlt)))
  · rw [afterYear_lt_iff ht hu heq]
    omega
  · have hbehind := (instant_lt_iff hu ht).2 (.inl (.inl hgt))
    omega

end DateTime

/-! ### Values -/

/-- The value of a time with an offset denotes its instant, whatever library has written it. -/
theorem Value.ofOffsetDateTime_denotes_instant {library : Library} (h : library.Lawful)
    {t u : OffsetDateTime} (ht : t.wall.nanos < 1000000000) (hu : u.wall.nanos < 1000000000) :
    (ofOffsetDateTime library t = ofOffsetDateTime library u ↔ t.instant = u.instant) ∧
      ∃ s r, ofOffsetDateTime library t = .text s ∧ ofOffsetDateTime library u = .text r ∧
        ((library.toUtc t).HasPlainYear → (library.toUtc u).HasPlainYear →
          (s < r ↔ t.instant < u.instant)) := by
  rw [← h.nanos_toUtc] at ht hu
  rw [← h.instant_toUtc, ← h.instant_toUtc]
  refine ⟨?_, _, _, rfl, rfl, fun hyear hyear' ↦ DateTime.text_lt_iff ht hu h hyear hyear'⟩
  rw [DateTime.instant_inj ht hu, ← DateTime.text_inj ht hu h]
  exact ⟨Value.text.inj, congrArg Value.text⟩

namespace OffsetDateTime

/-- **Values of times denote instants.** Two times with offsets, neither of them inside a leap
second, become the same value exactly if they are the same instant; and where the years in UTC have
four digits, the earlier instant has the lesser text. -/
theorem toValue_denotes_instant (t u : OffsetDateTime) (ht : t.wall.nanos < 1000000000)
    (hu : u.wall.nanos < 1000000000) :
    (toValue t = toValue u ↔ t.instant = u.instant) ∧
      ∃ s r, toValue t = .text s ∧ toValue u = .text r ∧
        (t.toUtc.HasPlainYear → u.toUtc.HasPlainYear → (s < r ↔ t.instant < u.instant)) :=
  Value.ofOffsetDateTime_denotes_instant Library.lawful_standard ht hu

/-- Around the end of a leap day: an hour behind UTC and an hour and a half ahead of it, two clocks
show the same instant on different days, and the last second of the leap day in UTC is earlier. -/
theorem toValue_denotes_instant_leap_day :
    let behind : OffsetDateTime := ⟨⟨⟨2024, 2, 29, by decide, by decide⟩, 86399, 500000000,
      by decide, by decide⟩, ⟨-3600, by decide, by decide⟩⟩
    let ahead : OffsetDateTime := ⟨⟨⟨2024, 3, 1, by decide, by decide⟩, 8999, 500000000,
      by decide, by decide⟩, ⟨5400, by decide, by decide⟩⟩
    let earlier : OffsetDateTime := ⟨⟨⟨2024, 2, 29, by decide, by decide⟩, 86399, 500250000,
      by decide, by decide⟩, .utc⟩
    (behind.wall.nanos < 1000000000 ∧ ahead.wall.nanos < 1000000000 ∧
        earlier.wall.nanos < 1000000000) ∧
      toValue behind = toValue ahead ∧
      ∃ s r, toValue earlier = .text s ∧ toValue ahead = .text r ∧ s < r := by
  intro behind ahead earlier
  have hbehind : behind.wall.nanos < 1000000000 := by decide
  have hahead : ahead.wall.nanos < 1000000000 := by decide
  have hearlier : earlier.wall.nanos < 1000000000 := by decide
  obtain ⟨s, r, hs, hr, hlt⟩ := (toValue_denotes_instant earlier ahead hearlier hahead).2
  refine ⟨⟨hbehind, hahead, hearlier⟩,
    (toValue_denotes_instant behind ahead hbehind hahead).1.2 (by decide), s, r, hs, hr, ?_⟩
  exact (hlt ⟨by decide, by decide⟩ ⟨by decide, by decide⟩).2 (by decide)

end OffsetDateTime

end ParamSql
