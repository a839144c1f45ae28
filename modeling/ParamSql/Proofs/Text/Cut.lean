import ParamSql.Text.Cut
import Mathlib.Algebra.GroupWithZero.Nat
import Mathlib.Tactic.Common

/-!
# The longest front of a text

Of all beginnings of a text that consist of whole characters and take at most so many bytes there is
one that every other one is the beginning of (`IsLongestFront`), and it is what a text is truncated
to. That describes it completely (`IsLongestFront.unique`), so two further facts do not look at how
a text is truncated any more. The place of the cut is found as well by going back from the greatest
place allowed to the next one that does not split a character (`boundaryFrom_eq`); and truncating
twice is truncating once, to the smaller maximum (`IsLongestFront.trans`).

The places that do not split a character are those at which the bytes of a text can be cut in two
such that both parts are texts again.
-/

namespace ParamSql.Text

/-! ### Leading characters -/

/-- The bytes of a text are those of its characters. -/
theorem utf8ByteSize_ofList (cs : List Char) :
    (String.ofList cs).utf8ByteSize = (cs.map Char.utf8Size).sum := by
  induction cs with
  | nil => rfl
  | cons c cs ih =>
    rw [String.ofList_cons, String.utf8ByteSize_append, String.utf8ByteSize_singleton, ih,
      List.map_cons, List.sum_cons]

theorem takeBytes_prefix (budget : Nat) (cs : List Char) : takeBytes budget cs <+: cs := by
  induction cs generalizing budget with
  | nil => exact List.prefix_rfl
  | cons c cs ih =>
    rw [takeBytes]
    split
    · exact List.prefix_cons_inj c |>.2 (ih _)
    · exact List.nil_prefix

theorem sum_takeBytes_le (budget : Nat) (cs : List Char) :
    ((takeBytes budget cs).map Char.utf8Size).sum ≤ budget := by
  induction cs generalizing budget with
  | nil => exact Nat.zero_le budget
  | cons c cs ih =>
    rw [takeBytes]
    split
    · have hrest := ih (budget - c.utf8Size)
      rw [List.map_cons, List.sum_cons]
      omega
    · exact Nat.zero_le budget

/-- Leading characters that do not take too many bytes are among those that are taken. -/
theorem prefix_takeBytes {budget : Nat} {front cs : List Char} (hfront : front <+: cs)
    (hfits : (front.map Char.utf8Size).sum ≤ budget) : front <+: takeBytes budget cs := by
  induction front generalizing budget cs with
  | nil => exact List.nil_prefix
  | cons c front ih =>
    obtain ⟨rest, rfl⟩ := hfront
    rw [List.map_cons, List.sum_cons] at hfits
    rw [List.cons_append, takeBytes, if_pos (by omega)]
    exact List.prefix_cons_inj c |>.2 (ih (List.prefix_append front rest) (by omega))

/-! ### The longest front -/

/-- The text begins with `front`, which takes at most `max` bytes and is the longest beginning that
does. Only whole characters belong to a beginning, as it is a text itself. -/
structure IsLongestFront (max : Nat) (text front : String) : Prop where
  /-- The text goes on behind it. -/
  continued : ∃ rest, text = front ++ rest
  /-- It does not take too many bytes. -/
  fits : front.utf8ByteSize ≤ max
  /-- Any other beginning that does not is a beginning of it. -/
  longest : ∀ other rest, text = other ++ rest → other.utf8ByteSize ≤ max →
    ∃ more, front = other ++ more

/-- **A text is truncated to its longest front.** -/
theorem isLongestFront_truncate (max : Nat) (text : String) :
    IsLongestFront max text (truncate max text) where
  continued := by
    obtain ⟨rest, hrest⟩ := takeBytes_prefix max text.toList
    refine ⟨String.ofList rest, ?_⟩
    rw [truncate, ← String.ofList_append, hrest, String.ofList_toList]
  fits := by
    rw [truncate, utf8ByteSize_ofList]
    exact sum_takeBytes_le max text.toList
  longest := by
    rintro other rest rfl hfits
    have hbytes : (other.toList.map Char.utf8Size).sum ≤ max := by
      rwa [← utf8ByteSize_ofList, String.ofList_toList]
    have hfront : other.toList <+: (other ++ rest).toList := by
      rw [String.toList_append]
      exact List.prefix_append other.toList rest.toList
    obtain ⟨more, hmore⟩ := prefix_takeBytes hfront hbytes
    refine ⟨String.ofList more, ?_⟩
    rw [truncate, ← hmore, String.ofList_append, String.ofList_toList]

namespace IsLongestFront

variable {max : Nat} {text front : String}

/-- There is only one. -/
theorem unique (h : IsLongestFront max text front) {front' : String}
    (h' : IsLongestFront max text front') : front = front' := by
  obtain ⟨rest, hrest⟩ := h.continued
  obtain ⟨rest', hrest'⟩ := h'.continued
  obtain ⟨more, hmore⟩ := h.longest front' rest' hrest' h'.fits
  obtain ⟨more', hmore'⟩ := h'.longest front rest hrest h.fits
  -- each takes as many bytes as the other at least, so nothing follows
  have hsize := congrArg String.utf8ByteSize hmore
  have hsize' := congrArg String.utf8ByteSize hmore'
  rw [String.utf8ByteSize_append] at hsize hsize'
  have hnothing : more = "" := String.utf8ByteSize_eq_zero_iff.1 (by omega)
  rw [hmore, hnothing, String.append_empty]

/-- At most three bytes are given away, since the next character takes four at most. -/
theorem le_add_three (h : IsLongestFront max text front) (hcut : max < text.utf8ByteSize) :
    max ≤ front.utf8ByteSize + 3 := by
  obtain ⟨rest, rfl⟩ := h.continued
  obtain ⟨cs, rfl⟩ := rest.exists_eq_ofList
  cases cs with
  | nil =>
    rw [String.ofList_nil, String.append_empty] at hcut
    exact absurd h.fits (by omega)
  | cons c cs =>
    by_contra hshort
    have hwidth := c.utf8Size_le_four
    have hpositive := c.utf8Size_pos
    have hnext : (front ++ String.singleton c).utf8ByteSize = front.utf8ByteSize + c.utf8Size := by
      rw [String.utf8ByteSize_append, String.utf8ByteSize_singleton]
    obtain ⟨more, hmore⟩ := h.longest (front ++ String.singleton c) (String.ofList cs)
      (by rw [String.ofList_cons, String.append_assoc]) (by omega)
    have hsize := congrArg String.utf8ByteSize hmore
    rw [String.utf8ByteSize_append, hnext] at hsize
    omega

/-- The longest front of a longest front is that for the smaller maximum. -/
theorem trans (h : IsLongestFront max text front) {other : Nat} {front' : String}
    (h' : IsLongestFront other front front') : IsLongestFront (min max other) text front' := by
  obtain ⟨rest, hrest⟩ := h.continued
  obtain ⟨rest', hrest'⟩ := h'.continued
  refine ⟨⟨rest' ++ rest, ?_⟩, ?_, ?_⟩
  · rw [hrest, hrest', String.append_assoc]
  · have hsize := congrArg String.utf8ByteSize hrest'
    rw [String.utf8ByteSize_append] at hsize
    exact Nat.le_min.2 ⟨by have := h.fits; omega, h'.fits⟩
  · intro third behind hthird hfits
    obtain ⟨hmax, hother⟩ := Nat.le_min.1 hfits
    obtain ⟨more, hmore⟩ := h.longest third behind hthird hmax
    exact h'.longest third more hmore hother

end IsLongestFront

/-! ### Going back to a character -/

/-- The greatest place up to the given one at which no character of the text is split, found by
going back byte by byte. -/
def boundaryFrom (text : String) : (place : Nat) → Nat
  | 0 => 0
  | place + 1 =>
    if String.Pos.Raw.isValid text ⟨place + 1⟩ then place + 1 else boundaryFrom text place

/-- The bytes in front of a place that splits no character are a beginning of the text. -/
theorem isValid_iff {text : String} {place : Nat} :
    String.Pos.Raw.isValid text ⟨place⟩ = true ↔
      ∃ front rest, text = front ++ rest ∧ front.utf8ByteSize = place := by
  rw [String.Pos.Raw.isValid_eq_true_iff, String.Pos.Raw.isValid_iff_exists_append]
  refine exists₂_congr fun front rest ↦ and_congr_right fun _ ↦ ?_
  rw [String.Pos.Raw.ext_iff, String.byteIdx_rawEndPos, eq_comm]

/-- **Going back from the maximum** leads to the end of the longest front. -/
theorem IsLongestFront.boundaryFrom_eq {max : Nat} {text front : String}
    (h : IsLongestFront max text front) : boundaryFrom text max = front.utf8ByteSize := by
  obtain ⟨rest, hrest⟩ := h.continued
  have hend : String.Pos.Raw.isValid text ⟨front.utf8ByteSize⟩ = true :=
    isValid_iff.2 ⟨front, rest, hrest, rfl⟩
  -- every place between the two splits a character
  have hsplit (place : Nat) (hlt : front.utf8ByteSize < place) (hle : place ≤ max) :
      ¬ String.Pos.Raw.isValid text ⟨place⟩ = true := by
    rw [isValid_iff]
    rintro ⟨other, behind, hother, rfl⟩
    obtain ⟨more, hmore⟩ := h.longest other behind hother hle
    have hsize := congrArg String.utf8ByteSize hmore
    rw [String.utf8ByteSize_append] at hsize
    omega
  have hback (place : Nat) (hge : front.utf8ByteSize ≤ place) (hle : place ≤ max) :
      boundaryFrom text place = front.utf8ByteSize := by
    induction place with
    | zero =>
      rw [boundaryFrom]
      omega
    | succ place ih =>
      rw [boundaryFrom]
      rcases Nat.eq_or_lt_of_le hge with heq | hlt
      · rw [← heq, if_pos hend]
      · rw [if_neg (hsplit _ hlt hle), ih (by omega) (by omega)]
  exact hback max h.fits (Nat.le_refl max)

/-! ### Truncated and abbreviated texts -/

/-- **A text is cut behind its longest front**: what a text is truncated to is the longest run of
leading whole characters that takes at most the given number of bytes, and if something is cut off,
it takes at most three bytes less. In bytes, the text is cut where going back from the maximum first
meets a place between two characters. A text is shown in full if it fits or nothing is demanded of
it, and otherwise truncated, with three dots. Truncating a truncated text is truncating the text to
the smaller maximum. -/
theorem cut_behind_longest_front (max : Nat) (text : String) :
    let front := truncate max text
    let place := boundaryFrom text max
    IsLongestFront max text front ∧
      (max < text.utf8ByteSize → max ≤ front.utf8ByteSize + 3) ∧
      String.Pos.Raw.IsValid text ⟨place⟩ ∧
      front.toByteArray = text.toByteArray.extract 0 place ∧
      abbreviate none text = text ∧
      abbreviate (some max) text = (if text.utf8ByteSize ≤ max then text else front ++ "...") ∧
      ∀ other, truncate other front = truncate (min max other) text := by
  intro front place
  have hfront : IsLongestFront max text front := isLongestFront_truncate max text
  have hplace : place = front.utf8ByteSize := hfront.boundaryFrom_eq
  obtain ⟨rest, hrest⟩ := hfront.continued
  refine ⟨hfront, hfront.le_add_three, ?_, ?_, rfl, rfl, fun other ↦ ?_⟩
  · rw [hplace, ← String.Pos.Raw.isValid_eq_true_iff]
    exact isValid_iff.2 ⟨front, rest, hrest, rfl⟩
  · rw [hplace, hrest, String.toByteArray_append]
    exact (ByteArray.extract_append_eq_left rfl).symm
  · exact (hfront.trans (isLongestFront_truncate other front)).unique
      (isLongestFront_truncate (min max other) text)

/-- A character of two bytes that is split by the first maximum and not by the second. -/
example : abbreviate (some 9) "SELECT 'é'" = "SELECT '..." ∧
    abbreviate (some 10) "SELECT 'é'" = "SELECT 'é..." := by
  decide +kernel

end ParamSql.Text
