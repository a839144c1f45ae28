import Mathlib.Tactic.Common
import Mathlib.Tactic.SplitIfs

/-!
# The order of bytes

Texts are compared by their characters. Their bytes in UTF-8 come in the same order
(`bytes_lt_bytes_iff`): of two characters, the bytes of the lesser one are less at the first place
where they differ, whatever follows (`utf8EncodeChar_append_lt`). So a table of texts is increasing
in the order of bytes exactly if it is in the order of characters.
-/

namespace ParamSql.Text

/-- The bytes of a text in UTF-8. -/
def bytes (s : String) : List UInt8 :=
  s.toUTF8.data.toList

theorem bytes_ofList (cs : List Char) :
    bytes (String.ofList cs) = cs.flatMap String.utf8EncodeChar := by
  rw [bytes, String.toUTF8_eq_toByteArray, String.toByteArray_ofList, List.utf8Encode,
    List.data_toByteArray]

/-- Bytes that are given as numbers are compared as numbers. -/
theorem ofNat_cons_lt_iff {a b : Nat} (ha : a < 256) (hb : b < 256) {xs ys : List UInt8} :
    UInt8.ofNat a :: xs < UInt8.ofNat b :: ys ↔ a < b ∨ a = b ∧ xs < ys := by
  rw [List.cons_lt_cons_iff, UInt8.lt_iff_toNat_lt, ← UInt8.toNat_inj,
    UInt8.toNat_ofNat_of_lt' ha, UInt8.toNat_ofNat_of_lt' hb]

/-- The bytes of the lesser character come first, whatever follows. -/
theorem utf8EncodeChar_append_lt {c d : Char} (h : c < d) (xs ys : List UInt8) :
    String.utf8EncodeChar c ++ xs < String.utf8EncodeChar d ++ ys := by
  have hlt : c.val.toNat < d.val.toNat := h
  have hlast : d.val.toNat < 0x110000 := by
    rcases d.valid with hbefore | hbehind <;> omega
  -- the six bits that each following byte holds, taken off one byte after the other
  have htwo (v : Nat) : v / 4096 = v / 64 / 64 := by rw [Nat.div_div_eq_div_mul]
  have hthree (v : Nat) : v / 262144 = v / 64 / 64 / 64 := by simp only [Nat.div_div_eq_div_mul]
  unfold String.utf8EncodeChar
  simp only [htwo, hthree]
  split_ifs <;>
    simp (disch := omega) only [List.cons_append, List.nil_append, ofNat_cons_lt_iff] <;>
    omega

theorem flatMap_utf8EncodeChar_lt {cs ds : List Char} (h : cs < ds) :
    cs.flatMap String.utf8EncodeChar < ds.flatMap String.utf8EncodeChar := by
  induction h with
  | @nil d ds =>
    obtain ⟨b, bs, hd⟩ := List.exists_cons_of_ne_nil (String.utf8EncodeChar_ne_nil (c := d))
    rw [List.flatMap_cons, hd]
    exact .nil
  | cons _ ih =>
    rw [List.flatMap_cons, List.flatMap_cons]
    exact List.append_left_lt ih
  | rel hcd =>
    rw [List.flatMap_cons, List.flatMap_cons]
    exact utf8EncodeChar_append_lt hcd _ _

/-- **Texts come in the order of their bytes.** -/
theorem bytes_lt_bytes_iff {s t : String} : bytes s < bytes t ↔ s < t := by
  have himp {s t : String} (h : s < t) : bytes s < bytes t := by
    rw [← s.ofList_toList, ← t.ofList_toList, bytes_ofList, bytes_ofList]
    exact flatMap_utf8EncodeChar_lt (String.lt_iff.1 h)
  refine ⟨fun h ↦ ?_, himp⟩
  by_contra hnot
  by_cases hgt : t < s
  · exact List.lt_asymm h (himp hgt)
  · rw [String.le_antisymm (String.not_lt.1 hgt) (String.not_lt.1 hnot)] at h
    exact List.lt_irrefl _ h

end ParamSql.Text
