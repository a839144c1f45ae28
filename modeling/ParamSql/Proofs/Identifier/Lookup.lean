import ParamSql.Proofs.Identifier.Resolve
import Mathlib.Data.List.Chain

/-!
# The look-up of reserved words

The table of reserved words is increasing (`increasing_reservedWords`), and in an increasing table
halving finds whatever is there (`occursIn_iff`). So a name is looked up as reserved exactly if it
is a word of the table once its ASCII letters are in upper case (`isReserved_iff`).

What halving keeps is that a position of the key, if there is one, lies between the two bounds.
-/

namespace ParamSql.Identifier

/-! ### Increasing tables -/

/-- Every word of the table is less than the words behind it. -/
def Increasing (table : Array String) : Prop :=
  table.toList.Pairwise (· < ·)

theorem Increasing.getElem_lt {table : Array String} (h : Increasing table) {i j : Nat}
    (hij : i < j) (hj : j < table.size) : table[i] < table[j] :=
  List.pairwise_iff_getElem.1 h i j (Nat.lt_trans hij hj) hj hij

/-- **Halving finds what is there.** -/
theorem occursBetween_of_getElem {table : Array String} (h : Increasing table) {key : String}
    {lo hi : Nat} {hi_le : hi ≤ table.size} {i : Nat} (hlow : lo ≤ i) (hhigh : i < hi)
    (hkey : table[i] = key) : occursBetween table key lo hi hi_le = true := by
  fun_induction occursBetween table key lo hi hi_le with
  | case1 => rfl
  | case2 lo hi hi_le hlt mid hmid hne hless ih =>
    refine ih ?_ hhigh hkey
    -- behind the middle, for words up to there are no greater than the middle one
    by_contra hbefore
    rcases Nat.lt_or_eq_of_le (show i ≤ mid by omega) with hbefore | rfl
    · exact String.lt_irrefl _ (String.lt_trans hless (hkey ▸ h.getElem_lt hbefore hmid))
    · exact hne hkey
  | case3 lo hi hi_le hlt mid hmid hne hless ih =>
    refine ih hlow ?_ hkey
    by_contra hbehind
    rcases Nat.lt_or_eq_of_le (show mid ≤ i by omega) with hbehind | rfl
    · exact hless (hkey ▸ h.getElem_lt hbehind (by omega))
    · exact hne hkey
  | case4 lo hi hi_le hge => omega

/-- What is looked up in an increasing table is found exactly if it is there. -/
theorem occursIn_iff {table : Array String} (h : Increasing table) {key : String} :
    occursIn table key = true ↔ key ∈ table := by
  refine ⟨mem_of_occursIn, fun hmem ↦ ?_⟩
  obtain ⟨i, hi, hkey⟩ := Array.getElem_of_mem hmem
  exact occursBetween_of_getElem h (Nat.zero_le i) hi hkey

/-! ### The table -/

/-- Words that are given by their characters are compared by these, one word with the next:
comparing the words of the table themselves would decode each of them anew. -/
theorem isChain_cons_ofList {cs ds : List Char} {words : List String} (h : cs < ds)
    (hwords : (String.ofList ds :: words).IsChain (· < ·)) :
    (String.ofList cs :: String.ofList ds :: words).IsChain (· < ·) := by
  refine .cons_cons ?_ hwords
  rwa [String.lt_iff, String.toList_ofList, String.toList_ofList]

set_option maxRecDepth 4000 in
/-- **The table of reserved words is increasing.** -/
theorem increasing_reservedWords : Increasing reservedWords := by
  have hchain : reservedWords.toList.IsChain (· < ·) := by
    unfold reservedWords
    repeat refine isChain_cons_ofList (by decide) ?_
    exact .singleton _
  exact List.isChain_iff_pairwise.1 hchain

/-- **A name is reserved** exactly if it is a word of the table in any mixture of cases. -/
theorem isReserved_iff {name : String} :
    isReserved name = true ↔ upperCase name ∈ reservedWords :=
  occursIn_iff increasing_reservedWords

end ParamSql.Identifier
