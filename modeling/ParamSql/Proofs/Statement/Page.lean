import ParamSql.Proofs.Condition.Reader
import ParamSql.Proofs.Statement.Grammar
import ParamSql.Proofs.Statement.Rows
import Mathlib.Algebra.Group.Int.Defs
import Mathlib.Algebra.Group.Nat.Defs

/-!
# Pages

What a statement has to say about how many rows are skipped and how many are returned, and how MySQL
reads it. A page is either everything or a cut; skipping rows without a limit is not a page at all,
and neither is a number that sixty-four bits do not hold.

Every statement ends in the text of a page (`assemble_eq_append_page`), which is read back as that
page (`read?_text`). The cut is the one that was asked for, although "no limit" has to be written as
a limit of its own where rows are skipped: no result has so many rows (`paged_eq`).
-/

namespace ParamSql

open Condition (isKeyword numeral?)

/-- How much of a result is returned. -/
inductive Page
  /-- All rows. -/
  | whole
  /-- So many rows at most, after so many have been skipped. -/
  | cut (limit offset : UInt64)
deriving DecidableEq

namespace Page

/-- The rows that are returned. -/
def rows {α : Type} : Page → List α → List α
  | whole, all => all
  | cut limit offset, all => (all.drop offset.toNat).take limit.toNat

/-- The clauses for a page. -/
def clauses : Page → List Clause
  | whole => []
  | cut limit offset =>
    .limit limit.toNat :: if offset = 0 then [] else [.offset offset.toNat]

/-- A page as it is written at the end of a statement. -/
def text (page : Page) : String :=
  String.join (page.clauses.map (" " ++ ·.sql))

/-! ### Reading pages -/

/-- The number of rows that a word denotes. -/
def count? (cs : List Char) : Option UInt64 :=
  (numeral? cs).bind fun n ↦ if h : n < 2 ^ 64 then some (.ofNatLT n h) else none

/-- The page that tokens ask for. -/
def ofTokens? : List Token → Option Page
  | [.word limit, .word n] =>
    if isKeyword "LIMIT" limit then (count? n).map (cut · 0) else none
  | [.word limit, .word n, .word offset, .word m] =>
    if isKeyword "LIMIT" limit && isKeyword "OFFSET" offset then
      (count? n).bind fun n ↦ (count? m).map (cut n)
    else none
  | _ => none

/-- The page that the end of a statement asks for. A blank sets it off from what is before it. -/
def read? : List Char → Option Page
  | [] => some whole
  | ' ' :: cs => ofTokens? (Token.lex cs)
  | _ => none

theorem numeral?_repr (n : Nat) : numeral? n.repr.toList = some n := by
  have hdigits : n.repr.toList.all Char.isDigit = true := by
    rw [Nat.toList_repr, List.all_eq_true]
    exact fun c hc ↦ Nat.isDigit_of_mem_toDigits (by decide) (by decide) hc
  have hsome : n.repr.toList.isEmpty = false := by
    rw [Nat.toList_repr, List.isEmpty_eq_false_iff]
    exact Nat.toDigits_ne_nil
  rw [numeral?, hdigits, hsome, Nat.toList_repr, Nat.ofDigitChars_ten_toDigits]
  rfl

theorem count?_repr (n : UInt64) : count? n.toNat.repr.toList = some n := by
  rw [count?, numeral?_repr, Option.bind_some, dif_pos n.toNat_lt, UInt64.ofNatLT_toNat]

theorem lex_limit (n : Nat) :
    Token.lex (Clause.limit n).sql.toList = [.word "LIMIT".toList, .word n.repr.toList] := by
  rw [show (Clause.limit n).sql = "LIMIT" ++ " " ++ n.repr from rfl, Token.lex_blank,
    Token.lex_repr]
  rfl

theorem lex_offset (n : Nat) :
    Token.lex (Clause.offset n).sql.toList = [.word "OFFSET".toList, .word n.repr.toList] := by
  rw [show (Clause.offset n).sql = "OFFSET" ++ " " ++ n.repr from rfl, Token.lex_blank,
    Token.lex_repr]
  rfl

/-- **What is written for a page is read as that page.** -/
theorem read?_text (page : Page) : read? page.text.toList = some page := by
  cases page with
  | whole => rfl
  | cut limit offset =>
    by_cases h : offset = 0
    · have htext : (cut limit offset).text.toList =
          ' ' :: (Clause.limit limit.toNat).sql.toList := by
        simp [text, clauses, h]
      rw [htext, read?, lex_limit]
      show (count? _).map _ = _
      rw [count?_repr, h]
      rfl
    · have htext : (cut limit offset).text.toList =
          ' ' :: ((Clause.limit limit.toNat).sql.toList ++
            ' ' :: (Clause.offset offset.toNat).sql.toList) := by
        simp [text, clauses, h]
      rw [htext, read?, Token.lex_append_blank, lex_limit, lex_offset]
      show (count? _).bind _ = _
      rw [count?_repr, Option.bind_some, count?_repr]
      rfl

end Page

/-! ### The page of a statement -/

theorem pos_iff_toInt_pos {n : Int64} : 0 < n ↔ 0 < n.toInt :=
  Int64.lt_iff_toInt_lt

namespace Clauses

variable (c : Clauses)

/-- The page that is written. -/
def page : Page :=
  match c.writtenLimit? with
  | some n => .cut (.ofNat n) (.ofNat (c.writtenOffset?.getD 0))
  | none => .whole

theorem lt_of_writtenLimit? {n : Nat} (h : c.writtenLimit? = some n) : n < 2 ^ 64 := by
  have hbound : c.limit.toInt < 2 ^ 63 := c.limit.toInt_lt
  unfold writtenLimit? at h
  split at h
  · cases h
    omega
  · split at h
    · cases h
      decide
    · cases h

theorem lt_of_writtenOffset? {n : Nat} (h : c.writtenOffset? = some n) : 0 < n ∧ n < 2 ^ 64 := by
  have hbound : c.offset.toInt < 2 ^ 63 := c.offset.toInt_lt
  unfold writtenOffset? at h
  split at h
  · rename_i hpositive
    rw [pos_iff_toInt_pos] at hpositive
    cases h
    omega
  · cases h

/-- Rows are skipped only behind a limit. -/
theorem writtenOffset?_eq_none (h : c.writtenLimit? = none) : c.writtenOffset? = none := by
  by_contra hoffset
  have hwrites : c.writes .limit = true :=
    c.writes_limit_of_writes_offset (Option.isSome_iff_ne_none.2 hoffset)
  rw [writes, h] at hwrites
  exact absurd hwrites Bool.false_ne_true

theorem clauses_page :
    c.page.clauses =
      (c.writtenLimit?.map Clause.limit).toList ++ (c.writtenOffset?.map Clause.offset).toList := by
  rw [page]
  cases hlimit : c.writtenLimit? with
  | none => rw [c.writtenOffset?_eq_none hlimit]; rfl
  | some n =>
    have hn : (UInt64.ofNat n).toNat = n := UInt64.toNat_ofNat_of_lt' (c.lt_of_writtenLimit? hlimit)
    simp only [Page.clauses, hn]
    cases hoffset : c.writtenOffset? with
    | none => rfl
    | some m =>
      obtain ⟨hpositive, hbound⟩ := c.lt_of_writtenOffset? hoffset
      have hm : (UInt64.ofNat m).toNat = m := UInt64.toNat_ofNat_of_lt' hbound
      have hne : UInt64.ofNat m ≠ 0 := by
        intro hzero
        rw [hzero] at hm
        exact absurd hm (Nat.ne_of_lt hpositive)
      simp only [Option.getD_some, hm, if_neg hne]
      rfl

theorem arranged_eq_append_page (kind : StatementKind) :
    c.arranged kind = c.unlimited.arranged kind ++ c.page.clauses := by
  have hlimit : c.unlimited.writtenLimit? = none := rfl
  have hoffset : c.unlimited.writtenOffset? = none := rfl
  rw [clauses_page, arranged, arranged, hlimit, hoffset]
  simp only [List.append_assoc]
  rfl

theorem arranged_ne_nil (kind : StatementKind) : c.arranged kind ≠ [] := by
  cases kind <;> exact List.cons_ne_nil _ _

/-- Texts that come after others are set off by a separator each. -/
theorem intercalate_append (separator : String) {texts : List String} (h : texts ≠ [])
    (more : List String) :
    separator.intercalate (texts ++ more) =
      separator.intercalate texts ++ String.join (more.map (separator ++ ·)) := by
  induction more generalizing texts with
  | nil => simp
  | cons text more ih =>
    have hne : texts ++ [text] ≠ [] := by simp
    calc separator.intercalate (texts ++ text :: more)
        = separator.intercalate (texts ++ [text] ++ more) := by rw [List.append_assoc]; rfl
      _ = separator.intercalate texts ++ separator ++ text ++
            String.join (more.map (separator ++ ·)) := by
        rw [ih hne, String.intercalate_append_of_ne_nil h (List.cons_ne_nil _ _),
          String.intercalate_singleton]
      _ = separator.intercalate texts ++ String.join ((text :: more).map (separator ++ ·)) := by
        rw [List.map_cons, String.join_cons, ← String.append_assoc, ← String.append_assoc]

/-- **Every statement ends in the text of its page**, and is without it the statement that is built
without limit and offset. -/
theorem assemble_eq_append_page (kind : StatementKind) :
    c.assemble kind = c.unlimited.assemble kind ++ c.page.text := by
  have hne : (c.unlimited.arranged kind).map Clause.sql ≠ [] :=
    mt List.map_eq_nil_iff.1 (arranged_ne_nil _ kind)
  rw [assemble, arranged_eq_append_page, List.map_append, intercalate_append _ hne, List.map_map]
  rfl

theorem rows_page {α : Type} (all : List α) : c.page.rows all = c.paged all := by
  rw [page, paged]
  cases hlimit : c.writtenLimit? with
  | none => rw [c.writtenOffset?_eq_none hlimit]; rfl
  | some n =>
    have hn : (UInt64.ofNat n).toNat = n := UInt64.toNat_ofNat_of_lt' (c.lt_of_writtenLimit? hlimit)
    have hoffset : (UInt64.ofNat (c.writtenOffset?.getD 0)).toNat = c.writtenOffset?.getD 0 := by
      cases hoffset : c.writtenOffset? with
      | none => rfl
      | some m => exact UInt64.toNat_ofNat_of_lt' (c.lt_of_writtenOffset? hoffset).2
    simp only [Page.rows, hn, hoffset]

/-- A negative offset skips nothing. -/
theorem getD_writtenOffset? : c.writtenOffset?.getD 0 = (max c.offset.toInt 0).toNat := by
  rw [writtenOffset?]
  split
  · rename_i hpositive
    rw [Option.getD_some, Int.max_eq_left (Int.le_of_lt (pos_iff_toInt_pos.1 hpositive))]
  · rename_i hnone
    rw [Option.getD_none, Int.max_eq_right (Int.not_lt.1 (mt pos_iff_toInt_pos.2 hnone))]
    rfl

/-- **What is cut out of a result** that is not too long to be numbered: "no limit" is a limit that
no such result reaches. -/
theorem paged_eq {α : Type} {all : List α} (h : all.length ≤ allRows) :
    let rest := all.drop (max c.offset.toInt 0).toNat
    c.paged all = if 0 ≤ c.limit then rest.take c.limit.toInt.toNat else rest := by
  intro rest
  rw [paged, getD_writtenOffset?, writtenLimit?]
  by_cases hlimit : 0 ≤ c.limit
  · simp only [if_pos hlimit]
    rfl
  · by_cases hoffset : 0 < c.offset
    · have hrest : rest.length ≤ allRows := by
        rw [List.length_drop]
        exact Nat.le_trans (Nat.sub_le _ _) h
      simp only [if_neg hlimit, if_pos hoffset]
      exact List.take_of_length_le hrest
    · simp only [if_neg hlimit, if_neg hoffset]
      rfl

end Clauses

end ParamSql
