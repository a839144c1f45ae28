import ParamSql.Proofs.Builder.Topics
import ParamSql.Proofs.Statement.Page

/-!
# Pages that are asked for

Limit and offset are set on their own or, together, as a page of a number and a size. Whatever is
set, in whichever order, the last limit and the last offset decide which rows are returned
(`returned?_after`), and a page is the part of the result that its number and its size say
(`requested_page`).

The second is not true of all results, because the offset of a page that is far out is not the one
that belongs to it but the greatest that there is. It is true of results that have no more rows than
an offset can skip: such a page is empty either way.
-/

namespace ParamSql

/-! ### What is asked for last -/

namespace Setter

/-- The limit that a setter sets. -/
def limit? : Setter → Option Int64
  | limit rows => some rows
  | _ => none

/-- The offset that a setter sets. -/
def offset? : Setter → Option Int64
  | offset rows => some rows
  | _ => none

/-- The number that is set last, or the one given where none is set. -/
def last (number? : Setter → Option Int64) (initial : Int64) (said : List Setter) : Int64 :=
  (said.filterMap number?).getLast?.getD initial

/-- The limit that is set last. Where none is, it is what stands for no limit. -/
def lastLimit (said : List Setter) : Int64 :=
  last limit? (-1) said

/-- The offset that is set last. Where none is, nothing is skipped. -/
def lastOffset (said : List Setter) : Int64 :=
  last offset? 0 said

variable {number? : Setter → Option Int64} {initial : Int64}

theorem last_append (first second : List Setter) :
    last number? initial (first ++ second) = last number? (last number? initial first) second := by
  rw [last, last, last, List.filterMap_append, List.getLast?_append, Option.getD_or]

theorem last_cons (setter : Setter) (said : List Setter) :
    last number? initial (setter :: said) = last number? ((number? setter).getD initial) said := by
  rw [← List.singleton_append, last_append]
  congr 1
  cases h : number? setter <;> simp [last, h]

/-- The last number, when all of them are changed in one way. -/
theorem last_map (f : Int64 → Int64) (said : List Setter) :
    last (fun setter ↦ (number? setter).map f) (f initial) said =
      f (last number? initial said) := by
  rw [last, last, ← Option.getD_map f, ← List.getLast?_map, List.map_filterMap]

/-- Nothing is set by setters that do not set it. -/
theorem last_eq_initial {said : List Setter} (h : ∀ setter ∈ said, number? setter = none) :
    last number? initial said = initial := by
  rw [last, List.filterMap_eq_nil_iff.2 h]
  rfl

/-- The rows of a result that are asked for. -/
def requested {α : Type} (said : List Setter) (all : List α) : List α :=
  let rest := all.drop (max (lastOffset said).toInt 0).toNat
  if 0 ≤ lastLimit said then rest.take (lastLimit said).toInt.toNat else rest

/-! ### Pages of a number and a size -/

theorem limit?_eq_none {setter : Setter} (h : setter.topic ≠ .limit) : setter.limit? = none := by
  cases setter <;> first | rfl | exact absurd rfl h

theorem offset?_eq_none {setter : Setter} (h : setter.topic ≠ .offset) : setter.offset? = none := by
  cases setter <;> first | rfl | exact absurd rfl h

section Page

variable {number size : Int64} {later : List Setter}

theorem lastLimit_page (hlater : ∀ setter ∈ later, setter.topic ≠ .limit) (earlier : List Setter) :
    (lastLimit (earlier ++ page number size ++ later)).toInt = max size.toInt 1 := by
  have hlast : lastLimit (earlier ++ page number size ++ later) = .ofInt (max size.toInt 1) := by
    rw [lastLimit, last_append, last_append,
      last_eq_initial fun setter hmem ↦ limit?_eq_none (hlater setter hmem)]
    rfl
  have hbound : size.toInt < 2 ^ 63 := size.toInt_lt
  rw [hlast, Int64.toInt_ofInt_of_le (by omega) (by omega)]

/-- A number that is too great is brought down to the greatest there is. -/
theorem toInt_ofIntClamp_of_nonneg {n : Int} (h : 0 ≤ n) :
    (Int64.ofIntClamp n).toInt = min n (2 ^ 63 - 1) := by
  have hmin : Int64.minValue.toInt = -2 ^ 63 := Int64.toInt_minValue
  have hmax : Int64.maxValue.toInt = 2 ^ 63 - 1 := Int64.toInt_maxValue
  by_cases hn : n ≤ 2 ^ 63 - 1
  · rw [Int64.toInt_ofIntClamp (by omega) (by omega), Int.min_eq_left hn]
  · rw [Int64.ofIntClamp, dif_pos (by omega), dif_neg (by omega), hmax]
    omega

theorem lastOffset_page (hlater : ∀ setter ∈ later, setter.topic ≠ .offset)
    (earlier : List Setter) :
    (lastOffset (earlier ++ page number size ++ later)).toInt =
      min ((max number.toInt 1 - 1) * max size.toInt 1) (2 ^ 63 - 1) := by
  have hlast : lastOffset (earlier ++ page number size ++ later) =
      .ofIntClamp ((max number.toInt 1 - 1) * max size.toInt 1) := by
    rw [lastOffset, last_append, last_append,
      last_eq_initial fun setter hmem ↦ offset?_eq_none (hlater setter hmem)]
    rfl
  rw [hlast, toInt_ofIntClamp_of_nonneg (Int.mul_nonneg (by omega) (by omega))]

/-- **A page is the part of the result that its number and its size say**, numbers of pages being
counted from one and both being taken for one where they are less. Where the offset is not the one
that belongs to the page, it goes beyond the end of the result, and so does the page. -/
theorem requested_page {α : Type} {all : List α} (hall : all.length < 2 ^ 63)
    (hlimit : ∀ setter ∈ later, setter.topic ≠ .limit)
    (hoffset : ∀ setter ∈ later, setter.topic ≠ .offset) (earlier : List Setter) :
    let p := (max number.toInt 1).toNat
    let s := (max size.toInt 1).toNat
    requested (earlier ++ page number size ++ later) all = all.extract ((p - 1) * s) (p * s) := by
  intro p s
  have hsize : ((s : Nat) : Int) = max size.toInt 1 := Int.toNat_of_nonneg (by omega)
  have hnumber : ((p - 1 : Nat) : Int) = max number.toInt 1 - 1 := by omega
  have hp : p * s = (p - 1) * s + s := by
    rw [← Nat.succ_mul, Nat.succ_eq_add_one, Nat.sub_add_cancel (by omega)]
  have hskipped : (max (lastOffset (earlier ++ page number size ++ later)).toInt 0).toNat =
      min ((p - 1) * s) (2 ^ 63 - 1) := by
    rw [lastOffset_page hoffset, ← hsize, ← hnumber, ← Int.natCast_mul]
    omega
  have htaken : 0 ≤ lastLimit (earlier ++ page number size ++ later) := by
    rw [Int64.le_iff_toInt_le, lastLimit_page hlimit]
    exact Int.le_trans (by decide) (Int.le_max_right _ 1)
  -- where less is skipped than belongs to the page, nothing is left all the same
  have hdrop : all.drop (min ((p - 1) * s) (2 ^ 63 - 1)) = all.drop ((p - 1) * s) := by
    rcases Nat.le_total ((p - 1) * s) (2 ^ 63 - 1) with hle | hge
    · rw [Nat.min_eq_left hle]
    · rw [Nat.min_eq_right hge, List.drop_eq_nil_of_le (by omega),
        List.drop_eq_nil_of_le (by omega)]
  rw [requested, hskipped, hdrop, if_pos htaken, lastLimit_page hlimit, List.extract_eq_take_drop,
    hp, Nat.add_sub_cancel_left]

end Page

/-- The first pages of a result, one after the other, are the first rows of it. -/
theorem flatten_pages {α : Type} (all : List α) (size n : Nat) :
    ((List.range n).map fun k ↦ all.extract (k * size) ((k + 1) * size)).flatten =
      all.take (n * size) := by
  induction n with
  | zero => simp
  | succ n ih =>
    rw [List.range_succ, List.map_append, List.flatten_append, ih, List.map_singleton,
      List.flatten_singleton, Nat.succ_mul, List.take_add, List.extract_eq_take_drop,
      Nat.add_sub_cancel_left]

end Setter

namespace Builder

variable (b : Builder)

/-! ### The page of a built statement -/

/-- The page that the statement of a builder asks for, if it can be read: what the statement has
behind that without limit and offset. -/
def page? : Option Page :=
  let plain := b.build.2.clauses.unlimited.assemble b.build.2.kind
  (b.build.1.toList.dropPrefix? plain.toList).bind Page.read?

/-- The rows that the statement returns of a result. -/
def returned? {α : Type} (all : List α) : Option (List α) :=
  b.page?.map (·.rows all)

variable {b}

/-- The page that is read is the one that the clauses ask for. -/
theorem page?_eq_some (h : b.build.1 = b.build.2.clauses.assemble b.build.2.kind) :
    b.page? = some b.build.2.clauses.page := by
  have hbehind : b.build.1.toList.dropPrefix?
      (b.build.2.clauses.unlimited.assemble b.build.2.kind).toList =
        some b.build.2.clauses.page.text.toList := by
    rw [h, Clauses.assemble_eq_append_page, String.toList_append, List.dropPrefix?_eq_some_iff]
    exact ⟨_, rfl, beq_self_eq_true _⟩
  rw [page?, hbehind, Option.bind_some, Page.read?_text]

/-! ### The limit and the offset of a builder -/

theorem apply_limit (b : Builder) (setter : Setter) :
    (b.apply setter).clauses.limit = setter.limit?.getD b.clauses.limit := by
  rw [apply_eq_adopt]
  cases setter <;> rfl

theorem apply_offset (b : Builder) (setter : Setter) :
    (b.apply setter).clauses.offset =
      (setter.offset?.map fun rows ↦ if 0 < rows then rows else 0).getD b.clauses.offset := by
  rw [apply_eq_adopt]
  cases setter <;> rfl

/-- What every setter sets or keeps is in the end what is set last. -/
theorem foldl_apply_eq_last (view : Builder → Int64) {number? : Setter → Option Int64}
    (happly : ∀ b setter, view (b.apply setter) = (number? setter).getD (view b))
    (said : List Setter) (b : Builder) :
    view (said.foldl apply b) = Setter.last number? (view b) said := by
  induction said generalizing b with
  | nil => rfl
  | cons setter said ih => rw [List.foldl_cons, ih, happly, Setter.last_cons]

/-- **What a built statement is limited to**: the last limit and the last offset that have been set
in time, where a negative offset skips nothing. -/
theorem limit_and_offset_build_after (kind : StatementKind) (table : String)
    (alias? : Option String) (settings : Settings) (steps : List Step) :
    let b := create kind table alias? settings
    let c := (b.after steps).build.2.clauses
    let offset := Setter.lastOffset (b.saidIn steps)
    c.limit = Setter.lastLimit (b.saidIn steps) ∧ c.offset = if 0 < offset then offset else 0 := by
  intro b c offset
  have hopen : b.isBuilt = false := rfl
  have hsame : c.limit = (b.asSaid steps).clauses.limit ∧
      c.offset = (b.asSaid steps).clauses.offset := by
    rw [show c = _ from clauses_build_after hopen steps, withFilters]
    split <;> exact ⟨rfl, rfl⟩
  have hnothing : b.clauses.limit = -1 ∧ b.clauses.offset = if (0 : Int64) < 0 then 0 else 0 := by
    cases kind <;> exact ⟨rfl, rfl⟩
  rw [hsame.1, hsame.2, asSaid, changeAll_eq_foldl hopen]
  constructor
  · rw [foldl_apply_eq_last (·.clauses.limit) apply_limit, hnothing.1]
    rfl
  · rw [foldl_apply_eq_last (·.clauses.offset) apply_offset, hnothing.2]
    exact Setter.last_map (fun rows ↦ if 0 < rows then rows else 0) _

/-! ### Rows that are returned -/

section Run

variable (kind : StatementKind) (table : String) (alias? : Option String) (settings : Settings)

/-- Every statement asks for the page that its clauses ask for, and says so in words that are read
as that page. -/
theorem page?_after (steps : List Step) :
    let now := (create kind table alias? settings).after steps
    let c := now.build.2.clauses
    now.page? = some c.page ∧ now.build.1 = c.unlimited.assemble kind ++ c.page.text := by
  intro now c
  have hkind : now.build.2.kind = kind := kind_build_after _ steps
  have htext : now.build.1 = c.assemble kind := build_after_eq_assemble rfl steps
  exact ⟨page?_eq_some (hkind.symm ▸ htext), htext.trans (c.assemble_eq_append_page kind)⟩

/-- A statement returns what has been asked for in time. -/
theorem returned?_after {α : Type} {all : List α} (hall : all.length < 2 ^ 63)
    (steps : List Step) :
    let b := create kind table alias? settings
    (b.after steps).returned? all = some (Setter.requested (b.saidIn steps) all) := by
  intro b
  have hcap : all.length ≤ Clauses.allRows := Nat.le_trans (Nat.le_of_lt hall) (by decide)
  obtain ⟨hlimit, hoffset⟩ := limit_and_offset_build_after kind table alias? settings steps
  have hskipped : max (b.after steps).build.2.clauses.offset.toInt 0 =
      max (Setter.lastOffset (b.saidIn steps)).toInt 0 := by
    rw [hoffset]
    split
    · rfl
    · rename_i hnone
      rw [pos_iff_toInt_pos] at hnone
      exact (Int.max_eq_right (Int.not_lt.1 hnone)).symm
  rw [returned?, (page?_after kind table alias? settings steps).1, Option.map_some,
    Clauses.rows_page, Clauses.paged_eq _ hcap, hskipped, hlimit]
  rfl

/-- **What is returned is what has been asked for.** Whatever is done with a builder, its statement
ends in the text of a page, so there is no offset without a limit in it and no number that
sixty-four bits do not hold. It is read as that page, and of any result it returns the rows that the
last limit and the last offset ask for.

A page that is asked for is the part of the result that its number and its size say. So pages of one
size, one after the other, are the whole result once there are enough of them: no row is lost and
none is returned twice. -/
theorem returns_requested_rows {α : Type} {all : List α} (hall : all.length < 2 ^ 63) :
    let b := create kind table alias? settings
    (∀ steps,
      let now := b.after steps
      (∃ page, now.page? = some page ∧
        now.build.1 = now.build.2.clauses.unlimited.assemble kind ++ page.text) ∧
      now.returned? all = some (Setter.requested (b.saidIn steps) all)) ∧
    ∀ earlier later : List Setter,
      (∀ setter ∈ later, setter.topic ≠ .limit ∧ setter.topic ≠ .offset) →
      ∀ size : Int64,
        let s := (max size.toInt 1).toNat
        let returned (number : Int64) :=
          (b.after [.change (earlier ++ Setter.page number size ++ later)]).returned? all
        (∀ number : Int64,
          let p := (max number.toInt 1).toNat
          returned number = some (all.extract ((p - 1) * s) (p * s))) ∧
        ∀ n < 2 ^ 63, all.length ≤ n * s → ∃ pages : List (List α),
          (List.range n).map (fun k ↦ returned (.ofNat (k + 1))) = pages.map some ∧
            pages.flatten = all := by
  intro b
  refine ⟨fun steps ↦ ⟨⟨_, page?_after kind table alias? settings steps⟩,
    returned?_after kind table alias? settings hall steps⟩, ?_⟩
  intro earlier later hlater size s returned
  have hpage (number : Int64) :
      returned number = some (all.extract (((max number.toInt 1).toNat - 1) * s)
        ((max number.toInt 1).toNat * s)) := by
    have hsaid : b.saidIn [.change (earlier ++ Setter.page number size ++ later)] =
        earlier ++ Setter.page number size ++ later :=
      List.append_nil _
    rw [show returned number = _ from returned?_after kind table alias? settings hall _, hsaid,
      Setter.requested_page hall (fun setter hmem ↦ (hlater setter hmem).1)
        (fun setter hmem ↦ (hlater setter hmem).2)]
  refine ⟨hpage, fun n hn henough ↦ ?_⟩
  have hnumbered (k : Nat) (hk : k ∈ List.range n) :
      returned (.ofNat (k + 1)) = some (all.extract (k * s) ((k + 1) * s)) := by
    have hbound : k + 1 < 2 ^ 63 := Nat.lt_of_le_of_lt (List.mem_range.1 hk) hn
    have hnumber : (max (Int64.ofNat (k + 1)).toInt 1).toNat = k + 1 := by
      rw [Int64.toInt_ofNat_of_lt hbound]
      omega
    rw [hpage, hnumber, Nat.add_sub_cancel]
  refine ⟨(List.range n).map fun k ↦ all.extract (k * s) ((k + 1) * s), ?_, ?_⟩
  · rw [List.map_map]
    exact List.map_congr_left hnumbered
  · rw [Setter.flatten_pages, List.take_of_length_le henough]

end Run

/-- Five rows: the last limit and offset in time, pages of two, and a page as far out as it gets. -/
theorem returns_requested_rows_five :
    let b := create .select "users" none {}
    let all := ["ada", "bob", "cid", "dan", "eve"]
    let steps : List Step :=
      [.change [.limit (-7), .offset 1, .offset (-3)], .countSql,
        .change [.offset 2, .orderBy "name" .ascending], .build, .change [.limit 0]]
    let paged (number size : Int64) :=
      b.after [.change ([.limit (-7)] ++ Setter.page number size ++ [.distinct true])]
    all.length < 2 ^ 63 ∧
      (b.after steps).build.1 =
        "SELECT * FROM users ORDER BY name ASC LIMIT 18446744073709551615 OFFSET 2" ∧
      (b.after steps).returned? all = some ["cid", "dan", "eve"] ∧
      (∃ pages : List (List String),
        (List.range 3).map (fun k ↦ (paged (.ofNat (k + 1)) 2).returned? all) = pages.map some ∧
          pages.flatten = all) ∧
      (paged Int64.maxValue Int64.maxValue).build.1 =
        "SELECT DISTINCT * FROM users" ++
          " LIMIT 9223372036854775807 OFFSET 9223372036854775807" ∧
      (paged Int64.maxValue Int64.maxValue).returned? all = some [] := by
  intro b all steps paged
  have hall : all.length < 2 ^ 63 := by decide
  have hlater : ∀ setter ∈ [Setter.distinct true],
      setter.topic ≠ .limit ∧ setter.topic ≠ .offset := by
    simp [Setter.topic]
  obtain ⟨hsteps, hpages⟩ := returns_requested_rows .select "users" none {} hall
  obtain ⟨-, hwhole⟩ := hpages [.limit (-7)] [.distinct true] hlater 2
  obtain ⟨hpage, -⟩ := hpages [.limit (-7)] [.distinct true] hlater Int64.maxValue
  exact ⟨hall, by decide +kernel, (hsteps steps).2, hwhole 3 (by decide) (by decide),
    by decide +kernel, (hpage Int64.maxValue).trans (by decide +kernel)⟩

end Builder

end ParamSql
