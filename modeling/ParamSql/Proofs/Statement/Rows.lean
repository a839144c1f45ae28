import ParamSql.Proofs.Builder.Said
import Mathlib.Data.List.Dedup

/-!
# The rows of a SELECT, and their number

What a SELECT returns, read off its clauses: the rows that it selects from and that meet the
condition, each reduced to what is selected, without repetitions if it is DISTINCT, arranged, and
then cut to a page. What the texts in the clauses mean is up to the database (`Database`), and
nothing is assumed about it except that arranging rows neither adds nor loses any.

The counting statement denotes the number of these rows before they are cut to a page
(`length_rows_unlimited_eq_iff`), with one exception: a DISTINCT SELECT that names no columns is
counted as if it were not DISTINCT, so the number is the right one exactly if there are no
repetitions to be removed. Where columns are named, the SELECT is kept whole inside the counting
statement, and it takes reading `(…) AS counted` as the rows of what stands in the parentheses.
-/

namespace ParamSql

/-! ### Reading clauses -/

namespace Clauses

/-- The page that the clauses ask for. -/
def paged {α : Type} (c : Clauses) (rows : List α) : List α :=
  let rest := rows.drop (c.writtenOffset?.getD 0)
  match c.writtenLimit? with
  | some n => rest.take n
  | none => rest

/-- The clauses without limit and offset. -/
def unlimited (c : Clauses) : Clauses :=
  { c with limit := -1, offset := 0 }

/-- The clauses of the SELECT that is kept whole where distinct rows are counted. -/
def distinctRows (c : Clauses) : Clauses :=
  { c.unpaged with modifiers := [distinctKeyword] }

/-- A SELECT as something to select from. -/
def derivedTable (inner : Clauses) : String :=
  "(" ++ inner.assemble .select ++ ") AS counted"

end Clauses

/-- What the texts in a SELECT mean: its tables, conditions and expressions, with the values of the
parameters in them, and its order. -/
structure Database where
  /-- The rows of what is selected from. The same row may be there more than once. -/
  source : (target : String) → List Row
  /-- Whether a row meets a condition. -/
  meets : (condition : String) → Row → Bool
  /-- What a selected expression contributes to a row that is returned. -/
  fields : (expression : String) → Row → List Value
  /-- The order in which rows are returned. -/
  arrange : (terms : List String) → List Row → List Row
  /-- Arranging neither adds rows nor loses any. -/
  arrange_perm : ∀ terms rows, (arrange terms rows).Perm rows

namespace Database

variable (db : Database) (c : Clauses)

/-- The rows that meet the condition, if there is one. -/
def matching : List Row :=
  (db.source c.target).filter fun row ↦ c.condition.isEmpty || db.meets c.condition row

/-- What is returned of a row: all of it for `*` and where nothing is named. -/
def shown (columns : List String) (row : Row) : Row :=
  if columns.isEmpty then row
  else columns.flatMap fun column ↦ if column = "*" then row else db.fields column row

/-- Rows without repetitions, if they are to be distinct. -/
def withoutRepetitions (rows : List Row) : List Row :=
  if c.hasModifier distinctKeyword then rows.dedup else rows

/-- The rows that a SELECT returns. -/
def rows : List Row :=
  c.paged (db.arrange c.ordering
    (withoutRepetitions c ((db.matching c).map (db.shown c.columns))))

/-- The number that a SELECT denotes, if it selects the number of rows: it returns a single row
then, unless its limit or its offset leaves that out. -/
def number? : Option Nat :=
  if c.columns = ["COUNT(*)"] then (c.paged [(db.matching c).length]).head? else none

/-- A SELECT in parentheses is read as its rows. -/
def ReadsDerived (inner : Clauses) : Prop :=
  db.source inner.derivedTable = db.rows inner

/-! ### How many rows there are -/

variable {db c}

/-- Without limit and offset a page is everything. -/
theorem paged_eq_self {α : Type} (hlimit : c.limit = -1) (hoffset : c.offset = 0) (rows : List α) :
    c.paged rows = rows := by
  have hnone : c.writtenLimit? = none ∧ c.writtenOffset? = none := by
    simp [Clauses.writtenLimit?, Clauses.writtenOffset?, hlimit, hoffset]
  rw [Clauses.paged, hnone.1, hnone.2]
  rfl

/-- The order has no part in how many rows there are. -/
theorem length_rows (hlimit : c.limit = -1) (hoffset : c.offset = 0) :
    (db.rows c).length =
      (withoutRepetitions c ((db.matching c).map (db.shown c.columns))).length := by
  rw [rows, paged_eq_self hlimit hoffset]
  exact (db.arrange_perm _ _).length_eq

theorem length_rows_of_not_distinct (hlimit : c.limit = -1) (hoffset : c.offset = 0)
    (hdistinct : c.hasModifier distinctKeyword = false) :
    (db.rows c).length = (db.matching c).length := by
  rw [length_rows hlimit hoffset, withoutRepetitions, hdistinct, if_neg Bool.false_ne_true,
    List.length_map]

theorem length_rows_of_distinct (hlimit : c.limit = -1) (hoffset : c.offset = 0)
    (hdistinct : c.hasModifier distinctKeyword = true) :
    (db.rows c).length = ((db.matching c).map (db.shown c.columns)).dedup.length := by
  rw [length_rows hlimit hoffset, withoutRepetitions, if_pos hdistinct]

/-- Where no column is named, rows are returned as they are. -/
theorem map_shown_of_columns_eq_nil (hcolumns : c.columns = []) (rows : List Row) :
    rows.map (db.shown c.columns) = rows := by
  rw [hcolumns]
  exact List.map_id rows

/-- Removing repetitions removes nothing exactly if there are none. -/
theorem length_dedup_eq_iff {rows : List Row} : rows.dedup.length = rows.length ↔ rows.Nodup := by
  constructor
  · intro h
    exact List.dedup_eq_self.1 ((List.dedup_sublist rows).eq_of_length h)
  · intro h
    rw [List.dedup_eq_self.2 h]

/-! ### What the counting statement denotes -/

/-- No clause of the counting statement pages: it denotes how many rows meet its condition. -/
theorem number?_counting : db.number? c.counting = some (db.matching c.counting).length := by
  have hcolumns : c.counting.columns = ["COUNT(*)"] := rfl
  have hlimit : c.counting.limit = -1 := by
    rw [Clauses.counting]
    split <;> rfl
  have hoffset : c.counting.offset = 0 := by
    rw [Clauses.counting]
    split <;> rfl
  rw [number?, if_pos hcolumns, paged_eq_self hlimit hoffset]
  rfl

/-- A selection of distinct rows is kept whole, and its rows are counted. -/
theorem matching_counting_of_isDistinctSelection (h : c.isDistinctSelection = true)
    (hderived : db.ReadsDerived c.distinctRows) :
    db.matching c.counting = db.rows c.distinctRows := by
  have htarget : c.counting.target = c.distinctRows.derivedTable := by
    rw [Clauses.counting, if_pos h]
    rfl
  have hcondition : c.counting.condition = "" := by
    rw [Clauses.counting, if_pos h]
  rw [matching, htarget, hcondition, hderived]
  exact List.filter_eq_self.2 fun _ _ ↦ rfl

/-- Otherwise rows are counted where they come from. -/
theorem matching_counting (h : c.isDistinctSelection = false) :
    db.matching c.counting = db.matching c := by
  have hsame : c.counting.target = c.target ∧ c.counting.condition = c.condition := by
    rw [Clauses.counting, h]
    exact ⟨rfl, rfl⟩
  rw [matching, matching, hsame.1, hsame.2]

/-- Where columns are named, or rows need not be distinct, the counting statement denotes how many
rows the SELECT returns. -/
theorem number?_counting_of_columns (hderived : db.ReadsDerived c.distinctRows)
    (h : c.hasModifier distinctKeyword = true → c.columns ≠ []) :
    db.number? c.counting = some (db.rows c.unlimited).length := by
  rw [number?_counting]
  cases hdistinct : c.hasModifier distinctKeyword with
  | true =>
    have hselection : c.isDistinctSelection = true := by
      rw [Clauses.isDistinctSelection, hdistinct]
      simpa using h hdistinct
    rw [matching_counting_of_isDistinctSelection hselection hderived,
      length_rows_of_distinct rfl rfl rfl,
      length_rows_of_distinct (c := c.unlimited) rfl rfl hdistinct]
    rfl
  | false =>
    have hselection : c.isDistinctSelection = false := by
      rw [Clauses.isDistinctSelection, hdistinct]
      rfl
    rw [matching_counting hselection,
      length_rows_of_not_distinct (c := c.unlimited) rfl rfl hdistinct]
    rfl

/-- Where none is named, it denotes how many rows meet the condition, repetitions included. -/
theorem number?_counting_of_columns_eq_nil (h : c.columns = []) :
    db.number? c.counting = some (db.matching c).length := by
  have hselection : c.isDistinctSelection = false := by
    rw [Clauses.isDistinctSelection, h]
    exact Bool.and_false _
  rw [number?_counting, matching_counting hselection]

/-- So many rows are returned by the SELECT that need not be distinct. -/
theorem length_rows_toggle_distinct :
    (db.rows (c.toggle distinctKeyword false).unlimited).length = (db.matching c).length := by
  have hdistinct : (c.toggle distinctKeyword false).hasModifier distinctKeyword = false := by
    simp [Clauses.toggle, Clauses.hasModifier]
  exact length_rows_of_not_distinct (c := (c.toggle distinctKeyword false).unlimited) rfl rfl
    hdistinct

/-- **When the counting statement denotes how many rows the SELECT returns**: always, unless a
DISTINCT SELECT names no column and there are repetitions to be removed. -/
theorem length_rows_unlimited_eq_iff (hderived : db.ReadsDerived c.distinctRows) {n : Nat}
    (hn : db.number? c.counting = some n) :
    n = (db.rows c.unlimited).length ↔
      (c.hasModifier distinctKeyword = true → c.columns = [] → (db.matching c).Nodup) := by
  by_cases h : c.hasModifier distinctKeyword = true ∧ c.columns = []
  · obtain ⟨hdistinct, hcolumns⟩ := h
    rw [number?_counting_of_columns_eq_nil hcolumns, Option.some.injEq] at hn
    have hlength : (db.rows c.unlimited).length = (db.matching c).dedup.length := by
      rw [length_rows_of_distinct (c := c.unlimited) rfl rfl hdistinct]
      exact congrArg (·.dedup.length) (map_shown_of_columns_eq_nil hcolumns _)
    rw [← hn, hlength, eq_comm, length_dedup_eq_iff]
    exact ⟨fun h _ _ ↦ h, fun h ↦ h hdistinct hcolumns⟩
  · rw [number?_counting_of_columns hderived fun hdistinct hcolumns ↦ h ⟨hdistinct, hcolumns⟩,
      Option.some.injEq] at hn
    exact iff_of_true hn.symm fun hdistinct hcolumns ↦ absurd ⟨hdistinct, hcolumns⟩ h

end Database

/-! ### Built statements -/

namespace Builder

/-- **The counting statement counts what the SELECT returns.** Whatever is done with a builder of a
SELECT: the counting statement of what is built denotes a number. It is how many rows the SELECT
returns without limit and offset, unless the SELECT is DISTINCT, names no column and there are
repetitions among the rows; and where no column is named, it is how many rows the SELECT returns if
it need not be DISTINCT. -/
theorem counts_selected_rows (db : Database) (table : String) (alias? : Option String)
    (settings : Settings) (steps : List Step) :
    let b := (create .select table alias? settings).after steps
    let c := b.build.2.clauses
    db.ReadsDerived c.distinctRows →
      b.build.1 = c.assemble .select ∧ b.build.2.countSql? = some (c.counting.assemble .select) ∧
        (settings.foundRows = .query →
          b.build.2.pendingCount? = some (.counted (c.counting.assemble .select))) ∧
        ∃ n, db.number? c.counting = some n ∧
          (n = (db.rows c.unlimited).length ↔
            (c.hasModifier "DISTINCT" = true → c.columns = [] → (db.matching c).Nodup)) ∧
          (c.columns = [] → n = (db.rows (c.toggle "DISTINCT" false).unlimited).length) := by
  intro b c hderived
  have horigin : b.build.2.origin = (.select, effectiveAlias? .select alias?, settings) :=
    (build_origin b).trans (after_origin _ steps)
  have hkind : b.build.2.kind = .select := congrArg Prod.fst horigin
  refine ⟨build_after_eq_assemble rfl steps, ?_, ?_, ?_⟩
  · rw [countSql?, hkind]
    rfl
  · intro hmode
    have hquery : b.build.2.foundRowsMode = .query := by
      rw [foundRowsMode, show b.build.2.settings = settings from congrArg (·.2.2) horigin, hmode]
    exact pendingCount?_eq_some_iff.2 ⟨hkind, .inr ⟨hquery, rfl⟩⟩
  · refine ⟨_, Database.number?_counting,
      Database.length_rows_unlimited_eq_iff hderived Database.number?_counting, fun hcolumns ↦ ?_⟩
    have hn : db.number? c.counting = some (db.matching c).length :=
      Database.number?_counting_of_columns_eq_nil hcolumns
    rw [Database.number?_counting, Option.some.injEq] at hn
    exact hn.trans Database.length_rows_toggle_distinct.symm

/-- The names of three users, two of whom share one, page by page. -/
theorem counts_selected_rows_names :
    let settings : Settings := { foundRows := .query }
    let steps : List Step :=
      [.change [.select ["name"], .distinct true, .filter (.compare "age" .greater (.int 18)),
        .orderBy "name" .ascending, .limit 1, .offset 1], .build]
    let b := (create .select "users" none settings).after steps
    let c := b.build.2.clauses
    let users : List Row := [[.text "ada", .int 20], [.text "bob", .int 30], [.text "ada", .int 40],
      [.text "cid", .int 10]]
    let db : Database :=
      { source target := if target = "users" then users else [[.text "bob"], [.text "ada"]]
        meets _ row := match row with
          | [_, .int age] => 18 < age
          | _ => false
        fields _ row := row.take 1
        arrange _ rows := rows
        arrange_perm _ rows := .refl rows }
    db.ReadsDerived c.distinctRows ∧
      c.counting.assemble .select =
        "SELECT COUNT(*) FROM (SELECT DISTINCT name FROM users WHERE age > :p_0) AS counted" ∧
      (db.rows c).length = 1 ∧
      ∃ n, db.number? c.counting = some n ∧
        (n = (db.rows c.unlimited).length ↔
          (c.hasModifier "DISTINCT" = true → c.columns = [] → (db.matching c).Nodup)) := by
  intro settings steps b c users db
  have hderived : db.ReadsDerived c.distinctRows := by
    show db.source c.distinctRows.derivedTable = db.rows c.distinctRows
    decide +kernel
  obtain ⟨-, -, -, n, hn, hiff, -⟩ := counts_selected_rows db "users" none settings steps hderived
  exact ⟨hderived, by decide +kernel, by decide +kernel, n, hn, hiff⟩

/-- A DISTINCT SELECT of whole rows, of which one is there twice, returns one row and is counted as
returning two. -/
theorem counts_repeated_rows :
    let settings : Settings := { foundRows := .query }
    let b := (create .select "users" none settings).after [.change [.distinct true], .build]
    let c := b.build.2.clauses
    let db : Database :=
      { source _ := [[.int 1], [.int 1]]
        meets _ _ := true
        fields _ row := row
        arrange _ rows := rows
        arrange_perm _ rows := .refl rows }
    b.build.1 = "SELECT DISTINCT * FROM users" ∧
      b.build.2.countSql? = some "SELECT COUNT(*) FROM users" ∧
      db.number? c.counting = some 2 ∧ (db.rows c.unlimited).length = 1 := by
  decide +kernel

end Builder

end ParamSql
