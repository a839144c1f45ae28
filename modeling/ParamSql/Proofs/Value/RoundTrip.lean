import ParamSql.Proofs.Json.Library
import ParamSql.Value.Json

/-!
# Values read back from JSON

A value is written without a tag that says of which kind it is, and yet it is read back as it was,
of its kind and with its payload, by both readings (`reads_what_was_written`). There is one document
that its text stands for (`Lawful.read?_write`): a string, a number that is marked as a double or
one that is not, a word for each of the others. No kind that is tried before the right one can be
read from this document.

All this is said of every JSON library of which no more is expected than `Json.Library.Lawful` says.
What is read of a double, for one, is only known to be a number that comes to the same double; that
it is no integer follows from the point or the power of ten in its text.
-/

namespace ParamSql

namespace Value

/-- There is a JSON text for the value: it is no double that is infinite or not a number. -/
def HasJson : Value → Prop
  | double d => d.isFinite = true
  | null | bool _ | int _ | text _ => True

/-- The document that a value is written as. -/
def document : Value → Json
  | null => .null
  | bool b => .bool b
  | int i => .integer i.toInt
  | double d => .double d
  | text s => .string s

end Value

/-- A number that is no integer is the double that it comes to. -/
theorem Json.eq_double_of_number? {json : Json} {d : Double} (h : json.number? = some d)
    (hinteger : ∀ n, json ≠ .integer n) : json = .double d := by
  cases json with
  | integer n => exact absurd rfl (hinteger n)
  | double e => exact congrArg Json.double (Option.some.inj h)
  | null | bool | string | array | object => cases h

/-- **The text of a value is one document.** -/
theorem Json.Library.Lawful.read?_write {library : Json.Library} (h : library.Lawful) {v : Value}
    (hv : v.HasJson) : library.read? (v.write library).toList = some (v.document, []) := by
  cases v with
  | null => exact h.read_null
  | bool b =>
    cases b with
    | false => exact h.read_false
    | true => exact h.read_true
  | int i => exact h.read_integer i
  | double d =>
    obtain ⟨json, hread, hnumber⟩ := h.read_double d hv
    obtain rfl : json = .double d := Json.eq_double_of_number? hnumber fun n hinteger ↦
      h.not_isMarked _ n (hinteger ▸ hread) (h.isMarked_double d hv)
    exact hread
  | text s => exact h.read_string s

namespace Value

/-- The integer that is read is the one that was written. -/
theorem toInt64?_toInt (i : Int64) : toInt64? i.toInt = some i := by
  rw [toInt64?, if_pos ⟨i.minValue_le_toInt, i.toInt_le⟩, Int64.ofInt_toInt]

/-- No kind that is tried before the right one can be read from the document. -/
theorem ofUntagged?_document (v : Value) : ofUntagged? v.document = some v := by
  cases v with
  | null | bool | double | text => rfl
  | int i =>
    have hint : intOf? (.integer i.toInt) = some (int i) := by
      rw [intOf?, toInt64?_toInt]
      rfl
    simp only [document, ofUntagged?, List.findSome?_cons, nullOf?, boolOf?, hint]

theorem ofJson_document (v : Value) : ofJson v.document = .ok v := by
  cases v with
  | null | bool | double | text => rfl
  | int i => rw [document, ofJson, toInt64?_toInt]

theorem read_write {library : Json.Library} (h : library.Lawful) {v : Value} (hv : v.HasJson) :
    read library (v.write library) = .ok v := by
  rw [read, h.read?_write hv]
  dsimp only
  rw [ofUntagged?_document, h.isEnd_nil]
  rfl

/-- **A value is read back as it was written**, of the same kind and with the same payload, whether
its text is read at once or as a document that is converted; so no two values share a text. -/
theorem reads_what_was_written (library : Json.Library) (h : library.Lawful) (v : Value)
    (hv : v.HasJson) :
    read library (v.write library) = .ok v ∧
      (library.document? (v.write library)).map ofJson = some (.ok v) ∧
      ∀ w : Value, w.HasJson → w.write library = v.write library → w = v := by
  refine ⟨read_write h hv, ?_, fun w hw htext ↦ ?_⟩
  · have hdocument : library.document? (v.write library) = some v.document := by
      rw [Json.Library.document?, h.read?_write hv]
      simp [h.isEnd_nil]
    rw [hdocument, Option.map_some, ofJson_document]
  · exact Except.ok.inj ((read_write h hw).symm.trans (htext ▸ read_write h hv))

/-- The double one is written with a point, the integer without. -/
theorem reads_what_was_written_one :
    Json.Library.standard.Lawful ∧
      HasJson (double ⟨0x3ff0000000000000⟩) ∧ json (double ⟨0x3ff0000000000000⟩) = "1.0" ∧
      json (int 1) = "1" ∧ ofText "1.0" = .ok (double ⟨0x3ff0000000000000⟩) ∧
      (Json.Library.standard.document? "1.0").map ofJson =
        some (.ok (double ⟨0x3ff0000000000000⟩)) := by
  have hjson : json (double ⟨0x3ff0000000000000⟩) = "1.0" := by decide +kernel
  have hfinite : HasJson (double ⟨0x3ff0000000000000⟩) := by
    rw [HasJson]
    decide
  obtain ⟨htext, hdocument, -⟩ :=
    reads_what_was_written .standard Json.Library.lawful_standard _ hfinite
  rw [← json, hjson] at htext hdocument
  exact ⟨Json.Library.lawful_standard, hfinite, hjson, by decide, htext, hdocument⟩

end Value

end ParamSql
