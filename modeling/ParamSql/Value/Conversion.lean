import ParamSql.Calendar.Text
import ParamSql.Value.Basic

/-!
# Conversion to values

The types whose elements can be bound as they are. Narrow integers and floats are widened, a missing
element of an optional type is `null`, and dates travel as the text of a DATE or DATETIME literal, a
time with an offset as the time in UTC.
-/

namespace ParamSql

/-- Types that can be bound. -/
class ToValue (α : Type) where
  /-- The value that stands for an element. -/
  toValue : α → Value

export ToValue (toValue)

/-! ### Scalars -/

instance : ToValue Value :=
  ⟨id⟩

instance : ToValue Bool :=
  ⟨Value.bool⟩

instance : ToValue Int64 :=
  ⟨Value.int⟩

instance : ToValue Int32 :=
  ⟨fun i ↦ .int i.toInt64⟩

instance : ToValue Int16 :=
  ⟨fun i ↦ .int i.toInt64⟩

instance : ToValue Int8 :=
  ⟨fun i ↦ .int i.toInt64⟩

instance : ToValue UInt32 :=
  ⟨fun n ↦ .int (Int64.ofNat n.toNat)⟩

instance : ToValue UInt16 :=
  ⟨fun n ↦ .int (Int64.ofNat n.toNat)⟩

instance : ToValue UInt8 :=
  ⟨fun n ↦ .int (Int64.ofNat n.toNat)⟩

instance : ToValue Double :=
  ⟨Value.double⟩

instance : ToValue Single :=
  ⟨fun s ↦ .double s.toDouble⟩

instance : ToValue String :=
  ⟨Value.text⟩

instance {α : Type} [ToValue α] : ToValue (Option α) :=
  ⟨fun
    | none => .null
    | some a => toValue a⟩

/-! ### Dates and times -/

section Dates

variable (library : Calendar.Library)

/-- The value of a date, as a library writes it. -/
def Value.ofDate (d : Date) : Value :=
  .text (d.text library)

/-- The value of a time, as a library writes it. -/
def Value.ofDateTime (t : DateTime) : Value :=
  .text (t.text library)

/-- The value of a time with an offset: the value of the time that it is in UTC. -/
def Value.ofOffsetDateTime (t : OffsetDateTime) : Value :=
  ofDateTime library (library.toUtc t)

end Dates

instance : ToValue Date :=
  ⟨Value.ofDate .standard⟩

instance : ToValue DateTime :=
  ⟨Value.ofDateTime .standard⟩

instance : ToValue OffsetDateTime :=
  ⟨Value.ofOffsetDateTime .standard⟩

end ParamSql
