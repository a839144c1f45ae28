import ParamSql.Error
import ParamSql.Settings.Basic
import ParamSql.Toml.Document

/-!
# Settings from TOML documents

Settings are read from the keys of the same names at the top of a document. A key that is missing
keeps its default and a key that is unknown is ignored, but a document is refused as a whole if any
part of it is malformed.
-/

namespace ParamSql

/-- The mode with a given name. -/
def FoundRowsMode.ofName? (name : String) : Option FoundRowsMode :=
  match name with
  | "none" => some .off
  | "calc" => some .calc
  | "query" => some .query
  | _ => none

namespace Settings

/-! ### Values of keys -/

/-- Whether a value is an array or a table with nothing in it. -/
def isEmptyContainer : Toml.Node → Bool
  | .array items => items.isEmpty
  | .table _ entries => entries.isEmpty
  | _ => false

/-- Reads a mode: its name, or a table in which its name is the only key and has nothing in it. -/
def modeOf? : Toml.Node → Option FoundRowsMode
  | .scalar (.text name) => FoundRowsMode.ofName? name
  | .table _ [(name, content)] =>
    if isEmptyContainer content then FoundRowsMode.ofName? name else none
  | _ => none

/-- Reads a truth value. -/
def boolOf? : Toml.Node → Option Bool
  | .scalar (.bool b) => some b
  | _ => none

/-- Reads a number of bytes, which sixty-four bits must hold. -/
def lengthOf? : Toml.Node → Option Nat
  | .scalar (.integer n) => if 0 ≤ n ∧ n.toNat < UInt64.size then some n.toNat else none
  | _ => none

/-! ### Documents -/

/-- Why a document holds no settings. -/
inductive ReadError
  /-- It is not a TOML document. -/
  | malformed
  /-- A key has a value of the wrong kind. -/
  | unsuitable (key : String)
deriving DecidableEq

/-- The text shown for a document without settings. -/
def ReadError.message : ReadError → String
  | malformed => "not a TOML document"
  | unsuitable key => "invalid value for " ++ key

/-- The value of a key if it is there, read in some way, and a default if it is not. -/
def field {α : Type} (entries : Toml.Entries) (key : String) (read? : Toml.Node → Option α)
    (default : α) : Except ReadError α :=
  match entries.lookup key with
  | none => .ok default
  | some node =>
    match read? node with
    | some a => .ok a
    | none => .error (.unsuitable key)

/-- The settings in a table. -/
def ofEntries (entries : Toml.Entries) : Except ReadError Settings := do
  let defaults : Settings := {}
  let foundRows ← field entries "found_rows" modeOf? defaults.foundRows
  let logSql ← field entries "log_sql" boolOf? defaults.logSql
  let logInlined ← field entries "log_inline_params" boolOf? defaults.logInlined
  let maxSqlLength? ←
    field entries "max_sql_length" (fun node ↦ (lengthOf? node).map some) defaults.maxSqlLength?
  return { foundRows, logSql, logInlined, maxSqlLength? }

/-- The settings in a document. -/
def ofToml (text : String) : Result Settings :=
  let read : Except ReadError Settings :=
    match Toml.ofText? text with
    | none => .error .malformed
    | some entries => ofEntries entries
  match read with
  | .ok settings => .ok settings
  | .error fault => .error (.settings fault.message)

end Settings

end ParamSql
