import ParamSql.Toml.Scalar

/-!
# Tables of TOML documents

A table can come into being in four ways, and which one it was decides who may add to it later. A
header defines a table, and names tables on the way to it that are thereby implied; a dotted key
makes tables that further dotted keys may add to; a table between braces is complete where it
stands.

Additions are functions from a table to the table after them, or to nothing if they are not allowed.
-/

namespace ParamSql.Toml

/-- How a table came into being. -/
inductive Origin
  /-- A header with its name. -/
  | header
  /-- A longer header. -/
  | implied
  /-- A dotted key. -/
  | dotted
  /-- Braces. -/
  | inline
deriving DecidableEq

/-- A value of a document. -/
inductive Node
  /-- A value that is not made of others. -/
  | scalar (value : Scalar)
  /-- An array between brackets. -/
  | array (items : List Node)
  /-- A table. -/
  | table (origin : Origin) (entries : List (String × Node))
  /-- An array of tables that were defined by headers. -/
  | tables (items : List (List (String × Node)))
deriving Inhabited

/-- The entries of a table: keys with values, in order. -/
abbrev Entries :=
  List (String × Node)

namespace Entries

/-- Replaces the value of a key, or adds the key at the end. -/
def put (key : String) (node : Node) : Entries → Entries
  | [] => [(key, node)]
  | (k, n) :: rest => if k = key then (k, node) :: rest else (k, n) :: put key node rest

/-- Replaces what a key has by what `change` makes of it. -/
def alter (entries : Entries) (key : String) (change : Option Node → Option Node) :
    Option Entries :=
  (change (entries.lookup key)).map fun node ↦ put key node entries

end Entries

/-- Changes the last of a list of tables. -/
def changeLast (change : Entries → Option Entries) : List Entries → Option (List Entries)
  | [] => none
  | [last] => (change last).map ([·])
  | first :: rest => (changeLast change rest).map (first :: ·)

/-! ### Headers -/

/-- What a header on the way to a table does to what a key has: it goes into the table, or into the
last one of an array of tables. A table between braces cannot be gone into. -/
def descend (change : Entries → Option Entries) : Option Node → Option Node
  | none => (change []).map (Node.table .implied)
  | some (.table .inline _) => none
  | some (.table origin entries) => (change entries).map (Node.table origin)
  | some (.tables items) => (changeLast change items).map Node.tables
  | some _ => none

/-- Changes the table at the end of a path of keys. -/
def changeAt (change : Entries → Option Entries) : (path : List String) → Entries → Option Entries
  | [], entries => change entries
  | key :: rest, entries => entries.alter key (descend (changeAt change rest))

/-- What a header makes of what its last key has: a new table, or the table that was implied. -/
def define : Option Node → Option Node
  | none => some (.table .header [])
  | some (.table .implied entries) => some (.table .header entries)
  | some _ => none

/-- What a header between double brackets makes of what its last key has: one table more. -/
def defineNext : Option Node → Option Node
  | none => some (.tables [[]])
  | some (.tables items) => some (.tables (items ++ [[]]))
  | some _ => none

/-! ### Dotted keys -/

/-- Adds a value under a dotted key. A key that is taken is not overwritten, and only tables that
were not defined by a header of their own are added to; `extendable` says whether that holds of the
table at hand. -/
def insert (value : Node) : (extendable : Bool) → (path : List String) → Entries → Option Entries
  | _, [], _ => none
  | extendable, [key], entries =>
    if extendable && (entries.lookup key).isNone then some (entries ++ [(key, value)]) else none
  | _, key :: rest, entries =>
    entries.alter key fun
      | none => (insert value true rest []).map (Node.table .dotted)
      | some (.table .dotted entries) => (insert value true rest entries).map (Node.table .dotted)
      | some (.table .implied entries) =>
        (insert value false rest entries).map (Node.table .implied)
      | some (.tables items) => (changeLast (insert value false rest) items).map Node.tables
      | some _ => none

/-- Adds a value under a dotted key to the table where the key stands. -/
def insertHere (path : List String) (value : Node) (entries : Entries) : Option Entries :=
  insert value true path entries

end ParamSql.Toml
