import BenchRelay.Toml.Value

/-!
# Building tables

Keys and headers build one tree of tables, and say more than once where something belongs but only
once what it is. A table keeps where it comes from: a header of its own, a header that only passes
through it, or a dotted key. A header may fill in a table that others only passed through. A dotted
key may add to tables that dotted keys made. Nothing may be added to a finished value.
-/

namespace BenchRelay.Toml

/-- Where a table that is being built comes from. -/
inductive Origin where
  /-- A header names it. -/
  | header
  /-- A header passes through it. -/
  | passage
  /-- A dotted key passes through it. -/
  | dotted
  deriving Repr, DecidableEq

/-- What a key leads to while tables are being built. -/
inductive Node where
  /-- A finished value. -/
  | value (value : Value)
  /-- A table. -/
  | table (origin : Origin) (entries : List (Text × Node))
  /-- An array of tables from headers, the last one first. -/
  | tables (items : List (List (Text × Node)))

/-- The entries of a table that is being built. -/
abbrev Entries := List (Text × Node)

/-- A key with the keys that lead to its table. -/
structure Path where
  parents : List Text
  key : Text
  deriving Repr, DecidableEq

namespace Entries

/-- Change what a key leads to, or fail. -/
def alter? (key : Text) (change : Option Node → Option Node) : Entries → Option Entries
  | [] => (change none).map fun node => [(key, node)]
  | (k, node) :: rest =>
    if k = key then (change (some node)).map fun node => (k, node) :: rest
    else (alter? key change rest).map ((k, node) :: ·)

/-- Add an entry under a new key. -/
def insert? (key : Text) (value : Value) : Entries → Option Entries :=
  alter? key fun
    | none => some (.value value)
    | some _ => none

/-- Add an entry in a table that keys lead to. -/
def insertUnder? (key : Text) (value : Value) : (parents : List Text) → Entries → Option Entries
  | [], entries => insert? key value entries
  | parent :: parents, entries =>
    alter? parent (fun
      | none => (insertUnder? key value parents []).map (.table .dotted)
      | some (.table .header _) => none
      | some (.table .passage inner) =>
        if parents.isEmpty then none
        else (insertUnder? key value parents inner).map (.table .passage)
      | some (.table .dotted inner) => (insertUnder? key value parents inner).map (.table .dotted)
      | some (.tables (last :: earlier)) =>
        if parents.isEmpty then none
        else (insertUnder? key value parents last).map fun last => .tables (last :: earlier)
      | some (.tables []) => none
      | some (.value _) => none) entries

/-- Add an entry by its path. -/
def insertPath? (path : Path) (value : Value) (entries : Entries) : Option Entries :=
  insertUnder? path.key value path.parents entries

/-- Change what a header leads to, making the tables on the way. -/
def atHeader? (key : Text) (change : Option Node → Option Node) :
    (parents : List Text) → Entries → Option Entries
  | [], entries => alter? key change entries
  | parent :: parents, entries =>
    alter? parent (fun
      | none => (atHeader? key change parents []).map (.table .passage)
      | some (.table origin inner) => (atHeader? key change parents inner).map (.table origin)
      | some (.tables (last :: earlier)) =>
        (atHeader? key change parents last).map fun last => .tables (last :: earlier)
      | some (.tables []) => none
      | some (.value _) => none) entries

/-- Begin the table of a header: a new one, or one that was only passed through. -/
def openTable? (path : Path) (entries : Entries) : Option Entries :=
  atHeader? path.key (fun
    | none => some (.table .header [])
    | some (.table .passage inner) => some (.table .header inner)
    | some _ => none) path.parents entries

/-- Begin one more table in the array of a header. -/
def openItem? (path : Path) (entries : Entries) : Option Entries :=
  atHeader? path.key (fun
    | none => some (.tables [[]])
    | some (.tables items) => some (.tables ([] :: items))
    | some _ => none) path.parents entries

/-- Add an entry by its path from the table that the last header began. -/
def insertAt? (header path : Path) (value : Value) (entries : Entries) : Option Entries :=
  atHeader? header.key (fun
    | some (.table origin inner) => (insertPath? path value inner).map (.table origin)
    | some (.tables (last :: earlier)) =>
      (insertPath? path value last).map fun last => .tables (last :: earlier)
    | _ => none) header.parents entries

end Entries

mutual

/-- The value of a node that is finished. -/
def Node.toValue : Node → Value
  | .value value => value
  | .table _ entries => .table (entriesToValues entries)
  | .tables items => .array (itemsToValues items).reverse

/-- The values of finished entries. -/
def entriesToValues : Entries → List (Text × Value)
  | [] => []
  | (key, node) :: entries => (key, node.toValue) :: entriesToValues entries

/-- The values of finished tables. -/
def itemsToValues : List (List (Text × Node)) → List Value
  | [] => []
  | entries :: items => .table (entriesToValues entries) :: itemsToValues items

end

/-- One statement of a document. -/
inductive Statement where
  /-- The entry of a key. -/
  | entry (path : Path) (value : Value)
  /-- A header that begins a table. -/
  | header (path : Path)
  /-- A header that begins one more table of an array. -/
  | itemHeader (path : Path)

/-- Carry out statements in order, under the header in force. -/
def buildFrom (header : Option Path) (entries : Entries) : List Statement → Option Entries
  | [] => some entries
  | .header path :: rest => do buildFrom (some path) (← entries.openTable? path) rest
  | .itemHeader path :: rest => do buildFrom (some path) (← entries.openItem? path) rest
  | .entry path value :: rest => do
    let entries ← match header with
      | none => entries.insertPath? path value
      | some header => entries.insertAt? header path value
    buildFrom header entries rest

/-- The table that the statements of a document make. -/
def build? (statements : List Statement) : Option (List (Text × Value)) :=
  (buildFrom none [] statements).map entriesToValues

end BenchRelay.Toml
