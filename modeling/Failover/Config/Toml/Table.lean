import Failover.Config.Document

/-! The tables of a TOML file while it is read. How a table came about decides what may still be
added to it: each table is defined once, by a header, by dotted keys or in one line. -/
namespace Failover.Toml

/-- How a table came about: under a header of its own, on the way to another header, or on the way
to a dotted key. -/
inductive TableKind where
  | header
  | implied
  | dotted
  deriving DecidableEq, Repr

/-- What a key stands for. The last of several tables under one key is the one that is open. -/
inductive Node where
  | value (d : Document)
  | table (kind : TableKind) (entries : List (String × Node))
  | tables (items : List (List (String × Node)))

abbrev Entries := List (String × Node)

namespace Entries

/-- The entries with the node of a key replaced or added, or nothing if `f` refuses. -/
def alter (key : String) (f : Option Node → Option Node) : Entries → Option Entries
  | [] => (f none).map fun n => [(key, n)]
  | (k, n) :: rest =>
    if k = key then (f (some n)).map fun n => (k, n) :: rest
    else (alter key f rest).map ((k, n) :: ·)

/-- The last of some tables changed by `f`. -/
def alterLast (f : Entries → Option Entries) : List Entries → Option (List Entries)
  | [] => none
  | [last] => (f last).map ([·])
  | first :: rest => (alterLast f rest).map (first :: ·)

/-- The entries with the table at the end of `path` changed by `f`, which is told how that table
came about. Tables on the way are made where there are none; dotted keys do not go through tables
with a header. -/
def within (kind : TableKind) (f : TableKind → Entries → Option Entries) :
    List String → TableKind → Entries → Option Entries
  | [], here, entries => f here entries
  | key :: path, _, entries =>
    entries.alter key fun
      | none => (within kind f path kind []).map (.table kind)
      | some (.value _) => none
      | some (.tables items) => (alterLast (within kind f path .header) items).map .tables
      | some (.table found inner) =>
        if kind = .dotted ∧ found = .header then none
        else (within kind f path found inner).map (.table found)

/-- Adds a value under a key, dotted if it has several parts, to a table. -/
def add (path : List String) (key : String) (d : Document) (here : TableKind)
    (entries : Entries) : Option Entries :=
  within .dotted (fun found inner =>
    if (found = .dotted) = path.isEmpty then none
    else inner.alter key fun
      | none => some (.value d)
      | some _ => none) path here entries

/-- Opens a table under a header. -/
def openTable (path : List String) (key : String) (entries : Entries) : Option Entries :=
  within .implied (fun _ inner => inner.alter key fun
    | none => some (.table .header [])
    | some (.table .implied found) => some (.table .header found)
    | some _ => none) path .header entries

/-- Opens one more of several tables under a header. -/
def openItem (path : List String) (key : String) (entries : Entries) : Option Entries :=
  within .implied (fun _ inner => inner.alter key fun
    | none => some (.tables [[]])
    | some (.tables items) => some (.tables (items ++ [[]]))
    | some _ => none) path .header entries

end Entries

mutual

/-- What a node holds. -/
def Node.document : Node → Document
  | .value d => d
  | .table _ entries => .table (documents entries)
  | .tables items => .list (tableDocuments items)

/-- What the nodes of a table hold. -/
def documents : List (String × Node) → List (String × Document)
  | [] => []
  | (key, node) :: rest => (key, node.document) :: documents rest

def tableDocuments : List (List (String × Node)) → List Document
  | [] => []
  | entries :: rest => .table (documents entries) :: tableDocuments rest

end

end Failover.Toml
