import Failover.Config.Toml.Scalar
import Failover.Config.Toml.Table

/-! Reading a TOML file: values, which may hold values to a limited depth, and the lines of the
file, each of which is empty, opens a table or gives a key its value. -/
namespace Failover.Toml

/-- How deep values may stand in each other, and the most dots of a key and one more. -/
def depthLimit : Nat := 79

/-- The values up to the bracket that closes a list; there may be a comma behind the last. -/
def items (value? : List Char → Option (Reading Document)) :
    Nat → List Char → Option (Reading (List Document))
  | 0, _ => none
  | fuel + 1, cs => do
    let cs ← gap? false cs
    match cs with
    | ']' :: rest => some ([], rest)
    | _ =>
      let (d, rest) ← value? cs
      match ← gap? false rest with
      | ',' :: rest => (items value? fuel rest).map fun (ds, left) => (d :: ds, left)
      | ']' :: rest => some ([d], rest)
      | _ => none

/-- A key and its value. -/
def pair? (value? : List Char → Option (Reading Document)) (cs : List Char) :
    Option (Reading (List String × Document)) := do
  let (key, rest) ← key? (depthLimit - 1) cs
  match rest with
  | '=' :: rest =>
    let (d, rest) ← value? (blanks rest)
    some ((key, d), rest)
  | _ => none

/-- The entries with one more pair in a table that came about as `here` says. -/
def insert? (here : TableKind) (entries : Entries) (key : List String) (d : Document) :
    Option Entries := do
  Entries.add key.dropLast (← key.getLast?) d here entries

/-- The pairs up to the brace that closes a table on one line. -/
def pairs (value? : List Char → Option (Reading Document)) :
    Nat → Entries → List Char → Option (Reading Entries)
  | 0, _, _ => none
  | fuel + 1, entries, cs => do
    let ((key, d), rest) ← pair? value? cs
    let entries ← insert? .header entries key d
    match blanks rest with
    | ',' :: rest => pairs value? fuel entries rest
    | '}' :: rest => some (entries, rest)
    | _ => none

/-- A value that holds values to a depth. -/
def value? : Nat → List Char → Option (Reading Document)
  | depth, cs =>
    match cs with
    | [] => none
    | c :: rest =>
      if c = '"' ∨ c = '\'' then (string? cs).map fun (s, left) => (.text s, left)
      else if c = '[' then
        match depth with
        | 0 => none
        | depth + 1 => (items (value? depth) cs.length rest).map fun (ds, left) => (.list ds, left)
      else if c = '{' then
        match depth with
        | 0 => none
        | depth + 1 =>
          match blanks rest with
          | '}' :: left => some (.table [], left)
          | inside =>
            (pairs (value? depth) cs.length [] inside).map fun (entries, left) =>
              (.table (documents entries), left)
      else if c = 't' ∨ c = 'f' then flag? cs
      else number? cs

/-- The file so far: its tables, and the table that is open: the way to it and its key. -/
structure Open where
  root : Entries
  current : Option (List String × String)

/-- The file after a key and its value in the table that is open. -/
def Open.assign (o : Open) (key : List String) (d : Document) : Option Open := do
  match o.current with
  | none => some { o with root := ← insert? .header o.root key d }
  | some (path, name) =>
    let root ← Entries.within .implied (fun here entries => insert? here entries key d)
      (path ++ [name]) .header o.root
    some { o with root }

/-- The file after one line, and the lines left. -/
def line? (o : Open) (cs : List Char) : Option (Open × List Char) := do
  match cs with
  | '[' :: '[' :: rest =>
    let (key, rest) ← key? (depthLimit - 1) rest
    let rest ← closeLine? (← word? [']', ']'] rest)
    let name ← key.getLast?
    some (⟨← o.root.openItem key.dropLast name, some (key.dropLast, name)⟩, rest)
  | '[' :: rest =>
    let (key, rest) ← key? (depthLimit - 1) rest
    let rest ← closeLine? (← word? [']'] rest)
    let name ← key.getLast?
    some (⟨← o.root.openTable key.dropLast name, some (key.dropLast, name)⟩, rest)
  | _ =>
    match closeLine? cs with
    | some rest => some (o, rest)
    | none =>
      let ((key, d), rest) ← pair? (value? depthLimit) cs
      some (← o.assign key d, ← closeLine? rest)

/-- The file after all lines; every line takes a character at least. -/
def lines? : Nat → Open → List Char → Option Open
  | _, o, [] => some o
  | 0, _, _ => none
  | fuel + 1, o, cs => do
    let (o, rest) ← line? o (blanks cs)
    lines? fuel o rest

/-- The document that a file holds. A mark of the byte order at its start is no part of it. -/
def read? (text : String) : Option Document := do
  let cs := match text.toList with
    | '\uFEFF' :: rest => rest
    | cs => cs
  let o ← lines? (cs.length + 1) ⟨[], none⟩ cs
  some (.table (documents o.root))

end Failover.Toml
