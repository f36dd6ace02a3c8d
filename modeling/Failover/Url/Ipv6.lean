import Failover.Text.Numeral

/-! IPv6 addresses in hosts: eight groups of sixteen bits in hexadecimal, one run of zero groups
written as two colons, and an IPv4 address allowed in the place of the last two. -/
namespace Failover.Ipv6

/-- A byte of an embedded IPv4 address: decimal, without leading zeros. -/
def byte? (cs : List Char) : Option Nat :=
  if 1 < cs.length ∧ cs.head? = some '0' then none
  else do
    let n ← Numeral.read? 10 cs
    if n ≤ 255 then some n else none

/-- The two groups of an embedded IPv4 address. -/
def embedded? (cs : List Char) : Option (List Nat) := do
  match ← (cs.splitOn '.').mapM byte? with
  | [a, b, c, d] => some [a * 256 + b, c * 256 + d]
  | _ => none

/-- A group of up to four digits. -/
def group? (cs : List Char) : Option Nat :=
  if cs.length ≤ 4 then Numeral.read? 16 cs else none

/-- The groups between single colons; none at all for no text. The last one may be an IPv4 address
where `tail` allows it. -/
def groups? (tail : Bool) (cs : List Char) : Option (List Nat) :=
  if cs.isEmpty then some []
  else
    let parts := cs.splitOn ':'
    let last := parts.getLast?.getD []
    if tail && last.contains '.' then do
      let front ← parts.dropLast.mapM group?
      let back ← embedded? last
      some (front ++ back)
    else parts.mapM group?

/-- The text before and after the first two colons in a row, if there are any. -/
def splitDouble : List Char → List Char → Option (List Char × List Char)
  | before, ':' :: ':' :: after => some (before.reverse, after)
  | before, c :: rest => splitDouble (c :: before) rest
  | _, [] => none

/-- The eight groups that a text spells. -/
def read? (cs : List Char) : Option (List Nat) :=
  match splitDouble [] cs with
  | none => do
    let groups ← groups? true cs
    if groups.length = 8 then some groups else none
  | some (before, after) => do
    let front ← groups? false before
    let back ← groups? true after
    if front.length + back.length ≤ 7 then
      some (front ++ List.replicate (8 - front.length - back.length) 0 ++ back)
    else none

/-- The length of the run of zeros at the start. -/
def zeros (groups : List Nat) : Nat := (groups.takeWhile (· == 0)).length

/-- Where the longest run of at least two zeros starts and how long it is; the first of equals. -/
def gap? (groups : List Nat) : Option (Nat × Nat) :=
  let runs := (List.range groups.length).map fun i => (i, zeros (groups.drop i))
  runs.foldl (fun best run =>
    if 2 ≤ run.2 ∧ (best.map (·.2)).getD 1 < run.2 then some run else best) none

/-- The groups in lower-case hexadecimal with the longest run of zeros left out. -/
def text (groups : List Nat) : String :=
  let joined (gs : List Nat) : String := ":".intercalate (gs.map Numeral.hexadecimal)
  match gap? groups with
  | none => joined groups
  | some (start, count) =>
    joined (groups.take start) ++ "::" ++ joined (groups.drop (start + count))

end Failover.Ipv6
