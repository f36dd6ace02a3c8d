import Failover.Text.Numeral

/-! A property of the characters from some first one on, written as runs: how many characters, and
the value that they share. A table is a text of words, each word one run. -/
namespace Failover.Runs

/-- The words of a table. -/
def words (table : String) : List (List Char) :=
  (table.toList.splitOnP fun c => c == ' ' || c == '\n').filter (!·.isEmpty)

/-- A number of a table, in base sixteen. -/
def number (cs : List Char) : Nat := Numeral.value 16 cs

variable {α : Type}

/-- Where place `k` falls: how far into its run, and the value there. -/
def find? : List (Nat × α) → Nat → Option (Nat × α)
  | [], _ => none
  | (n, a) :: rest, k => if k < n then some (k, a) else find? rest (k - n)

/-- The value at a place, or a default behind the last run. -/
def valueAt (default : α) (runs : List (Nat × α)) (k : Nat) : α :=
  ((find? runs k).map Prod.snd).getD default

end Failover.Runs
