import Failover.Text.Numeral

/-! IPv4 addresses in hosts: up to four numbers, decimal, octal or hexadecimal, the last of which
fills all the places that are left. -/
namespace Failover.Ipv4

/-- One number: `0x` announces hexadecimal, another leading zero octal; the digits may be missing
after either. -/
def number? (cs : List Char) : Option Nat :=
  match cs with
  | [] => none
  | ['0'] => some 0
  | '0' :: c :: digits =>
    if c = 'x' ∨ c = 'X' then
      if digits.isEmpty then some 0 else Numeral.read? 16 digits
    else Numeral.read? 8 (c :: digits)
  | digits => Numeral.read? 10 digits

/-- The labels between the dots, without an empty one at the end. -/
def labels (cs : List Char) : List (List Char) :=
  let parts := cs.splitOn '.'
  if parts.getLast? = some [] then parts.dropLast else parts

/-- Whether a host has to be an address: its last label is a number. -/
def endsInNumber (cs : List Char) : Bool :=
  match (labels cs).getLast? with
  | none | some [] => false
  | some last => last.all (Numeral.isDigit 10) || (number? last).isSome

/-- The address with these numbers: all but the last are bytes, the last fills the rest. -/
def assemble? (numbers : List Nat) : Option Nat :=
  match numbers.reverse with
  | [] => none
  | last :: before =>
    let bytes := before.reverse
    if 4 ≤ bytes.length ∨ bytes.any (255 < ·) ∨ Nat.pow 256 (4 - bytes.length) ≤ last then none
    else some (bytes.foldl (· * 256 + ·) 0 * Nat.pow 256 (4 - bytes.length) + last)

/-- The address that a host spells. -/
def read? (cs : List Char) : Option Nat := do
  let numbers ← (labels cs).mapM number?
  assemble? numbers

/-- Four decimal bytes. -/
def text (address : Nat) : String :=
  ".".intercalate ([16777216, 65536, 256, 1].map fun place =>
    Numeral.decimal (address / place % 256))

end Failover.Ipv4
