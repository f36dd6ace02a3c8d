/-! Numerals: digits in bases up to sixteen, the number a run of digits stands for, and the digits
of a number. A run is read left to right; signs, points and separators belong to its callers. -/
namespace Failover.Numeral

/-- The value of a digit; letters of either case stand for ten to fifteen. -/
def digit? (c : Char) : Option Nat :=
  if '0' ≤ c ∧ c ≤ '9' then some (c.toNat - '0'.toNat)
  else if 'a' ≤ c ∧ c ≤ 'f' then some (c.toNat - 'a'.toNat + 10)
  else if 'A' ≤ c ∧ c ≤ 'F' then some (c.toNat - 'A'.toNat + 10)
  else none

/-- Whether `c` is a digit below `base`. -/
def isDigit (base : Nat) (c : Char) : Bool :=
  match digit? c with
  | some d => d < base
  | none => false

/-- The number written by `cs`; a character that is no digit counts as zero. -/
def value (base : Nat) (cs : List Char) : Nat :=
  cs.foldl (fun n c => n * base + (digit? c).getD 0) 0

/-- The number written by `cs`, if `cs` is a non-empty run of digits below `base`. -/
def read? (base : Nat) (cs : List Char) : Option Nat :=
  if !cs.isEmpty && cs.all (isDigit base) then some (value base cs) else none

/-- The decimal digits of a number. -/
def decimal (n : Nat) : String := toString n

/-- `n` in decimal with zeros in front up to `width` digits. -/
def padded (width n : Nat) : String :=
  let text := decimal n
  String.ofList (List.replicate (width - text.length) '0') ++ text

/-- The lower-case hexadecimal digits of a number. -/
def hexadecimal (n : Nat) : String := String.ofList (Nat.toDigits 16 n)

/-- The upper-case digit of a value below sixteen. -/
def upperHex (n : Nat) : Char :=
  if n < 10 then Char.ofNat ('0'.toNat + n) else Char.ofNat ('A'.toNat + (n - 10))

/-- One more digit at the end shifts the number by one place. -/
theorem value_concat (base : Nat) (cs : List Char) (c : Char) :
    value base (cs ++ [c]) = value base cs * base + (digit? c).getD 0 := by
  simp [value, List.foldl_append]

end Failover.Numeral
