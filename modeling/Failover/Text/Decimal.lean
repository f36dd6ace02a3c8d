import Failover.Text.Numeral

/-! Binary64 numbers and decimal text. Reading rounds to the nearest double, a tie to the even one;
writing gives the fewest digits that read back, in positional notation. -/
namespace Failover

/-- A decimal number: the sign, a whole number of units, and the power of ten of one unit. -/
structure Decimal where
  negative : Bool
  units : Nat
  power : Int
  deriving DecidableEq, Repr

namespace Decimal

/-- The nearest double. Powers of ten far beyond the range of doubles are decided by size alone. -/
def toFloat (d : Decimal) : Float :=
  let size : Int := (Numeral.decimal d.units).length + d.power
  let magnitude : Float :=
    if d.units = 0 ∨ size < -400 then 0.0
    else if 400 < size then Float.ofBits 0x7FF0000000000000
    else Float.ofScientific d.units (d.power < 0) d.power.natAbs
  if d.negative then -magnitude else magnitude

/-- Splits off an optional sign; true is minus. -/
def sign : List Char → Bool × List Char
  | '-' :: cs => (true, cs)
  | '+' :: cs => (false, cs)
  | cs => (false, cs)

/-- The exponent part: nothing, or `e` or `E` with an optional sign and digits. -/
def exponent? : List Char → Option Int
  | [] => some 0
  | c :: cs =>
    if c = 'e' ∨ c = 'E' then
      let (negative, digits) := sign cs
      (Numeral.read? 10 digits).map fun n => if negative then -(n : Int) else n
    else none

/-- An unsigned number: digits with an optional point before, among or after them, at least one
digit in all, and an optional exponent. -/
def unsigned? (negative : Bool) (cs : List Char) : Option Decimal := do
  let whole := cs.takeWhile (Numeral.isDigit 10)
  let rest := cs.dropWhile (Numeral.isDigit 10)
  let (part, rest) := match rest with
    | '.' :: more => (more.takeWhile (Numeral.isDigit 10), more.dropWhile (Numeral.isDigit 10))
    | _ => ([], rest)
  if whole.isEmpty && part.isEmpty then none
  let e ← exponent? rest
  some ⟨negative, Numeral.value 10 (whole ++ part), e - part.length⟩

end Decimal

namespace Binary64

def infinity : Float := Float.ofBits 0x7FF0000000000000

def nan : Float := Float.ofBits 0x7FF8000000000000

/-- Reads a number, or `inf`, `infinity` or `nan` in any case, with an optional sign. -/
def read? (text : String) : Option Float :=
  let (negative, cs) := Decimal.sign text.toList
  let word := String.ofList (cs.map Char.toLower)
  if word = "inf" ∨ word = "infinity" then some (if negative then -infinity else infinity)
  else if word = "nan" then some nan
  else (Decimal.unsigned? negative cs).map Decimal.toFloat

/-- The significand and the power of two of the double with these bits, the sign left out. -/
def parts (bits : UInt64) : Nat × Int :=
  let field : Nat := (bits.toNat / 4503599627370496) % 2048
  let tail : Nat := bits.toNat % 4503599627370496
  if field = 0 then (tail, -1074) else (4503599627370496 + tail, (field : Int) - 1075)

/-- The numbers that round to the double `m * 2 ^ q`: four times its value, and how far below and
above it they reach, all over one denominator. -/
structure Neighbourhood where
  centre : Nat
  below : Nat
  above : Nat
  denominator : Nat
  closed : Bool

def neighbourhood (m : Nat) (q : Int) : Neighbourhood :=
  let unit := Nat.pow 2 q.toNat
  { centre := 4 * m * unit
    below := if m = 4503599627370496 ∧ -1074 < q then unit else 2 * unit
    above := 2 * unit
    denominator := 4 * Nat.pow 2 (-q).toNat
    closed := m % 2 = 0 }

/-- Whether `n * 10 ^ k` rounds to the double at the centre. -/
def Neighbourhood.holds (v : Neighbourhood) (n : Nat) (k : Int) : Bool :=
  let x := n * Nat.pow 10 k.toNat * v.denominator
  let scale := Nat.pow 10 (-k).toNat
  let low := (v.centre - v.below) * scale
  let high := (v.centre + v.above) * scale
  if v.closed then low ≤ x && x ≤ high else low < x && x < high

/-- The power of ten of the first digit of the centre. -/
def Neighbourhood.leading (v : Neighbourhood) : Int :=
  if v.denominator ≤ v.centre then
    (Numeral.decimal (v.centre / v.denominator)).length - 1
  else
    let zeros := (Numeral.decimal (v.denominator / v.centre)).length - 1
    if v.denominator ≤ v.centre * Nat.pow 10 zeros then -(zeros : Int) else -(zeros : Int) - 1

/-- The nearer of the two multiples of `10 ^ k` around the centre that rounds to it, if one does; at
the same distance the even one. -/
def Neighbourhood.onGrid (v : Neighbourhood) (k : Int) : Option Nat :=
  let top := v.centre * Nat.pow 10 (-k).toNat
  let bottom := v.denominator * Nat.pow 10 k.toNat
  let n := top / bottom
  let rest := top % bottom
  let upper := bottom < 2 * rest ∨ (bottom = 2 * rest ∧ n % 2 = 1)
  let (near, far) := if upper then (n + 1, n) else (n, n + 1)
  if v.holds near k then some near else if v.holds far k then some far else none

/-- The fewest significant digits that read back as `m * 2 ^ q`, and the power of ten of the last
of them. Seventeen digits always do. -/
def shortest (m : Nat) (q : Int) : Nat × Int :=
  let v := neighbourhood m q
  let first := v.leading
  let written? (digits : Nat) : Option (Nat × Int) :=
    (v.onGrid (first + 1 - digits)).map (·, first + 1 - digits)
  ((List.range 17).findSome? fun i => written? (i + 1)).getD (m, q)

/-- `units * 10 ^ power` without an exponent. -/
def positional (units : Nat) (power : Int) : String :=
  let digits := (Numeral.decimal units).toList
  if 0 ≤ power then String.ofList (digits ++ List.replicate power.toNat '0')
  else
    let places := power.natAbs
    let full := List.replicate (places + 1 - digits.length) '0' ++ digits
    let whole := full.take (full.length - places)
    let part := ((full.drop (full.length - places)).reverse.dropWhile (· == '0')).reverse
    String.ofList (if part.isEmpty then whole else whole ++ '.' :: part)

/-- The double in positional notation with the fewest digits that read back; the sign of zero is
kept, a whole number has no point. -/
def text (x : Float) : String :=
  if x.isNaN then "NaN"
  else
    let bits := x.toBits
    let mark := if 9223372036854775808 ≤ bits.toNat then "-" else ""
    let (m, q) := parts bits
    if x.isInf then mark ++ "inf"
    else if m = 0 then mark ++ "0"
    else
      let (units, power) := shortest m q
      mark ++ positional units power

end Binary64
end Failover
