import Failover.Config.Document
import Failover.Config.Toml.Text
import Failover.Text.Decimal
import Failover.Time.Calendar

/-! The numbers and dates of a TOML file. A date is recognised and checked, but its value is not
kept, as no setting is a date. -/
namespace Failover.Toml

/-- The digits of a number after the first; single underscores between them are left out. -/
def moreDigits (base : Nat) : List Char → Option (Reading (List Char))
  | '_' :: c :: rest =>
    if Numeral.isDigit base c then before c (moreDigits base rest) else none
  | c :: rest =>
    if c = '_' then none
    else if Numeral.isDigit base c then before c (moreDigits base rest)
    else some ([], c :: rest)
  | [] => some ([], [])

/-- Digits, at least one. -/
def digits? (base : Nat) : List Char → Option (Reading (List Char))
  | c :: rest => if Numeral.isDigit base c then before c (moreDigits base rest) else none
  | [] => none

/-- Decimal digits of which a zero only starts a number on its own. -/
def wholeDigits? : List Char → Option (Reading (List Char))
  | '0' :: rest => some (['0'], rest)
  | cs => digits? 10 cs

/-- The power of ten of an exponent. -/
def exponent? (cs : List Char) : Option (Reading Int) := do
  let (negative, rest) := Decimal.sign cs
  let (ds, rest) ← digits? 10 rest
  let n := Numeral.value 10 ds
  some (if negative then -(n : Int) else n, rest)

/-- The double of a decimal number; one that is too large is refused unless it is negative. -/
def real? (d : Decimal) (rest : List Char) : Option (Reading Document) :=
  let x := d.toFloat
  if x == Binary64.infinity then none else some (.real x, rest)

/-- A whole number that fits 64 bits with a sign. -/
def integer? (negative : Bool) (n : Nat) (rest : List Char) : Option (Reading Document) :=
  let value : Int := if negative then -(n : Int) else n
  if -9223372036854775808 ≤ value ∧ value ≤ 9223372036854775807 then some (.integer value, rest)
  else none

/-- A number with a fraction or an exponent, or a whole one. -/
def decimal? (cs : List Char) : Option (Reading Document) := do
  let (negative, rest) := Decimal.sign cs
  let (whole, rest) ← wholeDigits? rest
  let number (part : List Char) (e : Int) : Decimal :=
    ⟨negative, Numeral.value 10 (whole ++ part), e - part.length⟩
  match rest with
  | '.' :: rest =>
    let (part, rest) ← digits? 10 rest
    match rest with
    | c :: after =>
      if c = 'e' ∨ c = 'E' then
        let (e, rest) ← exponent? after
        real? (number part e) rest
      else real? (number part 0) rest
    | [] => real? (number part 0) rest
  | c :: after =>
    if c = 'e' ∨ c = 'E' then
      let (e, rest) ← exponent? after
      real? (number [] e) rest
    else integer? negative (Numeral.value 10 whole) rest
  | [] => integer? negative (Numeral.value 10 whole) rest

/-- What follows a word. -/
def word? : List Char → List Char → Option (List Char)
  | [], rest => some rest
  | c :: word, d :: rest => if c = d then word? word rest else none
  | _ :: _, [] => none

/-- Infinity or not a number, with an optional sign. -/
def special? (cs : List Char) : Option (Reading Document) := do
  let (negative, rest) := Decimal.sign cs
  match word? "inf".toList rest, word? "nan".toList rest with
  | some left, _ => some (.real (if negative then -Binary64.infinity else Binary64.infinity), left)
  | _, some left => some (.real Binary64.nan, left)
  | _, _ => none

/-- A whole number in another base behind its mark. -/
def based? : List Char → Option (Reading Document)
  | '0' :: 'x' :: rest => do
    let (ds, rest) ← digits? 16 rest
    integer? false (Numeral.value 16 ds) rest
  | '0' :: 'o' :: rest => do
    let (ds, rest) ← digits? 8 rest
    integer? false (Numeral.value 8 ds) rest
  | '0' :: 'b' :: rest => do
    let (ds, rest) ← digits? 2 rest
    integer? false (Numeral.value 2 ds) rest
  | _ => none

/-- A number in exactly `count` digits between two bounds. -/
def field? (count low high : Nat) (cs : List Char) : Option (Reading Nat) := do
  let n ← if (cs.take count).length = count then Numeral.read? 10 (cs.take count) else none
  if low ≤ n ∧ n ≤ high then some (n, cs.drop count) else none

/-- A time of day, with a fraction of a second if there is one. -/
def time? (cs : List Char) : Option (List Char) := do
  let (_, rest) ← field? 2 0 23 cs
  let (_, rest) ← field? 2 0 59 (← word? [':'] rest)
  let (_, rest) ← field? 2 0 60 (← word? [':'] rest)
  match rest with
  | '.' :: c :: after =>
    if c.isDigit then some (after.dropWhile Char.isDigit) else some rest
  | _ => some rest

/-- What follows the offset of a time, if there is one. -/
def offset? : List Char → Option (List Char)
  | c :: rest =>
    if c = 'Z' ∨ c = 'z' then some rest
    else if c = '+' ∨ c = '-' then do
      let (_, rest) ← field? 2 0 23 rest
      let (_, rest) ← field? 2 0 59 (← word? [':'] rest)
      some rest
    else some (c :: rest)
  | [] => some []

/-- A date of the calendar. -/
def day? (cs : List Char) : Option (List Char) := do
  let (year, rest) ← field? 4 0 9999 cs
  let (month, rest) ← field? 2 1 12 (← word? ['-'] rest)
  let (day, rest) ← field? 2 1 31 (← word? ['-'] rest)
  if Calendar.isDate year month day then some rest else none

/-- A date, a date with a time of day, or a time of day alone. -/
def date? (cs : List Char) : Option (Reading Document) :=
  match day? cs with
  | some rest =>
    match rest with
    | c :: after =>
      if c = 'T' ∨ c = 't' ∨ c = ' ' then
        match time? after with
        | some rest => (offset? rest).map (.date, ·)
        | none => some (.date, rest)
      else some (.date, rest)
    | [] => some (.date, [])
  | none => (time? cs).map (.date, ·)

/-- A number or a date. -/
def number? (cs : List Char) : Option (Reading Document) :=
  date? cs <|> based? cs <|> special? cs <|> decimal? cs

/-- A truth value. -/
def flag? (cs : List Char) : Option (Reading Document) :=
  match word? "true".toList cs, word? "false".toList cs with
  | some rest, _ => some (.flag true, rest)
  | _, some rest => some (.flag false, rest)
  | _, _ => none

end Failover.Toml
