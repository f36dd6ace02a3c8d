import Failover.Text.Numeral
import Failover.Time.Calendar

/-! The three spellings of a date in HTTP headers. All are read at fixed places; the weekday has to
be the date's own, years run from 1970 to 9999, and a minute has sixty seconds. -/
namespace Failover

/-- A date and time of day as written, with its weekday counted from Monday. -/
structure HttpDate where
  weekday : Nat
  year : Nat
  month : Nat
  day : Nat
  hour : Nat
  minute : Nat
  second : Nat
  deriving DecidableEq, Repr

namespace HttpDate

def weekdays : List String := ["Mon", "Tue", "Wed", "Thu", "Fri", "Sat", "Sun"]

def longWeekdays : List String :=
  ["Monday", "Tuesday", "Wednesday", "Thursday", "Friday", "Saturday", "Sunday"]

def months : List String :=
  ["Jan", "Feb", "Mar", "Apr", "May", "Jun", "Jul", "Aug", "Sep", "Oct", "Nov", "Dec"]

/-- The part of a text of `count` characters from `start` on. -/
def field (cs : List Char) (start count : Nat) : List Char := (cs.drop start).take count

/-- The number in `count` digits at `start`. -/
def number? (cs : List Char) (start count : Nat) : Option Nat :=
  Numeral.read? 10 (field cs start count)

/-- Where the text at `start` stands in a list of names of `count` characters each. -/
def name? (names : List String) (cs : List Char) (start count : Nat) : Option Nat :=
  names.findIdx? (·.toList == field cs start count)

/-- Whether `text` stands at `start`. -/
def has (cs : List Char) (start : Nat) (text : String) : Bool :=
  field cs start text.length == text.toList

/-- `Sun, 06 Nov 1994 08:49:37 GMT` -/
def fixed? (cs : List Char) : Option HttpDate := do
  guard (cs.length = 29 ∧ has cs 3 ", " ∧ has cs 7 " " ∧ has cs 11 " " ∧ has cs 16 " " ∧
    has cs 19 ":" ∧ has cs 22 ":" ∧ has cs 25 " GMT")
  some {
    weekday := ← name? weekdays cs 0 3
    year := ← number? cs 12 4
    month := (← name? months cs 8 3) + 1
    day := ← number? cs 5 2
    hour := ← number? cs 17 2
    minute := ← number? cs 20 2
    second := ← number? cs 23 2 }

/-- `Sunday, 06-Nov-94 08:49:37 GMT`: years below 70 belong to this century, and any character may
stand between the year and the hour. -/
def dashed? (cs : List Char) : Option HttpDate := do
  let weekday ← longWeekdays.findIdx? fun n => has cs 0 (n ++ ", ")
  let cs := (cs.dropWhile (· != ' ')).drop 1
  guard (cs.length = 22 ∧ has cs 2 "-" ∧ has cs 6 "-" ∧ has cs 12 ":" ∧ has cs 15 ":" ∧
    has cs 18 " GMT")
  let year ← number? cs 7 2
  some {
    weekday
    year := if year < 70 then 2000 + year else 1900 + year
    month := (← name? months cs 3 3) + 1
    day := ← number? cs 0 2
    hour := ← number? cs 10 2
    minute := ← number? cs 13 2
    second := ← number? cs 16 2 }

/-- `Sun Nov  6 08:49:37 1994`: the day has a blank or a zero in front. -/
def spaced? (cs : List Char) : Option HttpDate := do
  guard (cs.length = 24 ∧ has cs 3 " " ∧ has cs 7 " " ∧ has cs 10 " " ∧ has cs 13 ":" ∧
    has cs 16 ":" ∧ has cs 19 " ")
  some {
    weekday := ← name? weekdays cs 0 3
    year := ← number? cs 20 4
    month := (← name? months cs 4 3) + 1
    day := ← (if has cs 8 " " then number? cs 9 1 else number? cs 8 2)
    hour := ← number? cs 11 2
    minute := ← number? cs 14 2
    second := ← number? cs 17 2 }

/-- Whether the date exists and is the weekday it says. -/
def valid (d : HttpDate) : Bool :=
  d.second < 60 && d.minute < 60 && d.hour < 24 && 1970 ≤ d.year && d.year ≤ 9999 &&
    Calendar.isDate d.year d.month d.day && d.weekday == Calendar.weekday d.year d.month d.day

/-- Seconds since 1 January 1970. -/
def seconds (d : HttpDate) : Nat :=
  ((Calendar.dayNumber d.year d.month d.day * 24 + d.hour) * 60 + d.minute) * 60 + d.second

/-- Nanoseconds since 1 January 1970. -/
def nanos (d : HttpDate) : Nat := d.seconds * 1000000000

/-- The date that a text spells in one of the three ways. -/
def read? (text : String) : Option HttpDate := do
  let cs := text.toList
  let d ← fixed? cs <|> dashed? cs <|> spaced? cs
  if d.valid then some d else none

end HttpDate
end Failover
