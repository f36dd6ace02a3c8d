/-! Dates of the Gregorian calendar from 1970 on: which dates exist, their day number and their day
of the week. -/
namespace Failover.Calendar

def isLeap (year : Nat) : Bool := (year % 4 == 0 && year % 100 != 0) || year % 400 == 0

/-- The days of a month, counted from one; none for a month that does not exist. -/
def daysIn (year month : Nat) : Nat :=
  match month with
  | 1 | 3 | 5 | 7 | 8 | 10 | 12 => 31
  | 4 | 6 | 9 | 11 => 30
  | 2 => if isLeap year then 29 else 28
  | _ => 0

def isDate (year month day : Nat) : Bool := 1 ≤ day && day ≤ daysIn year month

/-- The leap days before `year`, counted from year one. -/
def leapsBefore (year : Nat) : Nat := (year - 1) / 4 - (year - 1) / 100 + (year - 1) / 400

/-- The days before the first of a month within its year. -/
def daysBefore (year month : Nat) : Nat :=
  (List.range (month - 1)).foldl (fun days m => days + daysIn year (m + 1)) 0

/-- The days from 1 January 1970 to a date. -/
def dayNumber (year month day : Nat) : Nat :=
  (year - 1970) * 365 + (leapsBefore year - leapsBefore 1970) + daysBefore year month + (day - 1)

/-- The day of the week, Monday being zero; 1 January 1970 was a Thursday. -/
def weekday (year month day : Nat) : Nat := (dayNumber year month day + 3) % 7

end Failover.Calendar
