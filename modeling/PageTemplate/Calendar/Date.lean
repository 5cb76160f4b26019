/-
Dates of the Gregorian calendar, carried back to the year 1, and their day
numbers: day 1 is the first of January of the year 1.
-/
namespace PageTemplate.Calendar

/-- Whether the year has a twenty-ninth of February. -/
def isLeap (year : Nat) : Bool := year % 4 == 0 && (year % 100 != 0 || year % 400 == 0)

/-- The days of a month. -/
def daysInMonth (year month : Nat) : Nat :=
  match month with
  | 2 => if isLeap year then 29 else 28
  | 4 | 6 | 9 | 11 => 30
  | _ => 31

/-- The days before the first of January of a year, counted from the year 1. -/
def daysBeforeYear (year : Nat) : Nat :=
  let y := year - 1
  y * 365 + y / 4 - y / 100 + y / 400

/-- The days of a year before the first of a month. -/
def daysBeforeMonth (year : Nat) : (month : Nat) → Nat
  | 0 => 0
  | 1 => 0
  | month + 2 => daysBeforeMonth year (month + 1) + daysInMonth year (month + 1)

/-- A day of the calendar. -/
structure Date where
  year : Nat
  month : Nat
  day : Nat
  deriving DecidableEq, Inhabited

namespace Date

/-- Whether there is such a day, in the years 1 to 9999. -/
def isValid (d : Date) : Bool :=
  1 ≤ d.year && d.year ≤ 9999 && 1 ≤ d.month && d.month ≤ 12 && 1 ≤ d.day &&
    d.day ≤ daysInMonth d.year d.month

/-- The day's place in its year, from one. -/
def dayOfYear (d : Date) : Nat := daysBeforeMonth d.year d.month + d.day

/-- The day number. -/
def toDayNumber (d : Date) : Nat := daysBeforeYear d.year + d.dayOfYear

/-- The month and day of a place in a year, found by taking months off from `month` on. -/
def ofDayOfYear (year : Nat) : (fuel month remaining : Nat) → Date
  | 0, month, remaining => ⟨year, month, remaining⟩
  | fuel + 1, month, remaining =>
    let size := daysInMonth year month
    if remaining ≤ size then ⟨year, month, remaining⟩
    else ofDayOfYear year fuel (month + 1) (remaining - size)

/-- The date of a day number: whole cycles of 400, 100, 4 and 1 years are taken off in turn. -/
def ofDayNumber (n : Nat) : Date :=
  let n := n - 1
  let cycles := n / 146097
  let n := n % 146097
  let centuries := if n / 36524 = 4 then 3 else n / 36524
  let n := n - centuries * 36524
  let fours := n / 1461
  let n := n % 1461
  let ones := if n / 365 = 4 then 3 else n / 365
  let n := n - ones * 365
  ofDayOfYear (cycles * 400 + centuries * 100 + fours * 4 + ones + 1) 11 1 (n + 1)

end Date

/-- The day of the week of a day number, Monday being zero. -/
def weekday (dayNumber : Nat) : Nat := (dayNumber + 6) % 7

/-- The day number of the Monday of a year's first ISO week, the one with the year's first
Thursday. Of the year 1 it is day 1. -/
def isoYearStart (year : Nat) : Nat :=
  let first := daysBeforeYear year + 1
  let w := weekday first
  if w ≤ 3 then first - w else first + (7 - w)

/-- The ISO year and week of a date. -/
def isoWeek (d : Date) : Nat × Nat :=
  let n := d.toDayNumber
  let here := isoYearStart d.year
  if n < here then
    (d.year - 1, (n - (isoYearStart (d.year - 1))) / 7 + 1)
  else if isoYearStart (d.year + 1) ≤ n then (d.year + 1, 1)
  else (d.year, (n - here) / 7 + 1)

/-- Names of the days of the week, Monday first. -/
def weekdayNames : List String :=
  ["Monday", "Tuesday", "Wednesday", "Thursday", "Friday", "Saturday", "Sunday"]

/-- Names of the months, January first. -/
def monthNames : List String :=
  ["January", "February", "March", "April", "May", "June", "July", "August", "September",
    "October", "November", "December"]

/-- The first three letters of a name. -/
def abbreviation (name : String) : String := String.ofList (name.toList.take 3)

end PageTemplate.Calendar
