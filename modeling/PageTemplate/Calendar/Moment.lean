/-
Moments: a local date and time of day to the microsecond, in the years 1 to
9999, and possibly the zone whose clock shows it. A moment is kept as the
number of microseconds since its clock showed the start of the year 1, so that
moving it by a duration is an addition with a check of the range.
-/
import PageTemplate.Calendar.Date
import PageTemplate.Calendar.Duration

namespace PageTemplate.Calendar

/-- An offset from universal time in microseconds, and a name if one was given. -/
structure Zone where
  offset : Int
  name : Option String := none
  deriving DecidableEq, Inhabited

/-- Microseconds from the start of the year 1 to the end of the year 9999. -/
def momentLimit : Nat := 315537897600000000

/-- A local date and time. -/
structure Moment where
  micros : Nat
  zone : Option Zone := none
  inRange : micros < momentLimit := by decide
  deriving DecidableEq

instance : Inhabited Moment := ⟨{ micros := 0 }⟩

namespace Moment

/-- The moment of a number of microseconds, if it is within the range. -/
def ofMicros? (micros : Int) (zone : Option Zone) : Option Moment :=
  if h : 0 ≤ micros ∧ micros.toNat < momentLimit then some ⟨micros.toNat, zone, h.2⟩ else none

/-- The moment later by a duration. -/
def add? (m : Moment) (d : Duration) : Option Moment := ofMicros? (m.micros + d.micros) m.zone

/-- The number of its day. -/
def dayNumber (m : Moment) : Nat := m.micros / 86400000000 + 1

/-- Its date. -/
def date (m : Moment) : Date := Date.ofDayNumber m.dayNumber

/-- Microseconds since midnight. -/
def microsOfDay (m : Moment) : Nat := m.micros % 86400000000

/-- The hour, from 0 to 23. -/
def hour (m : Moment) : Nat := m.microsOfDay / 3600000000

/-- The minute. -/
def minute (m : Moment) : Nat := m.microsOfDay / 60000000 % 60

/-- The second. -/
def second (m : Moment) : Nat := m.microsOfDay / 1000000 % 60

/-- The microseconds of the second. -/
def microsecond (m : Moment) : Nat := m.microsOfDay % 1000000

/-- The moment of a date and a time of day, if there is one. -/
def ofFields? (date : Date) (hour minute second microsecond : Nat) (zone : Option Zone) :
    Option Moment :=
  if date.isValid && hour < 24 && minute < 60 && second < 60 && microsecond < 1000000 then
    ofMicros? (((date.toDayNumber - 1) * 86400000000 + hour * 3600000000 + minute * 60000000 +
      second * 1000000 + microsecond : Nat) : Int) zone
  else none

end Moment

end PageTemplate.Calendar
