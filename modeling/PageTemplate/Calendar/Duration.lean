/-
Durations in whole microseconds, of less than a thousand million days either
way, and their literals.

A literal is a sign, then a lone zero or parts such as `1h`, `30m` or `2.5s`
without anything between them. A part is worth its number times its unit, and
the parts are added from the left, all in binary64; the total is rounded to
whole microseconds, a half to the even one. `m` is a minute, but `ms` a
millisecond.
-/
import PageTemplate.Binary64.Integer
import PageTemplate.Binary64.Reading

namespace PageTemplate.Calendar

/-- Microseconds of a day. -/
def microsPerDay : Int := 86400000000

/-- A span of time in microseconds. -/
structure Duration where
  micros : Int
  deriving DecidableEq, Inhabited

namespace Duration

/-- Whether a number of microseconds is a duration: the days it fills, rounded down, are at most
999999999 either way. -/
def inRange (micros : Int) : Bool :=
  let days := Int.fdiv micros microsPerDay
  decide (-999999999 ≤ days) && decide (days ≤ 999999999)

/-- The duration as days and a time of day: `1 day, 2:03:04.000005`. -/
def text (d : Duration) : String :=
  let days := Int.fdiv d.micros microsPerDay
  let rest := (Int.fmod d.micros microsPerDay).toNat
  let seconds := rest / 1000000
  let micros := rest % 1000000
  let clock :=
    toString (seconds / 3600) ++ ":" ++ String.ofList (Text.padded '0' 2 (seconds / 60 % 60)) ++ ":" ++
      String.ofList (Text.padded '0' 2 (seconds % 60)) ++
      (if micros = 0 then "" else "." ++ String.ofList (Text.padded '0' 6 micros))
  if days = 0 then clock
  else toString days ++ (if days = 1 ∨ days = -1 then " day, " else " days, ") ++ clock

/-- The units of a part. -/
inductive TimeUnit where
  | nanosecond
  | microsecond
  | millisecond
  | second
  | minute
  | hour
  deriving DecidableEq, Inhabited

/-- The spellings of the units, a longer one before those it begins with. -/
def unitSpellings : List (List Char × TimeUnit) := [
  (['n', 's'], .nanosecond),
  (['u', 's'], .microsecond),
  (['\u00B5', 's'], .microsecond),
  (['\u03BC', 's'], .microsecond),
  (['m', 's'], .millisecond),
  (['s'], .second),
  (['m'], .minute),
  (['h'], .hour)]

/-- The worth of a unit in microseconds. -/
def TimeUnit.worth : TimeUnit → Binary64
  | .nanosecond => Binary64.ofRatio false 1 1000
  | .microsecond => Binary64.ofRatio false 1 1
  | .millisecond => Binary64.ofRatio false 1000 1
  | .second => Binary64.ofRatio false 1000000 1
  | .minute => Binary64.ofRatio false 60000000 1
  | .hour => Binary64.ofRatio false 3600000000 1

/-- The unit at the head of a list and what follows it. -/
def readUnit? (cs : List Char) : Option (TimeUnit × List Char) :=
  unitSpellings.findSome? fun (spelling, unit) =>
    if spelling.isPrefixOf cs then some (unit, cs.drop spelling.length) else none

/-- The digits with at most one point among them at the head of a list, and what follows. -/
def splitNumeral (cs : List Char) : List Char × List Char :=
  let whole := cs.takeWhile Text.isAsciiDigit
  match cs.dropWhile Text.isAsciiDigit with
  | '.' :: rest =>
    (whole ++ '.' :: rest.takeWhile Text.isAsciiDigit, rest.dropWhile Text.isAsciiDigit)
  | rest => (whole, rest)

/-- One part at the head of a list: its number, its unit and what follows. The numeral has a digit
at least. -/
def readPart? (cs : List Char) : Option (Binary64 × TimeUnit × List Char) :=
  let (numeral, rest) := splitNumeral cs
  if numeral.isEmpty || numeral == ['.'] then none
  else
    match readUnit? rest with
    | none => none
    | some (unit, rest) =>
      (Binary64.readDecimal? false numeral).map fun number => (number, unit, rest)

/-- Adds the worth of the parts to `total`, from the left, to the end of the text. Every part takes
characters, so as much fuel as there are is enough. -/
def sumParts? (total : Binary64) : (fuel : Nat) → List Char → Option Binary64
  | _, [] => some total
  | 0, _ :: _ => none
  | fuel + 1, cs =>
    match readPart? cs with
    | none => none
    | some (number, unit, rest) => sumParts? (total.add (number.mul unit.worth)) fuel rest

/-- The duration that a number of microseconds rounds to. -/
def ofMicros? (micros : Binary64) : Option Duration :=
  match micros.round with
  | .error _ => none
  | .ok n => if inRange n then some ⟨n⟩ else none

/-- The duration of a literal. -/
def ofText? (s : String) : Option Duration :=
  let (negative, body) := Binary64.splitSign s.toList
  if body = ['0'] then some ⟨0⟩
  else if body.isEmpty then none
  else
    match sumParts? (Binary64.zero false) body.length body with
    | none => none
    | some total => ofMicros? (if negative then total.neg else total)

end Duration

end PageTemplate.Calendar
