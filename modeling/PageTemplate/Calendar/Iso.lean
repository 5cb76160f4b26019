/-
Moments as ISO 8601 text, `2024-01-02T03:04:05.000006+00:00`, and as they are
shown inside messages, field by field. A fraction is written only when it is
not zero.
-/
import PageTemplate.Calendar.Moment
import PageTemplate.Text.Quoted

namespace PageTemplate.Calendar

/-- A number of two digits. -/
def two (n : Nat) : String := String.ofList (Text.padded '0' 2 n)

/-- A fraction of a second behind its point, or nothing. -/
def fractionText (micros : Nat) : String :=
  if micros = 0 then "" else "." ++ String.ofList (Text.padded '0' 6 micros)

/-- The offset of a zone with its sign; seconds are written only when they are not zero. -/
def Zone.offsetText (z : Zone) (separator : String) : String :=
  let sign := if z.offset < 0 then "-" else "+"
  let micros := z.offset.natAbs
  let seconds := micros / 1000000
  let fraction := micros % 1000000
  let tail :=
    if seconds % 60 = 0 ∧ fraction = 0 then ""
    else separator ++ two (seconds % 60) ++ fractionText fraction
  sign ++ two (seconds / 3600) ++ separator ++ two (seconds / 60 % 60) ++ tail

/-- The name of a zone: the given one, or `UTC` with the offset. -/
def Zone.label (z : Zone) : String :=
  match z.name with
  | some name => name
  | none => if z.offset = 0 then "UTC" else "UTC" ++ z.offsetText ":"

/-- A duration as it is shown inside messages: the parts that are not zero. -/
def Duration.display (d : Duration) : String :=
  let days := Int.fdiv d.micros microsPerDay
  let rest := (Int.fmod d.micros microsPerDay).toNat
  let parts := [("days", days), ("seconds", ((rest / 1000000 : Nat) : Int)),
    ("microseconds", ((rest % 1000000 : Nat) : Int))].filterMap fun (name, n) =>
      if n = 0 then none else some (name ++ "=" ++ toString n)
  "datetime.timedelta(" ++ (if parts.isEmpty then "0" else String.intercalate ", " parts) ++ ")"

/-- A zone as it is shown inside messages. -/
def Zone.display (z : Zone) : String :=
  match z.name with
  | some name =>
    "datetime.timezone(" ++ (Duration.mk z.offset).display ++ ", " ++ Text.quoted name ++ ")"
  | none =>
    if z.offset = 0 then "datetime.timezone.utc"
    else "datetime.timezone(" ++ (Duration.mk z.offset).display ++ ")"

namespace Moment

/-- ISO text with the given character between date and time. -/
def isoText (separator : String) (m : Moment) : String :=
  let d := m.date
  let offset :=
    match m.zone with
    | none => ""
    | some z => z.offsetText ":"
  String.ofList (Text.padded '0' 4 d.year) ++ "-" ++ two d.month ++ "-" ++ two d.day ++ separator ++
    two m.hour ++ ":" ++ two m.minute ++ ":" ++ two m.second ++ fractionText m.microsecond ++ offset

/-- The moment as it is shown inside messages: seconds and microseconds are left out when they and
all after them are zero. -/
def display (m : Moment) : String :=
  let d := m.date
  let clock := [m.hour, m.minute] ++
    (if m.second = 0 ∧ m.microsecond = 0 then []
     else m.second :: (if m.microsecond = 0 then [] else [m.microsecond]))
  let fields := [d.year, d.month, d.day] ++ clock
  let zone :=
    match m.zone with
    | none => ""
    | some z => ", tzinfo=" ++ z.display
  "datetime.datetime(" ++ String.intercalate ", " (fields.map toString) ++ zone ++ ")"

/-- The number of exactly `n` digits at the head of a list. -/
def readDigits? (n : Nat) (cs : List Char) : Option (Nat × List Char) :=
  let head := cs.take n
  if head.length = n ∧ head.all Text.isAsciiDigit then some (Text.decimalNumber head, cs.drop n)
  else none

/-- A fraction of a second in microseconds; digits beyond the sixth are dropped. -/
def readFraction? (cs : List Char) : Option Nat :=
  if cs.isEmpty || !cs.all Text.isAsciiDigit then none
  else
    let digits := cs.take 6
    some (Text.decimalNumber (digits ++ List.replicate (6 - digits.length) '0'))

/-- A clock time: hours, and then perhaps minutes, seconds and a fraction, as microseconds. -/
def readClock? (cs : List Char) : Option (Nat × Nat × Nat × Nat) := do
  let (hour, rest) ← readDigits? 2 cs
  match rest with
  | [] => some (hour, 0, 0, 0)
  | ':' :: rest =>
    let (minute, rest) ← readDigits? 2 rest
    match rest with
    | [] => some (hour, minute, 0, 0)
    | ':' :: rest =>
      let (second, rest) ← readDigits? 2 rest
      match rest with
      | [] => some (hour, minute, second, 0)
      | c :: rest =>
        if c = '.' || c = ',' then
          (readFraction? rest).map fun fraction => (hour, minute, second, fraction)
        else none
    | _ => none
  | _ => none

/-- The zone behind a sign. -/
def readZone? (negative : Bool) (cs : List Char) : Option Zone := do
  let (hour, minute, second, micros) ← readClock? cs
  let seconds := hour * 3600 + minute * 60 + second
  -- An offset of no whole second is none at all.
  let total : Int := if seconds = 0 then 0 else (seconds * 1000000 + micros : Nat)
  if total < microsPerDay then some ⟨if negative then -total else total, none⟩ else none

/-- The moment of an ISO text: a date, and perhaps one character, a clock time and an offset. -/
def ofIso? (s : String) : Option Moment := do
  let (year, rest) ← readDigits? 4 s.toList
  let rest ← match rest with | '-' :: r => some r | _ => none
  let (month, rest) ← readDigits? 2 rest
  let rest ← match rest with | '-' :: r => some r | _ => none
  let (day, rest) ← readDigits? 2 rest
  let date : Date := ⟨year, month, day⟩
  match rest with
  | [] => ofFields? date 0 0 0 0 none
  | _ :: clock =>
    let isMark := fun c : Char => c == '+' || c == '-' || c == 'Z'
    let (hour, minute, second, micros) ← readClock? (clock.takeWhile (!isMark ·))
    match clock.dropWhile (!isMark ·) with
    | [] => ofFields? date hour minute second micros none
    | ['Z'] => ofFields? date hour minute second micros (some ⟨0, none⟩)
    | mark :: offset =>
      if mark = 'Z' then none
      else do
        let zone ← readZone? (mark == '-') offset
        ofFields? date hour minute second micros (some zone)

end Moment

end PageTemplate.Calendar
