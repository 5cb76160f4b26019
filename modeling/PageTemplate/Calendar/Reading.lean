/-
Reading a moment by a layout: the text has to show, piece by piece, what the
layout asks for, with any run of blanks where the layout has one and letters
in either case.

A field may match in several ways, told in order of preference. The first way
to match the whole layout counts, and it must leave nothing of the text over.
The fields found then settle the date: by month and day, by the day of the
year, by week and weekday, or by the ISO year, week and weekday.
-/
import PageTemplate.Calendar.Iso
import PageTemplate.Calendar.Pattern
import PageTemplate.Text.CaseFold

namespace PageTemplate.Calendar

/-- A range of digits; the full range takes the digits of every script. -/
structure DigitRange where
  least : Char
  greatest : Char

/-- Whether a character is a digit of the range. -/
def DigitRange.has (r : DigitRange) (c : Char) : Bool :=
  if r.least = '0' ∧ r.greatest = '9' then (Text.digitValue? c).isSome
  else r.least ≤ c && c ≤ r.greatest

/-- The range of one character. -/
def only (c : Char) : DigitRange := ⟨c, c⟩

/-- Every digit. -/
def anyDigit : DigitRange := ⟨'0', '9'⟩

/-- The spellings of the numeric fields, the preferred one first. -/
def digitPatterns (name : Char) : List (List DigitRange) :=
  let week := [[only '5', ⟨'0', '3'⟩], [⟨'0', '4'⟩, anyDigit], [anyDigit]]
  match name with
  | 'd' => [[only '3', ⟨'0', '1'⟩], [⟨'1', '2'⟩, anyDigit], [only '0', ⟨'1', '9'⟩], [⟨'1', '9'⟩],
      [only ' ', ⟨'1', '9'⟩]]
  | 'H' => [[only '2', ⟨'0', '3'⟩], [⟨'0', '1'⟩, anyDigit], [anyDigit]]
  | 'I' => [[only '1', ⟨'0', '2'⟩], [only '0', ⟨'1', '9'⟩], [⟨'1', '9'⟩]]
  | 'G' | 'Y' => [[anyDigit, anyDigit, anyDigit, anyDigit]]
  | 'j' => [[only '3', only '6', ⟨'0', '6'⟩], [only '3', ⟨'0', '5'⟩, anyDigit],
      [⟨'1', '2'⟩, anyDigit, anyDigit], [only '0', ⟨'1', '9'⟩, anyDigit],
      [only '0', only '0', ⟨'1', '9'⟩], [⟨'1', '9'⟩, anyDigit], [only '0', ⟨'1', '9'⟩],
      [⟨'1', '9'⟩]]
  | 'm' => [[only '1', ⟨'0', '2'⟩], [only '0', ⟨'1', '9'⟩], [⟨'1', '9'⟩]]
  | 'M' => [[⟨'0', '5'⟩, anyDigit], [anyDigit]]
  | 'S' => [[only '6', ⟨'0', '1'⟩], [⟨'0', '5'⟩, anyDigit], [anyDigit]]
  | 'U' | 'W' => week
  | 'w' => [[⟨'0', '6'⟩]]
  | 'u' => [[⟨'1', '7'⟩]]
  | 'V' => [[only '5', ⟨'0', '3'⟩], [only '0', ⟨'1', '9'⟩], [⟨'1', '4'⟩, anyDigit], [anyDigit]]
  | 'y' => [[anyDigit, anyDigit]]
  | _ => []

/-- The names that a field may show. -/
def fieldNames (name : Char) : List String :=
  match name with
  | 'A' => weekdayNames
  | 'a' => weekdayNames.map abbreviation
  | 'B' => monthNames
  | 'b' => monthNames.map abbreviation
  | 'p' => ["AM", "PM"]
  | 'Z' => ["UTC", "GMT"]
  | _ => []

/-- A way to match the head of a text: what is taken and what is left. -/
abbrev Match := List Char × List Char

/-- The ways to take one digit for each range. -/
def takeRanges (cs : List Char) : List DigitRange → Option Match
  | [] => some ([], cs)
  | range :: ranges =>
    match cs with
    | [] => none
    | c :: rest =>
      if range.has c then (takeRanges rest ranges).map fun (taken, left) => (c :: taken, left)
      else none

/-- Whether a text begins with a name, in whatever case. -/
def startsWithName (name : String) (cs : List Char) : Bool :=
  (name.toList.map Binary64.lowerAscii).isPrefixOf (cs.map Binary64.lowerAscii)

/-- The ways to take between `least` and as many characters as satisfy `p`, the longest first. -/
def takeRun (p : Char → Bool) (least most : Nat) (cs : List Char) : List Match :=
  let run := Nat.min most (cs.takeWhile p).length
  ((List.range (run + 1)).reverse.filter (least ≤ ·)).map fun n => (cs.take n, cs.drop n)

/-- The ways to take what stands before `rest` and then go on. -/
def thenTake (first : List Match) (next : List Char → List Match) : List Match :=
  first.flatMap fun (taken, left) => (next left).map fun (more, rest) => (taken ++ more, rest)

/-- The ways to take one character that satisfies `p`. -/
def takeOne (p : Char → Bool) : List Char → List Match
  | [] => []
  | c :: rest => if p c then [([c], rest)] else []

/-- The ways to take something, and last the way to take nothing. -/
def perhaps (take : List Char → List Match) (cs : List Char) : List Match := take cs ++ [([], cs)]

/-- The ways to take an offset from universal time: a sign, two digits each for hours, minutes and
perhaps seconds, colons between them or not, and perhaps a fraction; or a capital Z. -/
def takeOffset (cs : List Char) : List Match :=
  let digit := takeOne anyDigit.has
  let sixty := fun cs => thenTake (takeOne (DigitRange.has ⟨'0', '5'⟩) cs) digit
  let colon := perhaps (takeOne (· == ':'))
  let fraction := fun cs => thenTake (takeOne (· == '.') cs) (takeRun anyDigit.has 1 6)
  let seconds := fun cs => thenTake (thenTake (colon cs) sixty) (perhaps fraction)
  let sign := takeOne fun c => c == '+' || c == '-'
  let hours := fun cs => thenTake (thenTake (sign cs) digit) digit
  thenTake (thenTake (thenTake (hours cs) colon) sixty) (perhaps seconds) ++ takeOne (· == 'Z') cs

/-- The ways in which a piece matches the head of a text, the preferred one first. -/
def LayoutPiece.matches (cs : List Char) : LayoutPiece → List Match
  | .letter c => takeOne (Text.sameLetter c) cs
  | .blanks => takeRun Text.isBlank 1 cs.length cs
  | .field 'f' => takeRun Text.isAsciiDigit 1 6 cs
  | .field 'z' => takeOffset cs
  | .field name =>
    (digitPatterns name).filterMap (takeRanges cs) ++
      ((fieldNames name).filter (startsWithName · cs)).map fun word =>
        (cs.take word.length, cs.drop word.length)

/-- The first way to match all pieces: what each field took, and what is left of the text. -/
def firstMatch? : List LayoutPiece → List Char → Option (List (Char × List Char) × List Char)
  | [], cs => some ([], cs)
  | piece :: pieces, cs =>
    (piece.matches cs).findSome? fun (taken, left) =>
      (firstMatch? pieces left).map fun (found, rest) =>
        (match piece with
          | .field name => (name, taken) :: found
          | _ => found, rest)

/-- The layout that a field stands for. -/
def composedLayout? (name : Char) : Option String :=
  if name = 'c' then some "%a %b %d %H:%M:%S %Y"
  else if name = 'x' then some "%m/%d/%y"
  else if name = 'X' then some "%H:%M:%S"
  else none

/-- The layout with the fields that stand for layouts written out. -/
def expandLayout : List Char → List Char
  | [] => []
  | [c] => [c]
  | c :: name :: rest =>
    if c = '%' then
      (match composedLayout? name with
        | some layout => layout.toList
        | none => [c, name]) ++ expandLayout rest
    else c :: expandLayout (name :: rest)

/-- The letters of the fields that can be read. -/
def readableFields : List Char := "dfHIGjmMSUWwuVyYzAaBbpZ".toList

/-- The pieces of a layout without composed fields; none if a field is unknown. -/
def pieces? : List Char → Option (List LayoutPiece)
  | [] => some []
  | ['%'] => none
  | '%' :: '%' :: rest => (pieces? rest).map (LayoutPiece.letter '%' :: ·)
  | '%' :: name :: rest =>
    if readableFields.contains name then (pieces? rest).map (LayoutPiece.field name :: ·) else none
  | c :: rest =>
    (pieces? rest).map fun pieces =>
      if Text.isBlank c then
        match pieces with
        | .blanks :: _ => pieces
        | _ => .blanks :: pieces
      else .letter c :: pieces

/-- The number that the digits of a text write, in whatever script. -/
def numberOf (cs : List Char) : Nat :=
  cs.foldl (fun acc c => match Text.digitValue? c with | some d => 10 * acc + d | none => acc) 0

/-- The place of a word among names, in whatever case. -/
def placeOf (names : List String) (word : List Char) : Nat :=
  names.findIdx fun name => name.length == word.length && startsWithName name word

/-- How the weeks of a year are counted: from its first Sunday or its first Monday. -/
inductive WeekStart where
  | sunday
  | monday
  deriving DecidableEq, Inhabited

/-- What the fields say, each with its default. Weekdays count from Monday, from zero. -/
structure FoundFields where
  year : Option Nat := none
  isoYear : Option Nat := none
  month : Nat := 1
  day : Nat := 1
  hour : Nat := 0
  minute : Nat := 0
  second : Nat := 0
  fraction : Nat := 0
  weekday : Option Nat := none
  dayOfYear : Option Int := none
  week : Option (WeekStart × Nat) := none
  isoWeek : Option Nat := none
  offset : Option Int := none
  deriving Inhabited

/-- An hour on a clock of twelve in the given half of the day; without one it is the first. -/
def hourOfDay (hour : Nat) (afternoon : Bool) : Nat :=
  if afternoon then (if hour = 12 then 12 else hour + 12) else if hour = 12 then 0 else hour

/-- A fraction of a second in microseconds. -/
def fractionOf (digits : List Char) : Nat :=
  numberOf (digits ++ List.replicate (6 - digits.length) '0')

/-- The microseconds of an offset; its colons have to stand everywhere or nowhere. -/
def offsetOf? (cs : List Char) : Option Int :=
  match cs with
  | ['Z'] => some 0
  | sign :: h1 :: h2 :: rest => do
    let colons := rest.head? == some ':'
    let rest := if colons then rest.drop 1 else rest
    let minutes := rest.take 2
    let rest := rest.drop 2
    if !rest.isEmpty && (rest.head? == some ':') != colons then none
    let rest := if colons then rest.drop 1 else rest
    let total := numberOf [h1, h2] * 3600 + numberOf minutes * 60 + numberOf (rest.take 2)
    let micros : Int := (total * 1000000 + fractionOf (rest.drop 3) : Nat)
    some (if sign = '-' then -micros else micros)
  | _ => none

/-- What is known once one more field is taken into account. -/
def FoundFields.note? (afternoon : Bool) (f : FoundFields) (name : Char) (word : List Char) :
    Option FoundFields :=
  let n := numberOf word
  match name with
  | 'y' => some { f with year := some (if n ≤ 68 then 2000 + n else 1900 + n) }
  | 'Y' => some { f with year := some n }
  | 'G' => some { f with isoYear := some n }
  | 'm' => some { f with month := n }
  | 'B' => some { f with month := placeOf monthNames word + 1 }
  | 'b' => some { f with month := placeOf (monthNames.map abbreviation) word + 1 }
  | 'd' => some { f with day := n }
  | 'H' => some { f with hour := n }
  | 'I' => some { f with hour := hourOfDay n afternoon }
  | 'M' => some { f with minute := n }
  | 'S' => some { f with second := n }
  | 'f' => some { f with fraction := fractionOf word }
  | 'A' => some { f with weekday := some (placeOf weekdayNames word) }
  | 'a' => some { f with weekday := some (placeOf (weekdayNames.map abbreviation) word) }
  | 'w' => some { f with weekday := some ((n + 6) % 7) }
  | 'u' => some { f with weekday := some (n - 1) }
  | 'j' => some { f with dayOfYear := some n }
  | 'U' => some { f with week := some (.sunday, n) }
  | 'W' => some { f with week := some (.monday, n) }
  | 'V' => some { f with isoWeek := some n }
  | 'z' => (offsetOf? word).map fun offset => { f with offset := some offset }
  | _ => some f

/-- What all fields say, the later of two that speak of one thing prevailing. -/
def FoundFields.ofWords? (words : List (Char × List Char)) : Option FoundFields :=
  let afternoon := words.any fun (name, word) => name == 'p' && startsWithName "PM" word
  words.foldlM (fun f (name, word) => f.note? afternoon name word) {}

/-- Whether the ISO fields can be used. An ISO year that stands in for the year has to come with its
week and a weekday, and without the day of the year. Otherwise an ISO week has to come with a week of
the year, which then counts. -/
def FoundFields.isoComplete (f : FoundFields) : Bool :=
  if f.year.isNone && f.isoYear.isSome then
    f.isoWeek.isSome && f.weekday.isSome && f.dayOfYear.isNone
  else f.isoWeek.isNone || f.week.isSome

/-- The place in its year of a weekday in a counted week; week zero precedes the first one. -/
def dayOfWeekCount (year : Nat) (start : WeekStart) (week day : Nat) : Int :=
  let first := weekday (daysBeforeYear year + 1)
  let (first, day) := if start = .sunday then ((first + 1) % 7, (day + 1) % 7) else (first, day)
  if week = 0 then 1 + (day : Int) - first
  else ((1 + (7 - first) % 7 + 7 * (week - 1) + day : Nat) : Int)

/-- The day number of a weekday in an ISO week. -/
def dayOfIsoWeek (year week day : Nat) : Int :=
  let january4 := daysBeforeYear year + 4
  (january4 : Int) - weekday january4 + 7 * ((week : Int) - 1) + day

/-- The day number that the fields settle, given the year to use. -/
def FoundFields.dayNumber? (f : FoundFields) (year : Nat) : Option Int :=
  let inYear := fun (year : Nat) (place : Int) =>
    if 1 ≤ year ∧ year ≤ 9999 then some ((daysBeforeYear year : Int) + place) else none
  let byMonth :=
    let date : Date := ⟨year, f.month, f.day⟩
    if date.isValid then some (date.toDayNumber : Int) else none
  match f.dayOfYear, f.weekday, f.week, f.isoYear, f.isoWeek with
  | some place, _, _, _, _ => inYear year place
  | none, some day, some (start, week), _, _ =>
    let place := dayOfWeekCount year start week day
    -- A place before the year is counted in the year before, which has to exist.
    if place ≤ 0 ∧ year ≤ 1 then none else inYear year place
  | none, some day, none, some isoYear, some isoWeek =>
    let n := dayOfIsoWeek isoYear isoWeek day
    if 1 ≤ isoYear ∧ isoYear ≤ 9999 ∧ 1 ≤ n then some n else none
  | _, _, _, _, _ => byMonth

/-- The moment that the fields settle. Without a year it is 1900; a twenty-ninth of February is
sought in 1904 first. -/
def FoundFields.moment? (f : FoundFields) (zoneName : Option String) : Option Moment := do
  if !f.isoComplete then none
  let leapDay := f.year.isNone && f.month == 2 && f.day == 29
  let year := f.year.getD (if leapDay then 1904 else 1900)
  if year = 0 then none
  let n ← f.dayNumber? year
  if n < 1 ∨ 3652059 < n then none
  let date := Date.ofDayNumber n.toNat
  let date := if leapDay then { date with year := 1900 } else date
  let zone ←
    match f.offset with
    | none => some none
    | some offset =>
      if -microsPerDay < offset ∧ offset < microsPerDay then
        some (some (⟨offset, zoneName⟩ : Zone))
      else none
  Moment.ofFields? date f.hour f.minute f.second f.fraction zone

/-- Why a text shows no moment under a layout. -/
inductive ReadingFault where
  | mismatch
  | repeated (field : RepeatedField)
  deriving DecidableEq, Inhabited

/-- The moment that a text shows under the pieces of a layout. -/
def Moment.ofPieces? (pieces : List LayoutPiece) (text : String) : Option Moment := do
  match firstMatch? pieces text.toList with
  | some (words, []) =>
    let fields ← FoundFields.ofWords? words
    let zoneName := (words.find? (·.1 == 'Z')).map fun (_, word) => String.ofList word
    fields.moment? zoneName
  | _ => none

/-- The moment that a text shows under a layout. A layout with an unknown field matches nothing, and
no field may be asked for twice. -/
def Moment.parse (layout text : String) : Except ReadingFault Moment :=
  match pieces? (expandLayout layout.toList) with
  | none => .error .mismatch
  | some pieces =>
    match repeatedField? pieces with
    | some field => .error (.repeated field)
    | none =>
      match Moment.ofPieces? pieces text with
      | some m => .ok m
      | none => .error .mismatch

end PageTemplate.Calendar
