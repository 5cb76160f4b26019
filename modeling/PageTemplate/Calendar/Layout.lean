/-
Writing a moment by a layout: text in which `%` and a letter stand for a field
of the date or the time, in English.

Between them may stand flags (`-` no padding, `_` blanks, `0` zeros, `^` upper
case, `#` the other case), a width and a letter `E` or `O` that asks for an
alternative form; English has no alternative forms, so the letter only decides
whether the field is known. What is not known is written as it stands. Three
fields are recognised only without flags: `%f`, the microseconds, and the two
of the zone, `%z` and `%Z`.
-/
import PageTemplate.Calendar.Iso
import PageTemplate.Text.Uppercase

namespace PageTemplate.Calendar

/-- A field reference: its padding flag, case flags, width, alternative and letter. -/
structure Directive where
  padding : Option Char := none
  upper : Bool := false
  swapped : Bool := false
  width : Nat := 0
  alternative : Option Char := none
  letter : Char

/-- How a field is written: a number of at least so many digits, padded with zeros or with blanks,
a word whose other case is the upper or the lower one, a word in lower case whatever is asked for,
a layout of its own, as the blanks of its width, or not at all. -/
inductive FieldForm where
  | number (value digits : Nat) (blanks : Bool)
  | word (text : List Char) (swappedLower : Bool)
  | lowerWord (text : List Char)
  | layout (text : List Char)
  | blank
  | nothing

/-- The half of the day. -/
def halfDay (hour : Nat) : String := if hour < 12 then "AM" else "PM"

/-- The hour on a clock of twelve. -/
def hourOfTwelve (hour : Nat) : Nat := if hour % 12 = 0 then 12 else hour % 12

/-- The name at a place of a list. -/
def nameAt (names : List String) (place : Nat) : String := (names[place]?).getD "?"

/-- Whether a field allows an alternative letter: `%B` allows `O` alone, `%x` allows `E` alone. -/
def allowsAlternative (letter alternative : Char) : Bool :=
  if alternative = 'E' then "cCnpPrRstTuxXyYzZ%".toList.contains letter
  else "bBCdegGhHIjklmMnpPrRsStTuUVwWyzZ%".toList.contains letter

/-- The form of a field, if the letter is known. -/
def fieldForm? (m : Moment) (letter : Char) : Option FieldForm :=
  let d := m.date
  let dayOfWeek := weekday m.dayNumber
  let fromSunday := (dayOfWeek + 1) % 7
  let dayOfYear := d.dayOfYear
  let (isoYear, isoWeekNumber) := isoWeek d
  let word := fun s : String => some (FieldForm.word s.toList false)
  let number := fun value digits => some (FieldForm.number value digits false)
  let layout := fun s : String => some (FieldForm.layout s.toList)
  match letter with
  | 'a' => word (abbreviation (nameAt weekdayNames dayOfWeek))
  | 'A' => word (nameAt weekdayNames dayOfWeek)
  | 'b' | 'h' => word (abbreviation (nameAt monthNames (d.month - 1)))
  | 'B' => word (nameAt monthNames (d.month - 1))
  | 'c' => layout "%a %b %e %H:%M:%S %Y"
  | 'C' => number (d.year / 100) 1
  | 'd' => number d.day 2
  | 'D' => layout "%m/%d/%y"
  | 'e' => some (.number d.day 2 true)
  | 'F' => layout "%Y-%m-%d"
  | 'g' => number (isoYear % 100) 2
  | 'G' => number isoYear 1
  | 'H' => number m.hour 2
  | 'I' => number (hourOfTwelve m.hour) 2
  | 'j' => number dayOfYear 3
  | 'k' => some (.number m.hour 2 true)
  | 'l' => some (.number (hourOfTwelve m.hour) 2 true)
  | 'm' => number d.month 2
  | 'M' => number m.minute 2
  | 'n' => word "\n"
  | 'p' => some (.word (halfDay m.hour).toList true)
  | 'P' => some (.lowerWord (halfDay m.hour).toList)
  | 'r' => layout "%I:%M:%S %p"
  | 'R' => layout "%H:%M"
  | 's' => word (toString ((m.micros / 1000000 : Nat) - 62135596800 : Int))
  | 'S' => number m.second 2
  | 't' => word "\t"
  | 'T' => layout "%H:%M:%S"
  | 'u' => number (dayOfWeek + 1) 1
  | 'U' => number ((dayOfYear - 1 + 7 - fromSunday) / 7) 2
  | 'V' => number isoWeekNumber 2
  | 'w' => number fromSunday 1
  | 'W' => number ((dayOfYear - 1 + 7 - dayOfWeek) / 7) 2
  | 'x' => layout "%m/%d/%y"
  | 'X' => layout "%H:%M:%S"
  | 'y' => number (d.year % 100) 2
  | 'Y' => number d.year 1
  | 'z' => some .nothing
  | 'Z' => some .blank
  | '%' => word "%"
  | _ => none

/-- Pads on the left to a width. -/
def padLeft (fill : Char) (width : Nat) (cs : List Char) : List Char :=
  List.replicate (width - cs.length) fill ++ cs

/-- A number under a directive. A width without a flag counts as more digits. -/
def writeNumber (d : Directive) (value digits : Nat) (blanks : Bool) : List Char :=
  let text := Nat.toDigits 10 value
  let wanted := if digits < d.width then d.width else digits
  match d.padding with
  | some '-' => padLeft ' ' d.width text
  | some '_' => padLeft ' ' wanted text
  | some _ => padLeft '0' wanted text
  | none => padLeft (if blanks then ' ' else '0') wanted text

/-- A word under a directive. -/
def writeWord (d : Directive) (text : List Char) (swappedLower : Bool) : List Char :=
  let text :=
    if d.swapped then text.map (if swappedLower then Binary64.lowerAscii else Text.upperChar)
    else if d.upper then text.map Text.upperChar
    else text
  padLeft (if d.padding = some '0' then '0' else ' ') d.width text

/-- The directive behind a `%` and what follows it. A layout ends at a NUL, so that is the letter of
a directive that the end cuts off. Widths beyond the widest one are all alike. -/
def readDirective (widest : Nat) (cs : List Char) : Directive × List Char :=
  let isFlag := fun c : Char => "_-0^#".toList.contains c
  let flags := cs.takeWhile isFlag
  let rest := cs.dropWhile isFlag
  let width := rest.takeWhile Text.isAsciiDigit
  let rest := rest.dropWhile Text.isAsciiDigit
  let (alternative, rest) :=
    match rest with
    | 'E' :: tail => (some 'E', tail)
    | 'O' :: tail => (some 'O', tail)
    | _ => (none, rest)
  let padding := flags.reverse.find? fun c => c == '_' || c == '-' || c == '0'
  ({ padding := padding, upper := flags.contains '^', swapped := flags.contains '#',
     width := Nat.min (Text.decimalNumber width) widest, alternative := alternative,
     letter := rest.headD '\x00' },
    rest.drop 1)

/-- Whether a field is known under the alternative letter of a directive, if there is one. -/
def Directive.isAllowed (d : Directive) : Bool :=
  match d.alternative with
  | some alternative => allowsAlternative d.letter alternative
  | none => true

/-- A directive written out, given its source text and how a layout that it stands for is
written. -/
def writeDirective (m : Moment) (d : Directive) (source : List Char)
    (inner : List Char → List Char) : List Char :=
  match (fieldForm? m d.letter).filter fun _ => d.isAllowed with
  | some (.number value digits blanks) => writeNumber d value digits blanks
  | some (.word text swappedLower) => writeWord d text swappedLower
  | some (.lowerWord text) =>
    writeWord { d with swapped := false, upper := false } (text.map Binary64.lowerAscii) false
  | some (.layout text) => writeWord { d with swapped := false } (inner text) false
  | some .blank => writeWord d [] false
  | some .nothing => []
  | none =>
    -- The short names of the months note the case flag before they refuse the alternative.
    writeWord { d with swapped := d.swapped && (d.letter == 'b' || d.letter == 'h') } source false

/-- Writes a layout whose fields of the zone and below the second have been filled in; `inner`
writes the layouts that fields stand for. -/
def writeLayoutWith (m : Moment) (widest : Nat) (inner : List Char → List Char) :
    (fuel : Nat) → List Char → List Char
  | 0, _ => []
  | _ + 1, [] => []
  | fuel + 1, c :: rest =>
    if c = '%' then
      let (d, after) := readDirective widest rest
      writeDirective m d (c :: rest.take (rest.length - after.length)) inner ++
        writeLayoutWith m widest inner fuel after
    else c :: writeLayoutWith m widest inner fuel rest

/-- The room for what a layout of so many characters writes: the first of 1024, 2048, 4096 … that
holds 256 characters for each of them. -/
def roomFor (length : Nat) : Nat :=
  if 256 * length ≤ 1024 then 1024 else pow2 (Nat.log2 (256 * length - 1) + 1)

/-- Writes a layout; those that fields stand for hold no such fields themselves. What does not fit
into its room is not written at all. -/
def writeLayout (m : Moment) (cs : List Char) : List Char :=
  let room := roomFor cs.length
  let text := writeLayoutWith m room (fun text => writeLayoutWith m room id text.length text)
    cs.length cs
  if text.length < room then text else []

/-- What stands for `%` and a letter when the fields without flags are filled in. -/
def plainField (m : Moment) (letter : Char) : List Char :=
  if letter = 'f' then Text.padded '0' 6 m.microsecond
  else if letter = 'z' then ((m.zone.map (·.offsetText "")).getD "").toList
  else if letter = 'Z' then
    ((m.zone.map (·.label)).getD "").toList.flatMap fun c => if c = '%' then ['%', '%'] else [c]
  else ['%', letter]

/-- Fills in the fields that are recognised only without flags. -/
def fillPlainFields (m : Moment) : List Char → List Char
  | [] => []
  | [c] => [c]
  | c :: letter :: rest =>
    if c = '%' then plainField m letter ++ fillPlainFields m rest
    else c :: fillPlainFields m (letter :: rest)

/-- Writes the moment by a layout; the layout ends at its first NUL. -/
def Moment.format (m : Moment) (layout : String) : String :=
  let plain := fillPlainFields m (layout.toList.takeWhile (· != '\x00'))
  String.ofList (writeLayout m plain)

end PageTemplate.Calendar
