/-
Reading JSON text.

A reader is a function from a cursor, the unread characters with the offset of
the first, to a value and the cursor behind it. It stops at the first fault,
and a fault knows its offset. The grammar is that of JSON with three more
numbers (`NaN`, `Infinity`, `-Infinity`); between tokens only space, tab, line
feed and carriage return may stand.
-/
import PageTemplate.Binary64.Reading
import PageTemplate.Json.Basic
import PageTemplate.Text.Decoding

namespace PageTemplate.Json

/-- Why a text is no JSON. -/
inductive Reason where
  | expectedValue
  | extraData
  | expectedComma
  | expectedColon
  | expectedKey
  | unterminatedString
  | controlCharacter
  | badEscape
  | badUnicodeEscape
  | byteOrderMark
  deriving DecidableEq, Inhabited

/-- The wording of each reason. -/
def Reason.message : Reason → String
  | .expectedValue => "Expecting value"
  | .extraData => "Extra data"
  | .expectedComma => "Expecting ',' delimiter"
  | .expectedColon => "Expecting ':' delimiter"
  | .expectedKey => "Expecting property name enclosed in double quotes"
  | .unterminatedString => "Unterminated string starting at"
  | .controlCharacter => "Invalid control character at"
  | .badEscape => "Invalid \\escape"
  | .badUnicodeEscape => "Invalid \\uXXXX escape"
  | .byteOrderMark => "Unexpected UTF-8 BOM (decode using utf-8-sig)"

/-- The two kinds of values that hold others. -/
inductive Container where
  | array
  | object
  deriving DecidableEq, Inhabited

/-- The word for a kind of container. -/
def Container.word : Container → String
  | .array => "array"
  | .object => "object"

/-- What stops the reader: a fault at an offset, a whole number of more digits than are read, a container
inside more of them than are read, or the escape of a surrogate that stands alone. -/
inductive Fault where
  | at (reason : Reason) (offset : Nat)
  | tooManyDigits (count : Nat)
  | tooDeep (container : Container)
  | loneSurrogate (offset : Nat)
  deriving DecidableEq, Inhabited

/-- The unread characters and the offset of the first. -/
structure Cursor where
  offset : Nat
  rest : List Char

/-- The cursor `n` characters further on. -/
def Cursor.advance (c : Cursor) (n : Nat) : Cursor := ⟨c.offset + n, c.rest.drop n⟩

/-- Whether the character may stand between tokens. -/
def isSpace (c : Char) : Bool := c == ' ' || c == '\t' || c == '\n' || c == '\r'

/-- The cursor behind the characters that may stand between tokens. -/
def Cursor.skipSpace (c : Cursor) : Cursor := c.advance (c.rest.takeWhile isSpace).length

/-- A value and the cursor behind it. -/
abbrev Read (α : Type) := Except Fault (α × Cursor)

/-- The character behind a backslash, other than `u`, and what it stands for. -/
def escapedChar? : Char → Option Char
  | '"' => some '"'
  | '\\' => some '\\'
  | '/' => some '/'
  | 'b' => some '\x08'
  | 'f' => some '\x0c'
  | 'n' => some '\n'
  | 'r' => some '\r'
  | 't' => some '\t'
  | _ => none

/-- The number of four hexadecimal digits. -/
def hexNumber? : List Char → Option Nat
  | [a, b, c, d] => do
    let a ← Text.hexValue? a
    let b ← Text.hexValue? b
    let c ← Text.hexValue? c
    let d ← Text.hexValue? d
    some (a * 4096 + b * 256 + c * 16 + d)
  | _ => none

/-- The escape behind `\u`, whose cursor stands at the `u`: the character and the number of
characters it takes from there. A high surrogate joins with a low one that follows as an escape of
its own; any other surrogate is no character, and stops the reader. The text must go on behind the
escape. -/
def readUnicodeEscape (c : Cursor) : Except Fault (Char × Nat) :=
  let digits := c.rest.drop 1
  if digits.length ≤ 4 then .error (.at .badUnicodeEscape c.offset)
  else
    match hexNumber? (digits.take 4) with
    | none => .error (.at .badUnicodeEscape c.offset)
    | some high =>
      let after := digits.drop 4
      if 0xD800 ≤ high && high < 0xDC00 && 6 < after.length && after.take 2 == ['\\', 'u'] then
        match hexNumber? ((after.drop 2).take 4) with
        | none => .error (.at .badUnicodeEscape (c.offset + 6))
        | some low =>
          if 0xDC00 ≤ low && low < 0xE000 then
            .ok (Char.ofNat (0x10000 + (high - 0xD800) * 1024 + (low - 0xDC00)), 11)
          else .error (.loneSurrogate c.offset)
      else if Text.isSurrogate high then .error (.loneSurrogate c.offset)
      else .ok (Char.ofNat high, 5)

/-- The rest of a string that was opened at `start`, behind the characters in `taken`, last first.
Each step takes a character at least. -/
def readStringFrom (start : Nat) : (fuel : Nat) → List Char → Cursor → Read String
  | 0, _, _ => .error (.at .unterminatedString start)
  | fuel + 1, taken, c =>
    match c.rest with
    | [] => .error (.at .unterminatedString start)
    | '"' :: _ => .ok (String.ofList taken.reverse, c.advance 1)
    | '\\' :: [] => .error (.at .unterminatedString start)
    | '\\' :: 'u' :: _ =>
      match readUnicodeEscape (c.advance 1) with
      | .error e => .error e
      | .ok (char, width) => readStringFrom start fuel (char :: taken) (c.advance (1 + width))
    | '\\' :: d :: _ =>
      match escapedChar? d with
      | none => .error (.at .badEscape c.offset)
      | some char => readStringFrom start fuel (char :: taken) (c.advance 2)
    | d :: _ =>
      if d.toNat < 0x20 then .error (.at .controlCharacter c.offset)
      else readStringFrom start fuel (d :: taken) (c.advance 1)

/-- A string whose opening quote is at the cursor. -/
def readString (c : Cursor) : Read String :=
  readStringFrom c.offset (c.rest.length + 1) [] (c.advance 1)

/-- The digits at the head of a list. -/
def leadingDigits (cs : List Char) : List Char := cs.takeWhile Text.isAsciiDigit

/-- The whole part of a number: a zero alone, or digits that start with another. -/
def wholePart (cs : List Char) : List Char :=
  match cs with
  | '0' :: _ => ['0']
  | _ => leadingDigits cs

/-- The fraction at the head of a list: a point and at least one digit, or nothing. -/
def fractionPart (cs : List Char) : List Char :=
  match cs with
  | '.' :: rest => if (leadingDigits rest).isEmpty then [] else '.' :: leadingDigits rest
  | _ => []

/-- The power of ten at the head of a list: a letter, perhaps a sign, and at least one digit, or
nothing. -/
def exponentPart (cs : List Char) : List Char :=
  match cs with
  | e :: rest =>
    if e = 'e' || e = 'E' then
      match rest with
      | s :: digits =>
        if s = '-' || s = '+' then
          if (leadingDigits digits).isEmpty then [] else e :: s :: leadingDigits digits
        else if (leadingDigits rest).isEmpty then [] else e :: leadingDigits rest
      | [] => []
    else []
  | [] => []

/-- A number at the cursor. Without a whole part there is no value. -/
def readNumber (c : Cursor) : Read Json :=
  let negative := c.rest.head? == some '-'
  let body := if negative then c.rest.drop 1 else c.rest
  let whole := wholePart body
  if whole.isEmpty then .error (.at .expectedValue c.offset)
  else
    let fraction := fractionPart (body.drop whole.length)
    let power := exponentPart (body.drop (whole.length + fraction.length))
    let size := (if negative then 1 else 0) + whole.length + fraction.length + power.length
    if fraction.isEmpty && power.isEmpty then
      if digitLimit < whole.length then .error (.tooManyDigits whole.length)
      else
        let n : Int := Text.decimalNumber whole
        .ok (.int (if negative then -n else n), c.advance size)
    else
      let value := (Binary64.readDecimal? negative (whole ++ fraction ++ power)).getD .nan
      .ok (.float value, c.advance size)

/-- A word with a fixed value. -/
def keyword? (cs : List Char) : Option (Json × Nat) :=
  if "null".toList.isPrefixOf cs then some (.null, 4)
  else if "true".toList.isPrefixOf cs then some (.bool true, 4)
  else if "false".toList.isPrefixOf cs then some (.bool false, 5)
  else if "NaN".toList.isPrefixOf cs then some (.float .nan, 3)
  else if "Infinity".toList.isPrefixOf cs then some (.float (.infinity false), 8)
  else if "-Infinity".toList.isPrefixOf cs then some (.float (.infinity true), 9)
  else none

mutual

/-- A value at the cursor. The fuel bounds the values that are still to be read, and `room` is how
many containers more may be opened inside each other. -/
def readValue : (fuel room : Nat) → Cursor → Read Json
  | 0, _, c => .error (.at .expectedValue c.offset)
  | fuel + 1, room, c =>
    match c.rest with
    | '"' :: _ =>
      match readString c with
      | .error e => .error e
      | .ok (s, c) => .ok (.string s, c)
    | '\x7b' :: _ =>
      match room with
      | 0 => .error (.tooDeep .object)
      | room + 1 =>
        let c := (c.advance 1).skipSpace
        if c.rest.head? == some '\x7d' then .ok (.object [], c.advance 1)
        else readFields fuel room [] c
    | '[' :: _ =>
      match room with
      | 0 => .error (.tooDeep .array)
      | room + 1 =>
        let c := (c.advance 1).skipSpace
        if c.rest.head? == some ']' then .ok (.array [], c.advance 1)
        else readItems fuel room [] c
    | _ =>
      match keyword? c.rest with
      | some (value, width) => .ok (value, c.advance width)
      | none => readNumber c

/-- The items of an array behind those in `taken`, last first. -/
def readItems : (fuel room : Nat) → List Json → Cursor → Read Json
  | 0, _, _, c => .error (.at .expectedValue c.offset)
  | fuel + 1, room, taken, c =>
    match readValue fuel room c with
    | .error e => .error e
    | .ok (item, c) =>
      let c := c.skipSpace
      match c.rest with
      | ']' :: _ => .ok (.array (item :: taken).reverse, c.advance 1)
      | ',' :: _ => readItems fuel room (item :: taken) (c.advance 1).skipSpace
      | _ => .error (.at .expectedComma c.offset)

/-- The fields of an object behind those in `taken`; of two with one key the later value stands. -/
def readFields : (fuel room : Nat) → Dictionary Json → Cursor → Read Json
  | 0, _, _, c => .error (.at .expectedKey c.offset)
  | fuel + 1, room, taken, c =>
    if c.rest.head? != some '"' then .error (.at .expectedKey c.offset)
    else
      match readString c with
      | .error e => .error e
      | .ok (key, c) =>
        let c := c.skipSpace
        if c.rest.head? != some ':' then .error (.at .expectedColon c.offset)
        else
          match readValue fuel room (c.advance 1).skipSpace with
          | .error e => .error e
          | .ok (value, c) =>
            let taken := taken.insert key value
            let c := c.skipSpace
            match c.rest with
            | '\x7d' :: _ => .ok (.object taken, c.advance 1)
            | ',' :: _ => readFields fuel room taken (c.advance 1).skipSpace
            | _ => .error (.at .expectedComma c.offset)

end

/-- The one value of a text: no byte order mark before it, nothing but space around it. -/
def readDocument [Platform] (cs : List Char) : Except Fault Json :=
  if cs.head? == some '\uFEFF' then .error (.at .byteOrderMark 0)
  else
    match readValue (2 * cs.length + 2) Platform.readingDepth (Cursor.mk 0 cs).skipSpace with
    | .error e => .error e
    | .ok (value, c) =>
      let c := c.skipSpace
      if c.rest.isEmpty then .ok value else .error (.at .extraData c.offset)

end PageTemplate.Json
