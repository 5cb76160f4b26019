/-
The types of template fields and how the literal text of a field is read as
each of them.
-/
import PageTemplate.Binary64.Reading
import PageTemplate.Calendar.Moment
import PageTemplate.Field.Segments
import PageTemplate.Json.Document
import PageTemplate.Text.Blank

namespace PageTemplate

/-- The type a field's literal text is read as; whatever else is asked for goes by its name. -/
inductive FieldType where
  | integer
  | text
  | truth
  | byte
  | decimal
  | duration
  | unsupported (name : String)
  deriving DecidableEq, Inhabited

/-- The word for a type in messages. -/
def FieldType.word : FieldType → String
  | .integer => "integer"
  | .text => "string"
  | .truth => "bool"
  | .byte => "uint8"
  | .decimal => "float"
  | .duration => "duration"
  | .unsupported name => name

/-- The value of a literal text. -/
inductive Literal where
  | integer (i : Int)
  | text (s : String)
  | truth (b : Bool)
  | byte (n : Nat)
  | decimal (x : Binary64)
  | duration (d : Calendar.Duration)
  deriving DecidableEq, Inhabited

/-- Why a field has no value. -/
inductive FieldFault where
  | malformed (name : String) (fault : SegmentFault)
  | composite (text : String)
  | mismatch (name : String) (wanted : FieldType) (text : String)
  | unsupportedType (name : String) (asked : String)
  | tooManyDigits (count : Nat)
  | notExclusive (names : List String)
  | momentOutOfRange (offset : Calendar.Duration) (start : String)
  deriving DecidableEq, Inhabited

/-- The wording of each fault. -/
def FieldFault.message : FieldFault → String
  | .malformed name fault => "error parsing data for property " ++ name ++ ": " ++ fault.message
  | .composite text => "composite properties are not yet supported: " ++ text
  | .mismatch name wanted text =>
    "failed to convert property " ++ name ++ " to " ++ wanted.word ++ ": '" ++ text ++ "'"
  | .unsupportedType name asked =>
    "cannot convert property " ++ name ++ " to unsupported type " ++ asked
  | .tooManyDigits count => (Json.DocumentError.tooManyDigits count).message
  | .notExclusive names => "exactly one of (" ++ String.intercalate "," names ++ ") must be set"
  | .momentOutOfRange offset start =>
    "failed to convert property time to duration: offset " ++ offset.text ++ " from " ++ start ++
      " is out of range"

namespace Literal

/-- The sign and the digits of an integer literal. -/
def integerDigits? (cs : List Char) : Option (Bool × List Char) :=
  let (negative, digits) := Binary64.splitSign cs
  if digits ≠ [] ∧ digits.all Text.isAsciiDigit then some (negative, digits) else none

/-- Reads an integer: ASCII digits behind at most one sign, but not more than the limit. -/
def readInteger (name text : String) : Except FieldFault Int :=
  match integerDigits? text.toList with
  | none => .error (.mismatch name .integer text)
  | some (negative, digits) =>
    if Json.digitLimit < digits.length then .error (.tooManyDigits digits.length)
    else
      let n : Int := Text.decimalNumber digits
      .ok (if negative then -n else n)

/-- The base that a letter marks. -/
def letterBase (letter : Char) : Option Nat :=
  if letter = 'x' ∨ letter = 'X' then some 16
  else if letter = 'o' ∨ letter = 'O' then some 8
  else if letter = 'b' ∨ letter = 'B' then some 2
  else none

/-- The base of an unsigned literal and its digits: a marked base, octal behind a leading zero, or
ten. -/
def splitBase (cs : List Char) : Nat × List Char :=
  match cs with
  | '0' :: c :: rest =>
    match letterBase c with
    | some base => (base, rest)
    | none => (8, c :: rest)
  | _ => (10, cs)

/-- Digits of a base may repeat the mark of that base in front. -/
def dropRepeatedMark (base : Nat) (digits : List Char) : List Char :=
  match digits with
  | '0' :: c :: rest => if letterBase c = some base then rest else digits
  | _ => digits

/-- The number that digits write in a base; every one of them has to be a digit of it. -/
def numberIn? (base : Nat) (digits : List Char) : Option Nat :=
  if digits = [] then none
  else
    digits.foldlM (fun acc c =>
      match Text.alphanumericValue? c with
      | some v => if v < base then some (acc * base + v) else none
      | none => none) 0

/-- The number of an unsigned literal. -/
def unsigned? (cs : List Char) : Option Nat :=
  let (base, digits) := splitBase cs
  numberIn? base (dropRepeatedMark base digits)

/-- Reads a number from 0 to 255. -/
def readByte (name text : String) : Except FieldFault Nat :=
  match unsigned? text.toList with
  | some n => if n ≤ 255 then .ok n else .error (.mismatch name .byte text)
  | none => .error (.mismatch name .byte text)

/-- Reads a binary64 number without blanks around it or underscores in it. -/
def readDecimal (name text : String) : Except FieldFault Binary64 :=
  match Binary64.ofLiteral? text with
  | some x => .ok x
  | none => .error (.mismatch name .decimal text)

/-- Reads a truth value. -/
def readTruth (name text : String) : Except FieldFault Bool :=
  if ["1", "t", "T", "TRUE", "true", "True"].contains text then .ok true
  else if ["0", "f", "F", "FALSE", "false", "False"].contains text then .ok false
  else .error (.mismatch name .truth text)

/-- Reads a duration. -/
def readDuration (name text : String) : Except FieldFault Calendar.Duration :=
  match Calendar.Duration.ofText? text with
  | some d => .ok d
  | none => .error (.mismatch name .duration text)

/-- Reads the literal text of a field as a type. -/
def read (type : FieldType) (name text : String) : Except FieldFault Literal :=
  match type with
  | .integer => (readInteger name text).map .integer
  | .text => .ok (.text text)
  | .truth => (readTruth name text).map .truth
  | .byte => (readByte name text).map .byte
  | .decimal => (readDecimal name text).map .decimal
  | .duration => (readDuration name text).map .duration
  | .unsupported asked => .error (.unsupportedType name asked)

end Literal

end PageTemplate
