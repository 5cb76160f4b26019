/-
JSON documents as texts and as bytes, with faults told by line and column.

Bytes are decoded first, in an encoding that their first four show: a byte
order mark names it, and without one the zero bytes around the first character
do, for a document begins with an ASCII character.

A document in which a surrogate stands alone is refused as such, for its texts
are not sequences of characters.
-/
import PageTemplate.Json.Reader

namespace PageTemplate.Json

/-- Why a document cannot be read. -/
inductive DocumentError where
  | malformed (reason : Reason) (line column offset : Nat)
  | tooManyDigits (count : Nat)
  | tooDeep (container : Container)
  | undecodable (e : Text.DecodingError)
  | loneSurrogate (offset : Nat)
  deriving DecidableEq, Inhabited

/-- The wording of each failure. -/
def DocumentError.message : DocumentError → String
  | .malformed reason line column offset =>
    reason.message ++ ": line " ++ toString line ++ " column " ++ toString column ++ " (char " ++
      toString offset ++ ")"
  | .tooManyDigits count =>
    "Exceeds the limit (" ++ toString digitLimit ++
      " digits) for integer string conversion: value has " ++ toString count ++
      " digits; use sys.set_int_max_str_digits() to increase the limit"
  | .tooDeep container =>
    "maximum recursion depth exceeded while decoding a JSON " ++ container.word ++
      " from a unicode string"
  | .undecodable e => e.message
  | .loneSurrogate offset => "a surrogate stands alone (char " ++ toString offset ++ ")"

/-- Tells a fault by line and column, both counted from one. -/
def locate (cs : List Char) : Fault → DocumentError
  | .tooManyDigits count => .tooManyDigits count
  | .tooDeep container => .tooDeep container
  | .loneSurrogate offset => .loneSurrogate offset
  | .at reason offset =>
    let before := cs.take offset
    let line := before.count '\n' + 1
    let column := (before.reverse.takeWhile (· != '\n')).length + 1
    .malformed reason line column offset

section Reading

variable [Platform]

/-- The value of a document of characters. -/
def ofChars (cs : List Char) : Except DocumentError Json :=
  match readDocument cs with
  | .ok value => .ok value
  | .error fault => .error (locate cs fault)

/-- The value of a document that is a text. -/
def ofText (s : String) : Except DocumentError Json := ofChars s.toList

/-- The encoding of a document of bytes and the length of its byte order mark. -/
def detectEncoding (bytes : List UInt8) : Text.Encoding × Nat :=
  let ns := bytes.map (·.toNat)
  if [0x00, 0x00, 0xFE, 0xFF].isPrefixOf ns then (.utf32 true, 4)
  else if [0xFF, 0xFE, 0x00, 0x00].isPrefixOf ns then (.utf32 false, 4)
  else if [0xFE, 0xFF].isPrefixOf ns then (.utf16 true, 2)
  else if [0xFF, 0xFE].isPrefixOf ns then (.utf16 false, 2)
  else if [0xEF, 0xBB, 0xBF].isPrefixOf ns then (.utf8, 3)
  else
    match ns with
    | 0 :: 0 :: _ :: _ :: _ => (.utf32 true, 0)
    | 0 :: _ :: _ :: _ :: _ => (.utf16 true, 0)
    | _ :: 0 :: 0 :: 0 :: _ => (.utf32 false, 0)
    | _ :: 0 :: _ :: _ :: _ => (.utf16 false, 0)
    | [0, _] => (.utf16 true, 0)
    | [_, 0] => (.utf16 false, 0)
    | _ => (.utf8, 0)

/-- The value of a document that is bytes. In UTF-8 the places of a fault are counted behind the
byte order mark, in the wider encodings before it. -/
def ofBytes (bytes : List UInt8) : Except DocumentError Json :=
  let (encoding, mark) := detectEncoding bytes
  let place := if encoding = .utf8 then 0 else mark
  match Text.decode encoding true place (bytes.drop mark) with
  | .error e => .error (if e.reason = .surrogate then .loneSurrogate e.start else .undecodable e)
  | .ok cs =>
    -- A second mark is no white space and no value either.
    if cs.head? == some '\uFEFF' then .error (locate cs (.at .expectedValue 0)) else ofChars cs

/-- The value of a document in a text file: UTF-8, with every line ended by a line feed. -/
def ofTextFile (bytes : List UInt8) : Except DocumentError Json :=
  match Text.decode .utf8 false 0 bytes with
  | .error e => .error (.undecodable e)
  | .ok cs => ofChars (Text.unifyNewlines cs)

end Reading

end PageTemplate.Json
