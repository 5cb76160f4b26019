/-
Turning bytes into text: UTF-8, UTF-16 and UTF-32, with the place and the
reason of the first byte that cannot be read.

A text is a sequence of characters, and no character corresponds to a surrogate
that stands alone. Where a reader would take one all the same, as `tolerant`
says, the bytes are refused with a reason of their own.
-/
import PageTemplate.Text.Digit

namespace PageTemplate.Text

/-- The byte layouts of text. -/
inductive Encoding where
  | utf8
  | utf16 (bigEndian : Bool)
  | utf32 (bigEndian : Bool)
  deriving DecidableEq, Inhabited

/-- The name of an encoding inside messages. -/
def Encoding.name : Encoding → String
  | .utf8 => "utf-8"
  | .utf16 big => if big then "utf-16-be" else "utf-16-le"
  | .utf32 big => if big then "utf-32-be" else "utf-32-le"

/-- Why bytes are no text. -/
inductive DecodingReason where
  | invalidStart
  | invalidContinuation
  | unexpectedEnd
  | truncated
  | outOfRange
  | surrogate
  deriving DecidableEq, Inhabited

/-- The wording of each reason. -/
def DecodingReason.message : DecodingReason → String
  | .invalidStart => "invalid start byte"
  | .invalidContinuation => "invalid continuation byte"
  | .unexpectedEnd => "unexpected end of data"
  | .truncated => "truncated data"
  | .outOfRange => "code point not in range(0x110000)"
  | .surrogate => "surrogates not allowed"

/-- Bytes that are no text in an encoding: the `count` bytes from `start` on, of which `first` is
the first. -/
structure DecodingError where
  encoding : Encoding
  first : UInt8
  start : Nat
  count : Nat
  reason : DecodingReason
  deriving DecidableEq, Inhabited

/-- One byte is named by its value, several by their places. -/
def DecodingError.message (e : DecodingError) : String :=
  let place :=
    if e.count = 1 then
      "byte 0x" ++ String.ofList (hexText 2 e.first.toNat) ++ " in position " ++ toString e.start
    else "bytes in position " ++ toString e.start ++ "-" ++ toString (e.start + e.count - 1)
  "'" ++ e.encoding.name ++ "' codec can't decode " ++ place ++ ": " ++ e.reason.message

/-- What stands at the head of a list of bytes: a code point of some width, or an unreadable stretch
of some width. -/
inductive DecodingStep where
  | codePoint (value width : Nat)
  | unreadable (reason : DecodingReason) (width : Nat)

/-- Whether a byte continues a UTF-8 sequence. -/
def isContinuation (b : UInt8) : Bool := 0x80 ≤ b.toNat && b.toNat < 0xC0

/-- Whether the second byte is allowed after the first of a sequence of three or four: it rules out
overlong forms, surrogates and values beyond the last plane. -/
def secondAllowed (b0 b1 : UInt8) : Bool :=
  let lead := b0.toNat
  let next := b1.toNat
  isContinuation b1 &&
    (if lead = 0xE0 then 0xA0 ≤ next
     else if lead = 0xED then next < 0xA0
     else if lead = 0xF0 then 0x90 ≤ next
     else if lead = 0xF4 then next < 0x90
     else true)

/-- A surrogate written in three bytes, which strict UTF-8 refuses. -/
def isEncodedSurrogate : List UInt8 → Bool
  | b0 :: b1 :: b2 :: _ => b0.toNat == 0xED && 0xA0 ≤ b1.toNat && isContinuation b1 && isContinuation b2
  | _ => false

/-- The UTF-8 sequence at the head of the bytes. -/
def utf8Step (bytes : List UInt8) : DecodingStep :=
  match bytes with
  | [] => .unreadable .unexpectedEnd 0
  | b0 :: rest =>
    let lead := b0.toNat
    if lead < 0x80 then .codePoint lead 1
    else if lead < 0xC2 || 0xF5 ≤ lead then .unreadable .invalidStart 1
    else if lead < 0xE0 then
      match rest with
      | [] => .unreadable .unexpectedEnd 1
      | b1 :: _ =>
        if isContinuation b1 then .codePoint ((lead - 0xC0) * 64 + (b1.toNat - 0x80)) 2
        else .unreadable .invalidContinuation 1
    else if lead < 0xF0 then
      match rest with
      | [] => .unreadable .unexpectedEnd 1
      | b1 :: tail =>
        if !secondAllowed b0 b1 then .unreadable .invalidContinuation 1
        else
          match tail with
          | [] => .unreadable .unexpectedEnd 2
          | b2 :: _ =>
            if isContinuation b2 then
              .codePoint ((lead - 0xE0) * 4096 + (b1.toNat - 0x80) * 64 + (b2.toNat - 0x80)) 3
            else .unreadable .invalidContinuation 2
    else
      match rest with
      | [] => .unreadable .unexpectedEnd 1
      | b1 :: tail =>
        if !secondAllowed b0 b1 then .unreadable .invalidContinuation 1
        else
          match tail with
          | [] => .unreadable .unexpectedEnd 2
          | b2 :: tail =>
            if !isContinuation b2 then .unreadable .invalidContinuation 2
            else
              match tail with
              | [] => .unreadable .unexpectedEnd 3
              | b3 :: _ =>
                if isContinuation b3 then
                  .codePoint ((lead - 0xF0) * 262144 + (b1.toNat - 0x80) * 4096 +
                    (b2.toNat - 0x80) * 64 + (b3.toNat - 0x80)) 4
                else .unreadable .invalidContinuation 3

/-- The number of two or four bytes in either order. -/
def byteNumber (bigEndian : Bool) (bytes : List UInt8) : Nat :=
  (if bigEndian then bytes else bytes.reverse).foldl (fun acc b => acc * 256 + b.toNat) 0

/-- The UTF-16 sequence at the head of the bytes; a surrogate without its partner is the code point
of that surrogate. -/
def utf16Step (bigEndian : Bool) (bytes : List UInt8) : DecodingStep :=
  match bytes with
  | [] => .unreadable .truncated 0
  | [_] => .unreadable .truncated 1
  | b0 :: b1 :: rest =>
    let unit := byteNumber bigEndian [b0, b1]
    if 0xD800 ≤ unit && unit < 0xDC00 then
      match rest with
      | b2 :: b3 :: _ =>
        let low := byteNumber bigEndian [b2, b3]
        if 0xDC00 ≤ low && low < 0xE000 then
          .codePoint (0x10000 + (unit - 0xD800) * 1024 + (low - 0xDC00)) 4
        else .codePoint unit 2
      | _ => .codePoint unit 2
    else .codePoint unit 2

/-- The UTF-32 unit at the head of the bytes. -/
def utf32Step (bigEndian : Bool) (bytes : List UInt8) : DecodingStep :=
  match bytes with
  | b0 :: b1 :: b2 :: b3 :: _ =>
    let unit := byteNumber bigEndian [b0, b1, b2, b3]
    if unit < 0x110000 then .codePoint unit 4 else .unreadable .outOfRange 4
  | _ => .unreadable .truncated bytes.length

/-- Whether a code point is a surrogate. -/
def isSurrogate (n : Nat) : Bool := 0xD800 ≤ n && n < 0xE000

/-- A step whose code point is a character. -/
def DecodingStep.ofCharacter : DecodingStep → DecodingStep
  | .codePoint value width => if isSurrogate value then .unreadable .surrogate width else .codePoint value width
  | step => step

/-- The sequence at the head of the bytes in an encoding. -/
def decodingStep (encoding : Encoding) (tolerant : Bool) (bytes : List UInt8) : DecodingStep :=
  match encoding with
  | .utf8 =>
    if tolerant && isEncodedSurrogate bytes then .unreadable .surrogate 3 else utf8Step bytes
  | .utf16 big => (utf16Step big bytes).ofCharacter
  | .utf32 big => (utf32Step big bytes).ofCharacter

/-- Decodes from a place on; every step takes at least one byte, so as much fuel as there are bytes
is enough. -/
def decodeFrom (encoding : Encoding) (tolerant : Bool) :
    (fuel place : Nat) → List UInt8 → Except DecodingError (List Char)
  | 0, _, _ => .ok []
  | _ + 1, _, [] => .ok []
  | fuel + 1, place, b :: rest =>
    match decodingStep encoding tolerant (b :: rest) with
    | .codePoint value width =>
      match decodeFrom encoding tolerant fuel (place + width) ((b :: rest).drop width) with
      | .ok cs => .ok (Char.ofNat value :: cs)
      | .error e => .error e
    | .unreadable reason width => .error ⟨encoding, b, place, width, reason⟩

/-- The text of bytes in an encoding; `place` is the number of bytes that stood before them. -/
def decode (encoding : Encoding) (tolerant : Bool) (place : Nat) (bytes : List UInt8) :
    Except DecodingError (List Char) :=
  decodeFrom encoding tolerant bytes.length place bytes

/-- Reads `\r\n` and a lone `\r` as a line feed. -/
def unifyNewlines : List Char → List Char
  | [] => []
  | '\r' :: '\n' :: rest => '\n' :: unifyNewlines rest
  | '\r' :: rest => '\n' :: unifyNewlines rest
  | c :: rest => c :: unifyNewlines rest

/-- The bytes of a text in UTF-8. -/
def encodeUtf8 (s : String) : List UInt8 := s.toUTF8.toList

end PageTemplate.Text
