/-
Bytes as base64 text. Writing pads the last group with equals signs; reading
takes a text with any number of them at its end, for it supplies those that
its length lacks, and allows them nowhere else.
-/
namespace PageTemplate.Base64

/-- The sixty-four characters, in the order of their values. -/
def alphabet : List Char :=
  "ABCDEFGHIJKLMNOPQRSTUVWXYZabcdefghijklmnopqrstuvwxyz0123456789+/".toList

/-- The value of a character of the alphabet. -/
def value? (c : Char) : Option Nat :=
  if 'A' ≤ c && c ≤ 'Z' then some (c.toNat - 65)
  else if 'a' ≤ c && c ≤ 'z' then some (c.toNat - 71)
  else if '0' ≤ c && c ≤ '9' then some (c.toNat + 4)
  else if c = '+' then some 62
  else if c = '/' then some 63
  else none

/-- The character of a value. -/
def character (v : Nat) : Char := (alphabet[v]?).getD '='

/-- The padded text of some bytes. -/
def encode : List UInt8 → List Char
  | [] => []
  | [a] => [character (a.toNat / 4), character (a.toNat % 4 * 16), '=', '=']
  | [a, b] =>
    [character (a.toNat / 4), character (a.toNat % 4 * 16 + b.toNat / 16),
      character (b.toNat % 16 * 4), '=']
  | a :: b :: c :: rest =>
    character (a.toNat / 4) :: character (a.toNat % 4 * 16 + b.toNat / 16) ::
      character (b.toNat % 16 * 4 + c.toNat / 64) :: character (c.toNat % 64) :: encode rest

/-- Why a text is no base64 text. -/
inductive Fault where
  | notAscii
  | leadingPadding
  | dataAfterPadding
  | paddingBetweenData
  | foreignCharacter
  | loneCharacter (count : Nat)
  | missingPadding
  deriving DecidableEq, Inhabited

/-- The wording of each fault. -/
def Fault.message : Fault → String
  | .notAscii => "string argument should contain only ASCII characters"
  | .leadingPadding => "Leading padding not allowed"
  | .dataAfterPadding => "Excess data after padding"
  | .paddingBetweenData => "Discontinuous padding not allowed"
  | .foreignCharacter => "Only base64 data is allowed"
  | .loneCharacter count =>
    "Invalid base64-encoded string: number of data characters (" ++ toString count ++
      ") cannot be 1 more than a multiple of 4"
  | .missingPadding => "Incorrect padding"

/-- The bytes that a list of values writes. A last group of two or three values writes one or two;
the bits that are left over do not count. -/
def bytesOf : List Nat → List UInt8
  | a :: b :: c :: d :: rest =>
    UInt8.ofNat (a * 4 + b / 16) :: UInt8.ofNat (b % 16 * 16 + c / 4) ::
      UInt8.ofNat (c % 4 * 64 + d) :: bytesOf rest
  | [a, b, c] => [UInt8.ofNat (a * 4 + b / 16), UInt8.ofNat (b % 16 * 16 + c / 4)]
  | [a, b] => [UInt8.ofNat (a * 4 + b / 16)]
  | _ => []

/-- What the end of the text makes of `count` values read: whole groups only. -/
def atEnd (count : Nat) : Except Fault Unit :=
  if count % 4 = 0 then .ok ()
  else if count % 4 = 1 then .error (.loneCharacter count)
  else .error .missingPadding

/-- The values of a text of which `count` values and, since then, `pads` equals signs have been
read; `padded` tells whether there was any equals sign at all. Equals signs that fill up a group
end the text; those behind a whole group are ignored. -/
def readValues (count pads : Nat) (padded : Bool) : List Char → Except Fault (List Nat)
  | [] => (atEnd count).map fun _ => []
  | c :: rest =>
    if c = '=' then
      if 2 ≤ count % 4 then
        if 4 ≤ count % 4 + (pads + 1) then
          if rest.isEmpty then .ok [] else .error .dataAfterPadding
        else readValues count (pads + 1) true rest
      else readValues count pads true rest
    else
      match value? c with
      | none => .error .foreignCharacter
      | some v =>
        if padded then .error .paddingBetweenData
        else (readValues (count + 1) pads padded rest).map (v :: ·)

/-- The bytes of a text that has all its padding. -/
def decodePadded (cs : List Char) : Except Fault (List UInt8) :=
  if cs.head? = some '=' then .error .leadingPadding
  else (readValues 0 0 false cs).map bytesOf

/-- The equals signs that bring a length to a multiple of four. -/
def paddingFor (length : Nat) : List Char := List.replicate ((4 - length % 4) % 4) '='

/-- The bytes of a text, whatever part of its padding it has. -/
def decode (s : String) : Except Fault (List UInt8) :=
  let cs := s.toList ++ paddingFor s.toList.length
  if cs.all fun c => c.toNat < 128 then decodePadded cs else .error .notAscii

end PageTemplate.Base64
