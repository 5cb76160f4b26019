/-
Reading binary64 numbers from text.

The grammar is a sign, then `inf`, `infinity` or `nan` in any case, or digits
with at most one point and an optional power of ten. Around it three
liberties: decimal digits of any script, blanks at both ends, and single
underscores between digits. The number is the one nearest to the exact decimal
value.
-/
import PageTemplate.Binary64.Arithmetic
import PageTemplate.Text.Blank
import PageTemplate.Text.Digit

namespace PageTemplate.Binary64

open Text

/-- The number nearest to `digits · 10^exponent`. Exponents whose result is certainly an infinity
or a zero are answered without the power. -/
def ofDecimal (negative : Bool) (digits : List Char) (exponent : Int) : Binary64 :=
  let significant := digits.dropWhile (· == '0')
  let size : Int := (significant.length : Int) + exponent
  if significant.isEmpty then zero negative
  else if 400 < size then .infinity negative
  else if size < -400 then zero negative
  else
    match exponent with
    | .ofNat k => ofRatio negative (decimalNumber significant * pow10 k) 1
    | .negSucc k => ofRatio negative (decimalNumber significant) (pow10 (k + 1))

/-- Splits an optional sign off; the flag says minus. -/
def splitSign : List Char → Bool × List Char
  | '-' :: rest => (true, rest)
  | '+' :: rest => (false, rest)
  | cs => (false, cs)

/-- The exponent that ends a numeral: nothing, or a letter `e`, a sign and digits. -/
def readExponent? : List Char → Option Int
  | [] => some 0
  | c :: rest =>
    if c = 'e' || c = 'E' then
      let (negative, digits) := splitSign rest
      if digits.isEmpty || !digits.all isAsciiDigit then none
      else
        let n : Int := decimalNumber digits
        some (if negative then -n else n)
    else none

/-- A numeral of ASCII digits without a sign. -/
def readDecimal? (negative : Bool) (cs : List Char) : Option Binary64 :=
  let whole := cs.takeWhile isAsciiDigit
  let rest := cs.dropWhile isAsciiDigit
  let (fraction, rest) :=
    match rest with
    | '.' :: tail => (tail.takeWhile isAsciiDigit, tail.dropWhile isAsciiDigit)
    | _ => ([], rest)
  if whole.isEmpty && fraction.isEmpty then none
  else
    (readExponent? rest).map fun exponent =>
      ofDecimal negative (whole ++ fraction) (exponent - fraction.length)

/-- ASCII lower case. -/
def lowerAscii (c : Char) : Char := if 'A' ≤ c && c ≤ 'Z' then Char.ofNat (c.toNat + 32) else c

/-- A number in ASCII text without liberties. -/
def readStrict? (cs : List Char) : Option Binary64 :=
  let (negative, body) := splitSign cs
  let word := String.ofList (body.map lowerAscii)
  if word = "inf" || word = "infinity" then some (.infinity negative)
  else if word = "nan" then some .nan
  else readDecimal? negative body

/-- Drops the underscores of a text in which each stands between two digits; `previous` is the
character before the text. -/
def dropUnderscores? (previous : Char) : List Char → Option (List Char)
  | [] => if previous = '_' then none else some []
  | c :: rest =>
    if c = '_' then
      if isAsciiDigit previous then dropUnderscores? c rest else none
    else if previous = '_' && !isAsciiDigit c then none
    else (dropUnderscores? c rest).map (c :: ·)

/-- Writes the digits of every script and the blanks of the other planes in ASCII; a character
without such a form becomes one that no number holds. -/
def toAscii (cs : List Char) : List Char :=
  if cs.all (·.toNat < 128) then cs
  else
    cs.map fun c =>
      if c.toNat < 127 then c
      else if isBlank c then ' '
      else
        match digitValue? c with
        | some d => Char.ofNat (48 + d)
        | none => '?'

/-- The number that a text writes, with the liberties. -/
def ofText? (s : String) : Option Binary64 :=
  let cs := trimBy isAsciiBlank (toAscii s.toList)
  if cs.contains '_' then (dropUnderscores? ' ' cs).bind readStrict? else readStrict? cs

/-- The number that a text writes, without blanks at the ends and without underscores. -/
def ofLiteral? (s : String) : Option Binary64 :=
  if Text.strip s ≠ s || s.toList.contains '_' then none else ofText? s

end PageTemplate.Binary64
