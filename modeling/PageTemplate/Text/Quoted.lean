/-
Texts and byte strings as they are shown inside messages: in single quotes,
or in double quotes when the content holds a single quote and no double one;
the quote and the backslash are escaped, and so is whatever has no printed
form.
-/
import PageTemplate.Text.Digit
import PageTemplate.Text.Printable

namespace PageTemplate.Text

/-- The quote that surrounds a content: the double one only where it saves an escape. -/
def quoteFor (cs : List Char) : Char :=
  if cs.contains '\'' && !cs.contains '"' then '"' else '\''

/-- The escape by code point: two hexadecimal digits after `x`, four after `u`, eight after `U`. -/
def codePointEscape (n : Nat) : List Char :=
  if n < 0x100 then '\\' :: 'x' :: hexText 2 n
  else if n < 0x10000 then '\\' :: 'u' :: hexText 4 n
  else '\\' :: 'U' :: hexText 8 n

/-- One character of a quoted text. -/
def quotedChar (quote c : Char) : List Char :=
  if c = quote || c = '\\' then ['\\', c]
  else if c = '\n' then ['\\', 'n']
  else if c = '\r' then ['\\', 'r']
  else if c = '\t' then ['\\', 't']
  else if isPrintable c then [c]
  else codePointEscape c.toNat

/-- The text in quotes. -/
def quoted (s : String) : String :=
  let cs := s.toList
  let quote := quoteFor cs
  String.ofList (quote :: (cs.flatMap (quotedChar quote) ++ [quote]))

/-- One byte of a quoted byte string: only the printable ASCII bytes stand for themselves. -/
def quotedByte (quote : Char) (b : UInt8) : List Char :=
  let n := b.toNat
  if n < 0x20 || 0x7F ≤ n then
    match quotedChar quote (Char.ofNat n) with
    | ['\\', c] => ['\\', c]
    | _ => codePointEscape n
  else quotedChar quote (Char.ofNat n)

/-- A byte string in quotes behind the letter `b`. -/
def quotedBytes (bytes : List UInt8) : String :=
  let quote := quoteFor (bytes.map fun b => Char.ofNat b.toNat)
  String.ofList ('b' :: quote :: (bytes.flatMap (quotedByte quote) ++ [quote]))

end PageTemplate.Text
