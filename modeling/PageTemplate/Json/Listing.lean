/-
Writing an object of texts as a JSON document over several lines: one field a
line, the keys in code point order, and everything outside printable ASCII
escaped.
-/
import PageTemplate.Dictionary
import PageTemplate.Text.Digit
import PageTemplate.Text.Order

namespace PageTemplate.Json

/-- The escape of a UTF-16 unit. -/
def unitEscape (n : Nat) : List Char := '\\' :: 'u' :: Text.hexText 4 n

/-- One character inside a JSON string; a character beyond the first plane is two units. -/
def escapedChar (c : Char) : List Char :=
  let n := c.toNat
  if c = '"' || c = '\\' then ['\\', c]
  else if c = '\n' then ['\\', 'n']
  else if c = '\r' then ['\\', 'r']
  else if c = '\t' then ['\\', 't']
  else if n = 8 then ['\\', 'b']
  else if n = 12 then ['\\', 'f']
  else if 0x20 ≤ n && n < 0x7F then [c]
  else if n < 0x10000 then unitEscape n
  else unitEscape (0xD800 + (n - 0x10000) / 1024) ++ unitEscape (0xDC00 + (n - 0x10000) % 1024)

/-- A text as a JSON string. -/
def stringLiteral (s : String) : String :=
  String.ofList ('"' :: (s.toList.flatMap escapedChar ++ ['"']))

/-- The fields in the order of their keys. -/
def sortedFields (fields : Dictionary String) : Dictionary String :=
  fields.mergeSort fun a b => Text.codePointLe a.1.toList b.1.toList

/-- The document of an object of texts; an empty object stays on one line. -/
def listing (fields : Dictionary String) : String :=
  if fields.isEmpty then "\x7b\x7d"
  else
    let lines := (sortedFields fields).map fun (key, value) =>
      "  " ++ stringLiteral key ++ ": " ++ stringLiteral value
    "\x7b\n" ++ String.intercalate ",\n" lines ++ "\n\x7d"

end PageTemplate.Json
