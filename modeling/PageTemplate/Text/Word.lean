/-
Which characters words and names consist of.
-/
import PageTemplate.Text.Printable
import PageTemplate.Text.WordTable

namespace PageTemplate.Text

/-- Whether the character is a letter, stands for a number, or is the underscore. -/
def isWord (c : Char) : Bool :=
  let n := c.toNat
  if n < 0x80 then c.isAlphanum || c == '_' else inRanges wordRanges n

end PageTemplate.Text
