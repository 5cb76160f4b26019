/-
Which characters stand for themselves when a text is shown in quotes.
-/
import PageTemplate.Text.PrintableTable

namespace PageTemplate.Text

/-- Whether a code point lies in one of the inclusive ranges. -/
def inRanges (ranges : List (Nat × Nat)) (n : Nat) : Bool :=
  ranges.any fun range => range.1 ≤ n && n ≤ range.2

/-- Whether the character has a printed form of its own. -/
def isPrintable (c : Char) : Bool :=
  let n := c.toNat
  if n < 0x7F then 0x20 ≤ n else !inRanges unprintableRanges n

end PageTemplate.Text
