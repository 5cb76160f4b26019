/-
How wide a text is in one of the standard fonts: the widths of its characters
are added as integers, and the sum is scaled to the size of the font in
binary64.

A character that a font for text does not have is taken from the two fonts of
signs, and one that those do not have either is drawn as a box.
-/
import PageTemplate.Binary64.Arithmetic
import PageTemplate.Binary64.Integer
import PageTemplate.Platform.WidthTables

namespace PageTemplate.Plain

/-- The width of a character in a table, if it is there. -/
def WidthTable.width? (t : WidthTable) (code : Nat) : Option Nat :=
  t.findSome? fun (first, widths) => if first ≤ code then widths[code - first]? else none

/-- The tables that a font for text looks into: its own one, then those of the two fonts of signs. -/
def withSigns (own : WidthTable) : List WidthTable := [own, symbol, zapfDingbats]

/-- The standard fonts, each with the tables its characters are looked up in. A slanted font without serifs has
the widths of the upright one. -/
def standard : List (String × List WidthTable) := [
  ("Courier", withSigns courier), ("Courier-Bold", withSigns courier),
  ("Courier-Oblique", withSigns courier), ("Courier-BoldOblique", withSigns courier),
  ("Helvetica", withSigns helvetica), ("Helvetica-Bold", withSigns helveticaBold),
  ("Helvetica-Oblique", withSigns helvetica), ("Helvetica-BoldOblique", withSigns helveticaBold),
  ("Times-Roman", withSigns timesRoman), ("Times-Bold", withSigns timesBold),
  ("Times-Italic", withSigns timesItalic), ("Times-BoldItalic", withSigns timesBoldItalic),
  ("Symbol", [symbol]), ("ZapfDingbats", [zapfDingbats])]

/-- The tables of a font; one that is not standard is measured as Helvetica. -/
def tables (font : String) : List WidthTable := (standard.lookup font).getD (withSigns helvetica)

/-- The width of the box that stands for a character that no font has. -/
def missingWidth : Nat := 761

/-- The width of a character in thousandths of the font size, from the first table that has it. -/
def characterWidth (tables : List WidthTable) (c : Char) : Nat :=
  (tables.findSome? fun t => t.width? c.toNat).getD missingWidth

/-- The sum of the widths of a text's characters. -/
def totalWidth (tables : List WidthTable) (cs : List Char) : Nat :=
  cs.foldl (fun total c => total + characterWidth tables c) 0

/-- The width of a text in a font of some size. -/
def textWidth (text font : String) (size : Binary64) : Binary64 :=
  let total := Binary64.ofRatio false (totalWidth (tables font) text.toList) 1
  (total.mul (Binary64.ofRatio false 1 1000)).mul size

end PageTemplate.Plain
