/-
What the program is built on and does not define: the library that measures
text and reads fonts, the one that reads pictures, the one that makes symbols,
the one that writes documents, and the interpreter, which lets calls nest only
so deep.

Everything that depends on them is written over an arbitrary platform. Of a
library only what is relied on is known: a width is that of a text in a font at
a size and nothing else, bytes that are no picture or no font are refused with
words, and no bytes at all are no picture.
-/
import PageTemplate.Drawing.Page
import PageTemplate.Fault.Kind

namespace PageTemplate

/-- Why a symbol is not made: the library refuses it in a way that the canvas explains, or it fails in some
other way. -/
inductive SymbolFault where
  | refused (words : String)
  | escaped (fault : ForeignFault)
  deriving DecidableEq, Inhabited

/-- The libraries and the interpreter. A condition that was read is walked through with no deeper calls than
it was read with. -/
class Platform where
  /-- The width of a text in the font of a name at a size. -/
  textWidth (content font : String) (size : Binary64) : Binary64
  /-- The size in pixels of the picture in a file, or why it is none. -/
  pictureSize (bytes : List UInt8) : Except String (Nat × Nat)
  pictureSize_nil : (pictureSize []).isOk = false
  /-- Why a file is no font, if it is none. -/
  checkFont (bytes : List UInt8) : Except String Unit
  /-- Why a symbol is not made, if it is not. -/
  makeSymbol (symbol : Symbol) : Except SymbolFault Unit
  /-- The document of a page, or why there is none. -/
  writeDocument (page : Page) : Except ForeignFault (List UInt8)
  /-- How many arrays and objects may stand inside each other where a document is read. -/
  readingDepth : Nat
  /-- How many conditions may stand inside each other where one is read. -/
  conditionDepth : Nat
  /-- How many values may stand inside each other where one is shown. -/
  showingDepth : Nat

end PageTemplate
