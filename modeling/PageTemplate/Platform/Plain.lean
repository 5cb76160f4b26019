/-
A plain platform, on which the program can be run: widths are looked up in
tables, pictures are PNG files, of which the header is read, and documents are
written without what is inside of pictures and symbols.
-/
import PageTemplate.Platform.Documents
import PageTemplate.Platform.Metrics
import PageTemplate.Platform.Pictures
import PageTemplate.Platform.Symbols
import PageTemplate.Platform.TrueType

namespace PageTemplate.Plain

/-- How many arrays and objects an interpreter reads inside each other where nothing else has been called. -/
def readingDepth : Nat := 988

/-- How many conditions it reads inside each other, each with two calls. -/
def conditionDepth : Nat := 490

/-- The size of a picture, or why it is none. -/
def pictureSize (bytes : List UInt8) : Except String (Nat × Nat) :=
  match Pictures.sizeOf? bytes with
  | some size => .ok (size.width, size.height)
  | none => .error "cannot identify image file"

/-- The document of a page, if its numbers are within range. -/
def writeDocument (page : Page) : Except ForeignFault (List UInt8) :=
  match Documents.check page with
  | .ok () => .ok (Documents.bytes page)
  | .error e => .error ⟨e.kind, e.message⟩

scoped instance platform : Platform where
  textWidth := textWidth
  pictureSize := pictureSize
  pictureSize_nil := by decide
  checkFont bytes := if TrueType.isFont bytes then .ok () else .error "not a TrueType font"
  makeSymbol := Symbols.make
  writeDocument := writeDocument
  readingDepth := readingDepth
  conditionDepth := conditionDepth
  showingDepth := readingDepth

end PageTemplate.Plain
