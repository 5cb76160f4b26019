/-
The barcode symbologies that a template may name, and which of them can be
drawn.
-/
namespace PageTemplate

/-- A kind of barcode. -/
inductive Symbology where
  | aztec
  | codabar
  | code128
  | code39
  | code93
  | dataMatrix
  | ean8
  | ean13
  | pdf417
  | qr
  | twoOfFive
  | twoOfFiveInterleaved
  deriving DecidableEq, Inhabited

namespace Symbology

/-- All symbologies. -/
def all : List Symbology :=
  [.aztec, .codabar, .code128, .code39, .code93, .dataMatrix, .ean8, .ean13, .pdf417, .qr,
    .twoOfFive, .twoOfFiveInterleaved]

/-- The name a template uses. -/
def label : Symbology → String
  | .aztec => "Aztec"
  | .codabar => "Codabar"
  | .code128 => "Code 128"
  | .code39 => "Code 39"
  | .code93 => "Code 93"
  | .dataMatrix => "DataMatrix"
  | .ean8 => "EAN 8"
  | .ean13 => "EAN 13"
  | .pdf417 => "PDF417"
  | .qr => "QR Code"
  | .twoOfFive => "2 of 5"
  | .twoOfFiveInterleaved => "2 of 5 (interleaved)"

/-- The name in capitals, one word. -/
def identifier : Symbology → String
  | .aztec => "AZTEC"
  | .codabar => "CODABAR"
  | .code128 => "CODE128"
  | .code39 => "CODE39"
  | .code93 => "CODE93"
  | .dataMatrix => "DATAMATRIX"
  | .ean8 => "EAN8"
  | .ean13 => "EAN13"
  | .pdf417 => "PDF417"
  | .qr => "QR"
  | .twoOfFive => "TWO_OF_FIVE"
  | .twoOfFiveInterleaved => "TWO_OF_FIVE_INTERLEAVED"

/-- The symbology of a name; case and blanks count. -/
def ofText? (s : String) : Option Symbology := all.find? fun symbology => symbology.label == s

/-- The symbology as it is shown inside messages. -/
def display (s : Symbology) : String :=
  "<BarcodeType." ++ s.identifier ++ ": '" ++ s.label ++ "'>"

/-- The name of the code that draws a symbology, if there is one. -/
def code? : Symbology → Option String
  | .codabar => some "Codabar"
  | .code128 => some "Code128"
  | .code39 => some "Extended39"
  | .code93 => some "Extended93"
  | .dataMatrix => some "ECC200DataMatrix"
  | .ean8 => some "EAN8"
  | .ean13 => some "EAN13"
  | .qr => some "QR"
  | .twoOfFiveInterleaved => some "I2of5"
  | .aztec | .pdf417 | .twoOfFive => none

theorem ofText?_label (s : Symbology) : ofText? s.label = some s := by cases s <;> decide

end Symbology

end PageTemplate
