/-
Which symbols can be made: a table of the contents that each code takes, and of
what is said of the others.
-/
import PageTemplate.Fault.Failure
import PageTemplate.Platform.Basic
import PageTemplate.Text.Blank
import PageTemplate.Text.Digit
import PageTemplate.Text.Quoted

namespace PageTemplate.Plain.Symbols

/-- Why a content has no barcode: its characters are not all of the code's, an article number is no
number, nothing is left to begin a code with, or a character has no place in a matrix. -/
inductive ContentFault where
  | illegal (content code : String)
  | notDigits (padded widget : String)
  | nothingLeft
  | unencodable (c : Char)
  deriving DecidableEq, Inhabited

/-- The wording of each fault. -/
def ContentFault.message : ContentFault → String
  | .illegal content code => "Illegal barcode with value '" ++ content ++ "' in code '" ++ code ++ "'"
  | .notDigits padded widget =>
    "Illegal assignment of " ++ Text.quoted padded ++ " to value in class " ++ widget
  | .nothingLeft => "string index out of range"
  | .unencodable c => "Cannot encode " ++ c.toString ++ " (" ++ toString c.toNat ++ ")"

/-- A content cut to a length, or brought to it with zeros in front. -/
def fixedLength (length : Nat) (content : String) : List Char :=
  let cs := content.toList.take length
  List.replicate (length - cs.length) '0' ++ cs

/-- The check of a number of fixed length. -/
def checkNumber (length : Nat) (widget content : String) : Except ContentFault Unit :=
  let padded := fixedLength length content
  if padded.all Text.isAsciiDigit then .ok ()
  else .error (.notDigits (String.ofList padded) widget)

/-- Whether a linear code with all of ASCII has a character. Code 128 also has four function
characters, written as letters of Latin-1. -/
def hasCharacter (code : String) (c : Char) : Bool :=
  c.toNat < 128 || code == "Code128" && decide (0xF1 ≤ c.toNat ∧ c.toNat ≤ 0xF4)

/-- Whether Codabar has a character: at either end of a content, the letters that start and stop it
too. -/
def isCodabar (atEnd : Bool) (c : Char) : Bool :=
  Text.isAsciiDigit c || "-$:/.+".toList.contains c || atEnd && "ABCD".toList.contains c

/-- What Codabar takes of a content: it passes over what it does not have. -/
def codabarPart (cs : List Char) : List Char :=
  let last := cs.length - 1
  (cs.zipIdx.filter fun (c, place) => isCodabar (place == 0 || place == last) c).map (·.1)

/-- The check of a content for the code of a name. The linear codes take ASCII text, the interleaved one
digits between blanks, article numbers are digits of fixed length, Codabar needs something to start with,
and a matrix holds Latin-1. -/
def checkContent (code content : String) : Except ContentFault Unit :=
  let cs := content.toList
  match code with
  | "Code128" | "Extended39" | "Extended93" =>
    if cs.all (hasCharacter code) then .ok () else .error (.illegal content code)
  | "I2of5" =>
    if (Text.strip content).toList.all Text.isAsciiDigit then .ok () else .error (.illegal content code)
  | "EAN8" => checkNumber 7 "Ean8BarcodeWidget" content
  | "EAN13" => checkNumber 12 "Ean13BarcodeWidget" content
  | "Codabar" =>
    if codabarPart (Text.strip content).toList = [] then .error .nothingLeft else .ok ()
  | "ECC200DataMatrix" =>
    match cs.find? fun c => decide (255 < c.toNat) with
    | some c => .error (.unencodable c)
    | none => .ok ()
  | _ => .ok ()

/-- How a fault of a content comes out: only an illegal one is refused as such. -/
def ContentFault.toSymbolFault (fault : ContentFault) : SymbolFault :=
  match fault with
  | .illegal .. => .refused fault.message
  | .notDigits .. => .escaped ⟨.attribute, fault.message⟩
  | .nothingLeft => .escaped ⟨.index, fault.message⟩
  | .unencodable _ => .escaped ⟨.other, fault.message⟩

/-- Checks that a symbol can be stretched to its size: its bars are measured in binary64. -/
def checkSize (size : Int) : Except SymbolFault Unit :=
  match Binary64.ofInt size with
  | .ok _ => .ok ()
  | .error e => .error (.escaped ⟨e.kind, e.message⟩)

/-- Makes a symbol. -/
def make (s : Symbol) : Except SymbolFault Unit := do
  (checkContent s.code s.content).mapError ContentFault.toSymbolFault
  checkSize s.width
  checkSize s.height

end PageTemplate.Plain.Symbols
