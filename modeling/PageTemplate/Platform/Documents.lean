/-
A page as a document file: numbered objects one after the other, and behind
them a table that says where each begins.

Shapes and lines of text are written out. Of a picture and of a symbol the
frame is. A page on which
nothing is painted gives a document without pages.

A painted page can be written only if its numbers are within the range of
binary64; `check` tells whether they are.
-/
import PageTemplate.Binary64.Arithmetic
import PageTemplate.Binary64.Integer
import PageTemplate.Binary64.Shortest
import PageTemplate.Drawing.Page
import PageTemplate.Font.Standard
import PageTemplate.Text.Digit

namespace PageTemplate.Plain.Documents

/-- A number with three decimals. -/
def amount (x : Binary64) : String := x.toFixed 3

/-- An amount in thousandths. -/
def thousandths (n : Int) : String :=
  let digits := Text.padded '0' 4 n.natAbs
  let body := digits.take (digits.length - 3) ++ '.' :: digits.drop (digits.length - 3)
  String.ofList (if n < 0 then '-' :: body else body)

/-- Operands and what is done with them. -/
def operation (operands : List String) (operator : String) : String :=
  String.intercalate " " (operands ++ [operator]) ++ "\n"

/-- How far a curve's handle is from its end, in thousandths of the radius of the circle whose quarter
the curve is. -/
def handle : Int := 552

/-- The path of a circle: four curves from its rightmost point on. -/
def circlePath (x y radius : Int) : String :=
  let point := fun (right up : Int) =>
    [thousandths (1000 * x + right * radius), thousandths (1000 * y + up * radius)]
  let curve := fun (points : List (Int × Int)) =>
    operation (points.flatMap fun (right, up) => point right up) "c"
  operation (point 1000 0) "m" ++
    curve [(1000, handle), (handle, 1000), (0, 1000)] ++
    curve [(-handle, 1000), (-1000, handle), (-1000, 0)] ++
    curve [(-1000, -handle), (-handle, -1000), (0, -1000)] ++
    curve [(handle, -1000), (1000, -handle), (1000, 0)]

/-- A text between brackets. Brackets inside it are marked, and a character without a place in the
encoding is a question mark. -/
def bracketed (s : String) : String :=
  let written := s.toList.flatMap fun c =>
    if c = '(' ∨ c = ')' ∨ c = '\\' then ['\\', c]
    else if 0x20 ≤ c.toNat ∧ c.toNat ≤ 0x7E ∨ 0xA0 ≤ c.toNat ∧ c.toNat ≤ 0xFF then [c]
    else ['?']
  "(" ++ String.ofList written ++ ")"

/-- The path of a box. -/
def boxPath (b : Box) : String :=
  operation [toString b.left, toString b.bottom, toString b.width, toString b.height] "re"

/-- The fonts that a page uses, each once. -/
def fonts (p : Page) : List String :=
  (p.calls.filterMap fun call => match call with | .font face => some face.name | _ => none).eraseDups

/-- The opacities that a page uses, each once. -/
def opacities (p : Page) : List String :=
  (p.calls.filterMap fun call => match call with
    | .fill colour => some (amount colour.alpha)
    | _ => none).eraseDups

/-- The name of a resource: a letter and the place of the resource in its list. -/
def resource (letter : String) (all : List String) (one : String) : String :=
  "/" ++ letter ++ toString (all.idxOf one)

/-- One call in the words of a page's content. -/
def callText (p : Page) : PageCall → String
  | .fill colour =>
    operation [resource "G" (opacities p) (amount colour.alpha)] "gs" ++
      operation [amount colour.red, amount colour.green, amount colour.blue] "rg"
  | .rectangle box => boxPath box ++ operation [] "f"
  | .circle x y radius => circlePath x y radius ++ operation [] "f"
  | .font face => operation [resource "F" (fonts p) face.name, amount face.size] "Tf"
  | .text x y content =>
    operation [] "BT" ++ operation [toString x, toString y] "Td" ++
      operation [bracketed content] "Tj" ++ operation [] "ET"
  | .image box _ => boxPath box ++ operation [] "S"
  | .symbol .. => ""

/-- The content of a page. -/
def content (p : Page) : String := String.join (p.calls.map (callText p))

/-- Entries between double angle brackets. -/
def table (entries : List String) : String := "<< " ++ String.intercalate " " entries ++ " >>"

/-- The font object of a name; a font that is not a standard one is replaced by one that is. -/
def fontTable (name : String) : String :=
  let base := if Font.standardNames.contains name then name else "Helvetica"
  table ["/Type /Font", "/Subtype /Type1", "/BaseFont /" ++ base, "/Encoding /WinAnsiEncoding"]

/-- What the content of a page refers to. -/
def resources (p : Page) : String :=
  let fontEntries := (fonts p).map fun name => resource "F" (fonts p) name ++ " " ++ fontTable name
  let opacityEntries := (opacities p).map fun alpha =>
    resource "G" (opacities p) alpha ++ " " ++ table ["/ca " ++ alpha]
  table ["/Font " ++ table fontEntries, "/ExtGState " ++ table opacityEntries]

/-- How many pages the document of a page has. -/
def pageCount (p : Page) : Nat := if p.isPainted then 1 else 0

/-- The whole numbers that are computed with when a call is written. A circle is laid into a square,
whose middle and side come from sums of two. -/
def numbers : PageCall → List Int
  | .rectangle box | .image box _ => [box.left, box.bottom, box.width, box.height]
  | .circle x y radius => [2 * x, 2 * y, 2 * radius]
  | .text x y _ | .symbol x y _ => [x, y]
  | .fill _ | .font _ => []

/-- How far apart lines of text are, in parts of the size of their font. -/
def lineSpacing : Binary64 := Binary64.ofRatio false 12 10

/-- Checks that whole numbers are within range. -/
def checkNumbers (ns : List Int) : Except ArithmeticError Unit :=
  ns.forM fun n => (Binary64.ofInt n).map fun _ => ()

/-- Checks the numbers of a call. Of a font it is the line spacing that is the greatest. -/
def checkCall : PageCall → Except ArithmeticError Unit
  | .font face => (face.size.mul lineSpacing).truncate.map fun _ => ()
  | call => checkNumbers (numbers call)

/-- Checks that a page can be written: the numbers of its calls in order, and then its size. A page
that is not painted is not written. -/
def check (p : Page) : Except ArithmeticError Unit := do
  if p.isPainted then
    p.calls.forM checkCall
    checkNumbers [p.width, p.height]

/-- The objects of a document: the root, the list of pages, and the page with its content. -/
def objects (p : Page) : List String :=
  let kids := if p.isPainted then "[3 0 R]" else "[]"
  let box := "[0 0 " ++ toString p.width ++ " " ++ toString p.height ++ "]"
  let body := content p
  [table ["/Type /Catalog", "/Pages 2 0 R"],
    table ["/Type /Pages", "/Kids " ++ kids, "/Count " ++ toString (pageCount p)]] ++
  (if p.isPainted then
    [table ["/Type /Page", "/Parent 2 0 R", "/MediaBox " ++ box, "/Resources " ++ resources p,
        "/Contents 4 0 R"],
      table ["/Length " ++ toString body.length] ++ "\nstream\n" ++ body ++ "endstream"]
  else [])

/-- What a document begins with. -/
def mark : String := "%PDF-"

/-- An object under its number. -/
def numbered (number : Nat) (object : String) : String :=
  toString number ++ " 0 obj\n" ++ object ++ "\nendobj\n"

/-- Objects one after the other, from a number and a place on, with the place of each. -/
def place : (number start : Nat) → List String → String × List Nat
  | _, _, [] => ("", [])
  | number, start, object :: rest =>
    let text := numbered number object
    let (others, places) := place (number + 1) (start + text.length) rest
    (text ++ others, start :: places)

/-- A line of the table of places. -/
def placeLine (n : Nat) : String := String.ofList (Text.padded '0' 10 n) ++ " 00000 n \n"

/-- The text of a document. Every character of it stands for one byte. -/
def text (p : Page) : String :=
  let header := mark ++ "1.4\n"
  let (body, places) := place 1 header.length (objects p)
  let size := toString (places.length + 1)
  header ++ body ++ "xref\n0 " ++ size ++ "\n0000000000 65535 f \n" ++
    String.join (places.map placeLine) ++ "trailer\n" ++ table ["/Size " ++ size, "/Root 1 0 R"] ++
    "\nstartxref\n" ++ toString (header.length + body.length) ++ "\n%%EOF\n"

/-- The bytes of a document. -/
def bytes (p : Page) : List UInt8 := (text p).toList.map fun c => UInt8.ofNat c.toNat

end PageTemplate.Plain.Documents
