/-
The drawing surface: one page on which operations are recorded in the order in
which they are drawn. Every operation is checked first and, if it is fine, gives
a new canvas; the old one stays as it is.

A template counts from the top left corner of the page and downwards, the page
itself from the bottom left corner and upwards. Operations are recorded in the
page's way.
-/
import PageTemplate.Drawing.Fit
import PageTemplate.Drawing.Symbology
import PageTemplate.Platform.Basic
import PageTemplate.Text.Quoted

namespace PageTemplate

/-- A point, counted from the top left corner. -/
structure Point where
  x : Int := 0
  y : Int := 0
  deriving DecidableEq, Inhabited

/-- A colour with its opacity, in steps of 255 each. -/
structure Colour where
  red : Int := 0
  green : Int := 0
  blue : Int := 0
  alpha : Int := 0
  deriving DecidableEq, Inhabited

/-- One operation on the page, at its place in the page's way of counting. -/
inductive Operation where
  | rectangle (box : Box) (fill : Fill)
  | circle (x y radius : Int) (fill : Fill)
  | text (x y : Int) (face : FontFace) (content : String) (fill : Fill)
  | image (box : Box) (picture : Option Picture)
  | barcode (box : Box) (symbol : Symbol) (background : Fill)
  deriving DecidableEq, Inhabited

/-- Why something is not drawn. -/
inductive CanvasFault where
  | noSize
  | noWidth
  | noHeight
  | noRadius
  | noTextWidth
  | textTooWide
  | unsupported (symbology : Symbology)
  | unencodable (content : String) (symbology : Symbology) (words : String)
  | symbol (fault : ForeignFault)
  | number (e : ArithmeticError)
  | nothingToDrawOn
  | nothingToFill
  | nothingToEncode
  deriving DecidableEq, Inhabited

namespace CanvasFault

/-- The wording of each fault. -/
def message : CanvasFault → String
  | .noSize => "invalid width and height"
  | .noWidth => "invalid width"
  | .noHeight => "invalid height"
  | .noRadius => "invalid radius"
  | .noTextWidth => "invalid maxWidth"
  | .textTooWide => "resultant drawn text was longer than maxWidth"
  | .unsupported symbology => "barcode type " ++ symbology.label ++ " is not supported"
  | .unencodable content symbology words =>
    "failed to encode barcode " ++ Text.quoted content ++ " as " ++ symbology.label ++ ": " ++ words
  | .symbol fault => fault.message
  | .number e => e.message
  | .nothingToDrawOn => "no canvas set to draw on"
  | .nothingToFill => "a starting colour needs a canvas to fill"
  | .nothingToEncode => "no canvas set to encode"

/-- The kind of each fault. -/
def kind : CanvasFault → FaultKind
  | .symbol fault => fault.kind
  | .number e => e.kind
  | _ => .canvas

end CanvasFault

/-- A size has to be positive both ways. -/
def checkSize (width height : Int) : Except CanvasFault Unit :=
  if width ≤ 0 ∧ height ≤ 0 then .error .noSize
  else if width ≤ 0 then .error .noWidth
  else if height ≤ 0 then .error .noHeight
  else .ok ()

/-- A page of positive size, its resolution, and what has been drawn on it. -/
structure Canvas where
  width : Int
  height : Int
  resolution : Binary64
  operations : List Operation := []
  positive : 0 < width ∧ 0 < height

namespace Canvas

/-- An empty page. -/
def blank (width height : Int) (resolution : Binary64) : Except CanvasFault Canvas :=
  if h : 0 < width ∧ 0 < height then
    .ok { width := width, height := height, resolution := resolution, positive := h }
  else
    match checkSize width height with
    | .error fault => .error fault
    | .ok () => .error .noSize

/-- The page with another resolution; what has been drawn stays. -/
def withResolution (c : Canvas) (resolution : Binary64) : Canvas := { c with resolution := resolution }

/-- The page with one more operation. -/
def draw (c : Canvas) (operation : Operation) : Canvas :=
  { c with operations := c.operations ++ [operation] }

/-- A distance from the top of the page, seen from its bottom. -/
def flip (c : Canvas) (y : Int) : Int := c.height - y

/-- The box with the given top left corner and size. -/
def box (c : Canvas) (topLeft : Point) (width height : Int) : Box :=
  { left := topLeft.x, bottom := c.flip (topLeft.y + height), width := width, height := height }

end Canvas

/-- A channel of a colour in parts of one. -/
def Colour.part (channel : Int) : Except CanvasFault Binary64 :=
  (Binary64.ofQuotient channel 255).mapError CanvasFault.number

/-- The colour in parts of one, channel by channel. -/
def Colour.fill (colour : Colour) : Except CanvasFault Fill := do
  let red ← part colour.red
  let green ← part colour.green
  let blue ← part colour.blue
  let alpha ← part colour.alpha
  return ⟨red, green, blue, alpha⟩

/-- Whether a text fits a width, and how wide it is; in no width at all nothing fits. -/
def measureText [Platform] (content : String) (face : FontFace) (maxWidth : Int) :
    Except ArithmeticError (Bool × Int) :=
  if maxWidth ≤ 0 then .ok (false, -1)
  else
    (Platform.textWidth content face.name face.size).ceil.map fun width =>
      (decide (width ≤ maxWidth), width)

namespace Canvas

/-- Draws a solid rectangle. -/
def rectangle (c : Canvas) (topLeft : Point) (width height : Int) (colour : Colour) :
    Except CanvasFault Canvas := do
  checkSize width height
  let fill ← colour.fill
  return c.draw (.rectangle (c.box topLeft width height) fill)

/-- Draws a solid circle. -/
def circle (c : Canvas) (centre : Point) (radius : Int) (colour : Colour) :
    Except CanvasFault Canvas := do
  if radius ≤ 0 then throw .noRadius
  let fill ← colour.fill
  return c.draw (.circle centre.x (c.flip centre.y) radius fill)

/-- Draws a line of text that fits its width, with its baseline starting at a point. -/
def text [Platform] (c : Canvas) (content : String) (start : Point) (face : FontFace) (colour : Colour)
    (maxWidth : Int) : Except CanvasFault Canvas :=
  if maxWidth ≤ 0 then .error .noTextWidth
  else
    match measureText content face maxWidth with
    | .error e => .error (.number e)
    | .ok (false, _) => .error .textTooWide
    | .ok (true, _) =>
      colour.fill.map fun fill => c.draw (.text start.x (c.flip start.y) face content fill)

/-- Draws a picture stretched into a rectangle. -/
def image (c : Canvas) (topLeft : Point) (picture : Option Picture) (width height : Int) :
    Except CanvasFault Canvas := do
  checkSize width height
  return c.draw (.image (c.box topLeft width height) picture)

/-- Has a symbol made. -/
def checkSymbol [Platform] (symbology : Symbology) (symbol : Symbol) : Except CanvasFault Unit :=
  match Platform.makeSymbol symbol with
  | .ok () => .ok ()
  | .error (.refused words) => .error (.unencodable symbol.content symbology words)
  | .error (.escaped fault) => .error (.symbol fault)

/-- Draws a barcode over a solid rectangle. -/
def barcode [Platform] (c : Canvas) (symbology : Symbology) (content : String) (topLeft : Point)
    (width height : Int) (barColour background : Colour) : Except CanvasFault Canvas := do
  checkSize width height
  match symbology.code? with
  | none => throw (.unsupported symbology)
  | some code =>
    let bars ← barColour.fill
    checkSymbol symbology ⟨code, content, width, height, bars⟩
    let ground ← background.fill
    return c.draw (.barcode (c.box topLeft width height) ⟨code, content, width, height, bars⟩ ground)

end Canvas

/-- The calls of one operation. -/
def Operation.calls : Operation → List PageCall
  | .rectangle box fill => [.fill fill, .rectangle box]
  | .circle x y radius fill => [.fill fill, .circle x y radius]
  | .text x y face content fill => [.fill fill, .font face, .text x y content]
  | .image box picture => [.image box picture]
  | .barcode box symbol background =>
    [.fill background, .rectangle box, .symbol box.left box.bottom symbol]

/-- Paints every operation of a canvas on a page of its size. -/
def Canvas.encode (c : Canvas) : Page := ⟨c.width, c.height, c.operations.flatMap Operation.calls⟩

end PageTemplate
