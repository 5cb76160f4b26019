/-
The six shapes of components and their fields. A field that waits for a
variable has its default until then.
-/
import PageTemplate.Calendar.Moment
import PageTemplate.Component.Property
import PageTemplate.Drawing.Canvas

namespace PageTemplate

/-- The shapes, by what they are. -/
inductive ShapeKind where
  | rectangle
  | circle
  | text
  | datetime
  | image
  | barcode
  deriving DecidableEq, Inhabited

/-- All kinds of shapes. -/
def ShapeKind.all : List ShapeKind := [.rectangle, .circle, .text, .datetime, .image, .barcode]

/-- The word for a shape. -/
def ShapeKind.word : ShapeKind → String
  | .rectangle => "rectangle"
  | .circle => "circle"
  | .text => "text"
  | .datetime => "datetime"
  | .image => "image"
  | .barcode => "barcode"

/-- Where and how a line of text is written: from a point on, at a size in points, inside a width. -/
structure TextLine where
  start : Point := {}
  size : Binary64 := Binary64.zero false
  maxWidth : Int := 0
  alignment : Alignment := .left
  font : String := ""
  colour : Colour := {}
  deriving DecidableEq, Inhabited

/-- A solid rectangle. -/
structure RectangleShape where
  topLeft : Point := {}
  width : Int := 0
  height : Int := 0
  colour : Colour := {}
  deriving DecidableEq, Inhabited

/-- A solid circle. -/
structure CircleShape where
  centre : Point := {}
  radius : Int := 0
  colour : Colour := {}
  deriving DecidableEq, Inhabited

/-- A line of text. -/
structure TextShape where
  content : String := ""
  line : TextLine := {}
  deriving DecidableEq, Inhabited

/-- A moment, written by a layout. -/
structure MomentShape where
  moment : Option Calendar.Moment := none
  layout : String := ""
  line : TextLine := {}
  deriving DecidableEq, Inhabited

/-- A picture stretched into a rectangle. -/
structure ImageShape where
  picture : Option Picture := none
  topLeft : Point := {}
  width : Int := 0
  height : Int := 0
  deriving DecidableEq, Inhabited

/-- A barcode over a solid rectangle. -/
structure BarcodeShape where
  content : String := ""
  symbology : Option Symbology := none
  topLeft : Point := {}
  width : Int := 0
  height : Int := 0
  barColour : Colour := {}
  background : Colour := {}
  deriving DecidableEq, Inhabited

/-- A shape with its fields. -/
inductive Shape where
  | rectangle (r : RectangleShape)
  | circle (c : CircleShape)
  | text (t : TextShape)
  | datetime (d : MomentShape)
  | image (i : ImageShape)
  | barcode (b : BarcodeShape)
  deriving DecidableEq, Inhabited

namespace Shape

/-- What a shape is. -/
def kind : Shape → ShapeKind
  | .rectangle _ => .rectangle
  | .circle _ => .circle
  | .text _ => .text
  | .datetime _ => .datetime
  | .image _ => .image
  | .barcode _ => .barcode

/-- The shape of a kind with every field at its default. -/
def empty : ShapeKind → Shape
  | .rectangle => .rectangle {}
  | .circle => .circle {}
  | .text => .text {}
  | .datetime => .datetime {}
  | .image => .image {}
  | .barcode => .barcode {}

theorem kind_empty (k : ShapeKind) : (empty k).kind = k := by cases k <;> rfl

end Shape

/-- The colour with one of its channels replaced. -/
def Colour.withChannel (c : Colour) (channel : Channel) (value : Int) : Colour :=
  match channel with
  | .red => { c with red := value }
  | .green => { c with green := value }
  | .blue => { c with blue := value }
  | .alpha => { c with alpha := value }

/-- The point with its first coordinate replaced. -/
def Point.withX (p : Point) (x : Int) : Point := { p with x := x }

/-- The point with its second coordinate replaced. -/
def Point.withY (p : Point) (y : Int) : Point := { p with y := y }

end PageTemplate
