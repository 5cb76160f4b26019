/-
The finished page: its size and the calls that paint it, one after the other.
Places count from the bottom left corner and upwards.
-/
import PageTemplate.Binary64.Basic
import PageTemplate.Picture

namespace PageTemplate

/-- A colour in parts of one. -/
structure Fill where
  red : Binary64
  green : Binary64
  blue : Binary64
  alpha : Binary64
  deriving DecidableEq, Inhabited

/-- A font at a size in units of the page. -/
structure FontFace where
  name : String
  size : Binary64
  deriving DecidableEq, Inhabited

/-- A rectangle of the page: its lower left corner and its size. -/
structure Box where
  left : Int
  bottom : Int
  width : Int
  height : Int
  deriving DecidableEq, Inhabited

/-- A symbol as it is asked for: the name of the code that draws it, its content, its size, and the colour
of its bars. -/
structure Symbol where
  code : String
  content : String
  width : Int
  height : Int
  bars : Fill
  deriving DecidableEq, Inhabited

/-- A call that paints on the page. A shape is painted in the colour set before it, without an
outline. -/
inductive PageCall where
  | fill (colour : Fill)
  | rectangle (box : Box)
  | circle (x y radius : Int)
  | font (face : FontFace)
  | text (x y : Int) (content : String)
  | image (box : Box) (picture : Option Picture)
  | symbol (x y : Int) (symbol : Symbol)
  deriving DecidableEq, Inhabited

/-- A page of some size and the calls that paint it. -/
structure Page where
  width : Int
  height : Int
  calls : List PageCall
  deriving DecidableEq, Inhabited

/-- Whether anything is painted. -/
def Page.isPainted (p : Page) : Bool := !p.calls.isEmpty

end PageTemplate
