/-
Giving one property of a shape a value. Each shape takes the properties of its
own fields, converts the value as the property wants it, and refuses every
other property.

Most assignments only convert. Those of a font and of a picture are actions,
for they look at files and may put a font on the shelf.
-/
import PageTemplate.Component.Conversion
import PageTemplate.Component.Shape
import PageTemplate.Session

namespace PageTemplate

variable [Platform]

/-- The fault of a property that a shape does not have. -/
def refuseProperty {α : Type} (p : Property) : Except SetterFault α := .error (.unknownProperty p.name)

/-- Gives a property of a rectangle a value. -/
def RectangleShape.assign (r : RectangleShape) (p : Property) (v : Value) :
    Except SetterFault RectangleShape :=
  match p with
  | .topLeftX => v.asInteger.map fun i => { r with topLeft := r.topLeft.withX i }
  | .topLeftY => v.asInteger.map fun i => { r with topLeft := r.topLeft.withY i }
  | .width => v.asInteger.map fun i => { r with width := i }
  | .height => v.asInteger.map fun i => { r with height := i }
  | .colour channel => v.asByte.map fun i => { r with colour := r.colour.withChannel channel i }
  | _ => refuseProperty p

/-- Gives a property of a circle a value. -/
def CircleShape.assign (c : CircleShape) (p : Property) (v : Value) :
    Except SetterFault CircleShape :=
  match p with
  | .centreX => v.asInteger.map fun i => { c with centre := c.centre.withX i }
  | .centreY => v.asInteger.map fun i => { c with centre := c.centre.withY i }
  | .radius => v.asInteger.map fun i => { c with radius := i }
  | .colour channel => v.asByte.map fun i => { c with colour := c.colour.withChannel channel i }
  | _ => refuseProperty p

/-- Gives a property of a barcode a value. -/
def BarcodeShape.assign (b : BarcodeShape) (p : Property) (v : Value) :
    Except SetterFault BarcodeShape :=
  match p with
  | .content => v.asText.map fun s => { b with content := s }
  | .barcodeType => v.asSymbology.map fun s => { b with symbology := some s }
  | .topLeftX => v.asInteger.map fun i => { b with topLeft := b.topLeft.withX i }
  | .topLeftY => v.asInteger.map fun i => { b with topLeft := b.topLeft.withY i }
  | .width => v.asInteger.map fun i => { b with width := i }
  | .height => v.asInteger.map fun i => { b with height := i }
  | .barColour channel => v.asByte.map fun i => { b with barColour := b.barColour.withChannel channel i }
  | .backgroundColour channel =>
    v.asByte.map fun i => { b with background := b.background.withChannel channel i }
  | _ => refuseProperty p

/-- How a property asks for a font, if it does. -/
def Property.fontRequest? : Property → Option Font.Request
  | .fontName => some .name
  | .fontFile => some .file
  | .fontAddress => some .address
  | _ => none

/-- Gives a property of a line of text, other than its font, a value. -/
def TextLine.assignPlain (line : TextLine) (p : Property) (v : Value) : Except SetterFault TextLine :=
  match p with
  | .startX => v.asInteger.map fun i => { line with start := line.start.withX i }
  | .startY => v.asInteger.map fun i => { line with start := line.start.withY i }
  | .maxWidth => v.asInteger.map fun i => { line with maxWidth := i }
  | .size => v.asDecimal.map fun x => { line with size := x }
  | .alignment => v.asAlignment.map fun a => { line with alignment := a }
  | .colour channel => v.asByte.map fun i => { line with colour := line.colour.withChannel channel i }
  | _ => refuseProperty p

/-- Gives a property of a line of text a value. -/
def TextLine.assign (files : FileTree) (settings : Settings) (line : TextLine) (p : Property)
    (v : Value) : Act TextLine :=
  match p.fontRequest? with
  | some request => do
    let text ← Act.ofExcept .setter v.asText
    let font ← Act.font files settings request text
    return { line with font := font }
  | none => Act.ofExcept .setter (line.assignPlain p v)

/-- The picture in some bytes. -/
def pictureOf (source : String) (bytes : List UInt8) : Except ComponentFault Picture :=
  match Platform.pictureSize bytes with
  | .ok (width, height) => .ok ⟨bytes, width, height⟩
  | .error words => .error (.notPicture source words)

/-- The picture in base64 text. -/
def pictureOfBase64 (text : String) : Except ComponentFault Picture :=
  match Base64.decode text with
  | .ok bytes => pictureOf "data" bytes
  | .error fault => .error (.base64 fault)

/-- The picture in a file. -/
def pictureOfFile (files : FileTree) (path : Path) : Except ComponentFault Picture :=
  match files.read path with
  | .ok bytes => pictureOf path.text bytes
  | .error fault => .error (.pictureUnreadable path.text fault)

/-- The picture that a value holds: bytes, base64 text or a file that can be read. -/
def pictureOfValue (v : Value) : Act Picture :=
  match v with
  | .bytes content => Act.ofExcept .component (pictureOf "data" content)
  | .json (.string text) => Act.ofExcept .component (pictureOfBase64 text)
  | .file number content => do
    let bytes ← Act.readOnce number content
    Act.ofExcept .component (pictureOf "data" bytes)
  | _ => Act.ofExcept .setter (v.refuse .picture)

/-- Gives a property of an image, other than its picture, a value. -/
def ImageShape.assignPlain (i : ImageShape) (p : Property) (v : Value) :
    Except SetterFault ImageShape :=
  match p with
  | .topLeftX => v.asInteger.map fun n => { i with topLeft := i.topLeft.withX n }
  | .topLeftY => v.asInteger.map fun n => { i with topLeft := i.topLeft.withY n }
  | .width => v.asInteger.map fun n => { i with width := n }
  | .height => v.asInteger.map fun n => { i with height := n }
  | _ => refuseProperty p

/-- Gives a property of an image a value. -/
def ImageShape.assign (files : FileTree) (settings : Settings) (i : ImageShape) (p : Property)
    (v : Value) : Act ImageShape :=
  match p with
  | .data => do
    let picture ← pictureOfValue v
    return { i with picture := some picture }
  | .fileName => do
    let path ← Act.ofExcept .setter v.asText
    let picture ← Act.ofExcept .component (pictureOfFile files (settings.resolve path))
    return { i with picture := some picture }
  | _ => Act.ofExcept .setter (i.assignPlain p v)

/-- Gives a property of a text a value. -/
def TextShape.assign (files : FileTree) (settings : Settings) (t : TextShape) (p : Property)
    (v : Value) : Act TextShape :=
  match p with
  | .content => Act.ofExcept .setter (v.asText.map fun s => { t with content := s })
  | _ => do
    let line ← t.line.assign files settings p v
    return { t with line := line }

/-- Gives a property of a moment a value. -/
def MomentShape.assign (files : FileTree) (settings : Settings) (d : MomentShape) (p : Property)
    (v : Value) : Act MomentShape :=
  match p with
  | .time => Act.ofExcept .setter (v.asMoment.map fun m => { d with moment := some m })
  | .timeFormat => Act.ofExcept .setter (v.asText.map fun s => { d with layout := s })
  | _ => do
    let line ← d.line.assign files settings p v
    return { d with line := line }

/-- Gives a property of a shape a value. -/
def Shape.assign (files : FileTree) (settings : Settings) (shape : Shape) (p : Property)
    (v : Value) : Act Shape :=
  match shape with
  | .rectangle r => Act.ofExcept .setter ((r.assign p v).map .rectangle)
  | .circle c => Act.ofExcept .setter ((c.assign p v).map .circle)
  | .barcode b => Act.ofExcept .setter ((b.assign p v).map .barcode)
  | .text t => do return .text (← t.assign files settings p v)
  | .datetime d => do return .datetime (← d.assign files settings p v)
  | .image i => do return .image (← i.assign files settings p v)

/-- Gives the property of a name a value. -/
def Shape.assignNamed (files : FileTree) (settings : Settings) (shape : Shape) (name : String)
    (v : Value) : Act Shape :=
  match Property.ofName? name with
  | some p => shape.assign files settings p v
  | none => throw (.setter (.unknownProperty name))

end PageTemplate
