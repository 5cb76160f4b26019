/-
The properties that components have, by the names a template uses for them.
-/
import PageTemplate.Field.Literal

namespace PageTemplate

/-- A channel of a colour. -/
inductive Channel where
  | red
  | green
  | blue
  | alpha
  deriving DecidableEq, Inhabited

/-- The letter of a channel. -/
def Channel.letter : Channel → String
  | .red => "R"
  | .green => "G"
  | .blue => "B"
  | .alpha => "A"

/-- A property of some component: where it is, what it shows, and in which colours. -/
inductive Property where
  | topLeftX
  | topLeftY
  | centreX
  | centreY
  | startX
  | startY
  | width
  | height
  | radius
  | maxWidth
  | size
  | alignment
  | content
  | fontName
  | fontFile
  | fontAddress
  | time
  | timeFormat
  | fileName
  | data
  | barcodeType
  | colour (channel : Channel)
  | barColour (channel : Channel)
  | backgroundColour (channel : Channel)
  deriving DecidableEq, Inhabited

namespace Property

/-- The name of a property. -/
def name : Property → String
  | .topLeftX => "topLeftX"
  | .topLeftY => "topLeftY"
  | .centreX => "centreX"
  | .centreY => "centreY"
  | .startX => "startX"
  | .startY => "startY"
  | .width => "width"
  | .height => "height"
  | .radius => "radius"
  | .maxWidth => "maxWidth"
  | .size => "size"
  | .alignment => "alignment"
  | .content => "content"
  | .fontName => "fontName"
  | .fontFile => "fontFile"
  | .fontAddress => "fontURL"
  | .time => "time"
  | .timeFormat => "timeFormat"
  | .fileName => "fileName"
  | .data => "data"
  | .barcodeType => "barcodeType"
  | .colour channel => channel.letter
  | .barColour channel => "d" ++ channel.letter
  | .backgroundColour channel => "b" ++ channel.letter

/-- The channels, in the order in which they are read. -/
def channels : List Channel := [.red, .green, .blue, .alpha]

/-- All properties. -/
def all : List Property :=
  [.topLeftX, .topLeftY, .centreX, .centreY, .startX, .startY, .width, .height, .radius, .maxWidth,
    .size, .alignment, .content, .fontName, .fontFile, .fontAddress, .time, .timeFormat, .fileName,
    .data, .barcodeType] ++
    channels.map .colour ++ channels.map .barColour ++ channels.map .backgroundColour

/-- The property of a name. -/
def ofName? (name : String) : Option Property := all.find? fun p => p.name == name

/-- The type of a property's literal text. -/
def fieldType : Property → FieldType
  | .topLeftX | .topLeftY | .centreX | .centreY | .startX | .startY | .width | .height | .radius
  | .maxWidth => .integer
  | .size => .decimal
  | .alignment | .content | .fontName | .fontFile | .fontAddress | .timeFormat | .fileName | .data
  | .barcodeType => .text
  | .time => .duration
  | .colour _ | .barColour _ | .backgroundColour _ => .byte

theorem ofName?_name (p : Property) : ofName? p.name = some p := by
  cases p with
  | colour c => cases c <;> decide
  | barColour c => cases c <;> decide
  | backgroundColour c => cases c <;> decide
  | _ => decide

end Property

end PageTemplate
