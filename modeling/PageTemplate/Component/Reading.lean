/-
Reading a component's properties. What a shape reads, and in which order, is a
table; every entry is one field, several exclusive fields, or a field that may
be missing.

A field with a literal gives its property a value at once, as a supplied value
would; a field with a variable lets the property wait. A literal time is an
offset from the moment of loading, and is added to it when all else has been
read.
-/
import PageTemplate.Component.Assignment
import PageTemplate.Field.Extraction

namespace PageTemplate

/-- A field: where it stands in the properties, and for which property. -/
structure FieldSpec where
  path : List String
  property : Property
  deriving DecidableEq, Inhabited

/-- What is read at one place of the order. -/
inductive FieldGroup where
  | single (field : FieldSpec)
  | exclusive (fields : List FieldSpec)
  | optional (field : FieldSpec)
  deriving DecidableEq, Inhabited

namespace FieldSpec

/-- The field that stands under the name of its property. -/
def plain (p : Property) : FieldSpec := ⟨[p.name], p⟩

/-- The path as it is written in messages. -/
def pathText (f : FieldSpec) : String := String.intercalate "." f.path

end FieldSpec

namespace FieldGroup

/-- A field under the name of its property. -/
def plain (p : Property) : FieldGroup := .single (.plain p)

/-- The channels of a colour under one key. -/
def colour (key : String) (property : Channel → Property) : List FieldGroup :=
  Property.channels.map fun channel => .single ⟨[key, channel.letter], property channel⟩

/-- The sources of a font. -/
def font : FieldGroup :=
  .exclusive ([.fontName, .fontFile, .fontAddress].map fun p => ⟨["font", p.name], p⟩)

/-- The fields of a line of text. -/
def line : List FieldGroup :=
  [font, plain .startX, plain .startY, plain .maxWidth, plain .size] ++ colour "colour" .colour ++
    [.optional (.plain .alignment)]

/-- The fields of a place and a size. -/
def place : List FieldGroup := [plain .topLeftX, plain .topLeftY, plain .width, plain .height]

/-- What a shape reads, in order. -/
def ofKind : ShapeKind → List FieldGroup
  | .rectangle => place ++ colour "colour" .colour
  | .circle => [plain .centreX, plain .centreY, plain .radius] ++ colour "colour" .colour
  | .text => plain .content :: line
  | .datetime => plain .time :: plain .timeFormat :: line
  | .image => .exclusive [.plain .fileName, .plain .data] :: place
  | .barcode =>
    plain .barcodeType :: plain .content :: place ++
      colour "dataColour" .barColour ++ colour "backgroundColour" .backgroundColour

end FieldGroup

/-- The value at a path of keys, if there is one. -/
def valueAt? : (path : List String) → Json → Option Json
  | [], value => some value
  | key :: rest, .object fields =>
    match Dictionary.get? fields key with
    | some value => valueAt? rest value
    | none => none
  | _ :: _, _ => none

/-- The text of a field; a missing one is empty. -/
def FieldSpec.textIn (f : FieldSpec) (properties : Json) : Except ComponentFault String :=
  match valueAt? f.path properties with
  | none => .ok ""
  | some (.string s) => .ok s
  | some _ => .error (.propertyNotText f.pathText)

/-- The field as a candidate for a text. -/
def FieldSpec.candidate (f : FieldSpec) (text : String) : Candidate Literal :=
  { text := text, property := f.property.name, read := Literal.read f.property.fieldType f.property.name }

/-- What has been read so far: the shape, the properties that wait, and the offset of a literal
time. -/
structure Reading where
  shape : Shape
  slots : SlotMap := []
  offset : Option Calendar.Duration := none

/-- The value that a literal supplies. -/
def Literal.toValue : Literal → Value
  | .integer i => .json (.int i)
  | .text s => .text s
  | .truth b => .json (.bool b)
  | .byte n => .json (.int n)
  | .decimal x => .json (.float x)
  | .duration _ => .json .null

/-- The symbology that a literal names. -/
def symbologyOfLiteral (name : String) : Except ComponentFault Symbology :=
  match Symbology.ofText? name with
  | some s => .ok s
  | none => .error (.unknownSymbology name)

namespace Reading

variable [Platform]

/-- Gives a property the value of its literal. -/
def assign (files : FileTree) (settings : Settings) (r : Reading) (p : Property)
    (literal : Literal) : Act Reading :=
  match p, literal with
  | .time, .duration offset => pure { r with offset := some offset }
  | .barcodeType, .text name => do
    let symbology ← Act.ofExcept .component (symbologyOfLiteral name)
    let shape ← r.shape.assign files settings p (.symbology symbology)
    return { r with shape := shape }
  | _, _ => do
    let shape ← r.shape.assign files settings p literal.toValue
    return { r with shape := shape }

/-- Takes up the outcome of a field: a value for its property, or the slots in which it waits. -/
def take (files : FileTree) (settings : Settings) (r : Reading) (p : Property) (slots : SlotMap)
    (value : Option Literal) : Act Reading :=
  match value with
  | none => pure { r with slots := slots }
  | some literal => assign files settings { r with slots := slots } p literal

/-- Reads one field with a known text. -/
def readText (files : FileTree) (settings : Settings) (r : Reading) (f : FieldSpec)
    (text : String) : Act Reading := do
  let (slots, value) ← Act.ofExcept .field ((f.candidate text).extract r.slots)
  take files settings r f.property slots value

/-- Reads what stands at one place of the order. -/
def readGroup (files : FileTree) (settings : Settings) (properties : Json) (r : Reading)
    (group : FieldGroup) : Act Reading :=
  match group with
  | .single f => do
    let text ← Act.ofExcept .component (f.textIn properties)
    readText files settings r f text
  | .optional f => do
    let text ← Act.ofExcept .component (f.textIn properties)
    if text = "" then return r else readText files settings r f text
  | .exclusive fields => do
    let texts ← Act.ofExcept .component (fields.mapM (·.textIn properties))
    let candidates := (fields.zip texts).map fun (f, text) => f.candidate text
    let (slots, value, place) ← Act.ofExcept .field (Candidate.extractExclusive candidates r.slots)
    match fields[place]? with
    | some f => take files settings r f.property slots value
    | none => return { r with slots := slots }

/-- Reads all groups in order. -/
def readGroups (files : FileTree) (settings : Settings) (properties : Json) :
    Reading → List FieldGroup → Act Reading
  | r, [] => pure r
  | r, group :: rest => do
    let r ← readGroup files settings properties r group
    readGroups files settings properties r rest

/-- The shape once the offset of a literal time has been added to the moment of loading. -/
def finish (now : Calendar.Moment) (r : Reading) : Except FieldFault Shape :=
  match r.shape, r.offset with
  | .datetime d, some offset =>
    match now.add? offset with
    | some moment => .ok (.datetime { d with moment := some moment })
    | none => .error (.momentOutOfRange offset (now.isoText " "))
  | shape, _ => .ok shape

end Reading

end PageTemplate
