/-
The base image of a template: a picture from a file or from base64 text, or a
colour, of which at most one may be given. It is drawn first and fills the
page; where there is no page yet it also settles the page's size.
-/
import PageTemplate.Binary64.Reading
import PageTemplate.Component.Assignment

namespace PageTemplate.Background

/-- The larger of an integer and one. -/
def atLeastOne (i : Int) : Int := if i < 1 then 1 else i

/-- A length scaled by a quotient of two others, rounded to an integer, and at least one. -/
def scaled (length num den : Int) : Except ArithmeticError Int := do
  let exact ← Binary64.ofQuotient (length * num) den
  let rounded ← exact.round
  return atLeastOne rounded

/-- The largest size of the proportions of `source` that `target` holds. -/
def fitSize (source target : Int × Int) : Except ArithmeticError (Int × Int) :=
  let (sourceWidth, sourceHeight) := source
  let (targetWidth, targetHeight) := target
  if sourceWidth * targetHeight = targetWidth * sourceHeight then .ok target
  else if targetWidth * sourceHeight < sourceWidth * targetHeight then
    (scaled sourceHeight targetWidth sourceWidth).map fun height => (targetWidth, height)
  else (scaled sourceWidth targetHeight sourceHeight).map fun width => (width, targetHeight)

/-- The number that a value gives, if it is a number, a truth value or a text that writes one. -/
def numberOf? : Json → Except ArithmeticError (Option Binary64)
  | .string s => .ok (Binary64.ofText? s)
  | .bool b => .ok (some (Binary64.ofRatio false (if b then 1 else 0) 1))
  | .int i => (Binary64.ofInt i).map some
  | .float x => .ok (some x)
  | _ => .ok none

/-- A resolution, or the default where the value is no positive number. -/
def resolution (value : Json) (default : Binary64) : Except ArithmeticError Binary64 :=
  (numberOf? value).map fun
    | some x => if x.isPositive then x else default
    | none => default

/-- A text field; a missing one is empty. -/
def fieldText (fields : Dictionary Json) (key : String) : Except BackgroundFault String :=
  match fields.get? key with
  | none => .ok ""
  | some (.string s) => .ok s
  | some _ => .error (.fieldNotText key)

/-- The base image: none, or one of the three sources. -/
inductive Source where
  | none
  | colour (channels : Dictionary Json)
  | file (name : String)
  | data (text : String)

/-- The channels of a base colour whose first one is given. -/
def colourChannels? (fields : Dictionary Json) : Option (Dictionary Json) :=
  match fields.get? "baseColour" with
  | some (.object channels) =>
    match Dictionary.get? channels "R" with
    | some value => if value.isBlank then .none else some channels
    | .none => .none
  | _ => .none

/-- The one source that is given. -/
def readSource (fields : Dictionary Json) : Except BackgroundFault Source := do
  let file ← fieldText fields "fileName"
  let data ← fieldText fields "data"
  match colourChannels? fields, file == "", data == "" with
  | .none, true, true => return .none
  | some channels, true, true => return .colour channels
  | .none, false, true => return .file file
  | .none, true, false => return .data data
  | _, _, _ => throw .severalSources

/-- A channel of the base colour. -/
def readChannel (channels : Dictionary Json) (channel : Channel) : Except BackgroundFault Int := do
  let text ← fieldText channels channel.letter
  match Literal.readByte channel.letter text with
  | .ok n => return n
  | .error fault => throw (.field fault)

/-- The base colour. -/
def readColour (channels : Dictionary Json) : Except BackgroundFault Colour := do
  let red ← readChannel channels .red
  let green ← readChannel channels .green
  let blue ← readChannel channels .blue
  let alpha ← readChannel channels .alpha
  return ⟨red, green, blue, alpha⟩

/-- A side of the page. -/
def readSize (fields : Dictionary Json) (key : String) : Except BackgroundFault Int := do
  let text ← fieldText fields key
  match Literal.readInteger key text with
  | .ok i => return i
  | .error fault => throw (.field fault)

/-- A result of the canvas as one of the base image. -/
def ofCanvas {α : Type} : Except CanvasFault α → Except BackgroundFault α
  | .ok value => .ok value
  | .error fault => .error (.canvas fault)

/-- A computed number as one of the base image. -/
def ofNumber {α : Type} : Except ArithmeticError α → Except BackgroundFault α
  | .ok value => .ok value
  | .error e => .error (.number e)

/-- A picture as one of the base image. -/
def ofPicture : Except ComponentFault Picture → Except BackgroundFault Picture
  | .ok picture => .ok picture
  | .error fault => .error (.component fault)

/-- The journal's word for a size. -/
def sizeText (width height : Int) : String := toString width ++ "x" ++ toString height

/-- The page where no base image is given: the one there is, or an empty one of the size that the
settings give, if they do. -/
def withoutSource (settings : Settings) (resolution : Binary64) (canvas : Option Canvas) :
    Except BackgroundFault (Option Canvas × List JournalEntry) :=
  match canvas with
  | some canvas => .ok (some canvas, [])
  | none =>
    if 0 < settings.pageWidth ∧ 0 < settings.pageHeight then
      (ofCanvas (Canvas.blank settings.pageWidth settings.pageHeight resolution)).map fun canvas =>
        (some canvas, [.debug "background" ("no base image; using default " ++
          sizeText settings.pageWidth settings.pageHeight ++ " canvas")])
    else .ok (none, [])

/-- The page filled with a colour. -/
def withColour (fields channels : Dictionary Json) (resolution : Binary64)
    (canvas : Option Canvas) : Except BackgroundFault Canvas := do
  let colour ← readColour channels
  let canvas ←
    match canvas with
    | some canvas => pure (canvas.withResolution resolution)
    | none => do
      let width ← readSize fields "width"
      let height ← readSize fields "height"
      ofCanvas (Canvas.blank width height resolution)
  ofCanvas (canvas.rectangle {} canvas.width canvas.height colour)

/-- The page with a picture on it. -/
def withPicture (picture : Picture) (resolution : Binary64) (canvas : Option Canvas) :
    Except BackgroundFault (Option Canvas × List JournalEntry) := do
  let size : Int × Int := (picture.width, picture.height)
  let (canvas, width, height) ←
    match canvas with
    | some canvas => do
      let canvas := canvas.withResolution resolution
      let (width, height) ← ofNumber (fitSize size (canvas.width, canvas.height))
      pure (canvas, width, height)
    | none => do
      let canvas ← ofCanvas (Canvas.blank size.1 size.2 resolution)
      pure (canvas, size.1, size.2)
  let canvas ← ofCanvas (canvas.image {} (some picture) width height)
  return (some canvas,
    [.debug "background" ("drawing base image at " ++ sizeText width height)])

/-- The fields of a base image; a blank one has none. -/
def givenFields (baseImage : Json) : Except BackgroundFault (Dictionary Json) :=
  if baseImage.isBlank then .ok []
  else
    match baseImage with
    | .object fields => .ok fields
    | _ => .error .notObject

/-- Applies a base image to the page there is, if there is one, and tells what it did. -/
def apply [Platform] (files : FileTree) (settings : Settings) (canvas : Option Canvas) (baseImage : Json) :
    Except BackgroundFault (Option Canvas × List JournalEntry) := do
  let fields ← givenFields baseImage
  let source ← readSource fields
  let resolution ←
    ofNumber (resolution ((Dictionary.get? fields "ppi").getD (.string "")) settings.resolution)
  match source with
  | .none => withoutSource settings resolution canvas
  | .colour channels => do
    let canvas ← withColour fields channels resolution canvas
    return (some canvas, [])
  | .file name => do
    let picture ← ofPicture (pictureOfFile files (settings.resolve name))
    withPicture picture resolution canvas
  | .data text => do
    let picture ← ofPicture (pictureOfBase64 text)
    withPicture picture resolution canvas

end PageTemplate.Background
