/-
What can go wrong with a component: a value of the wrong type for a property,
or a component that cannot be loaded or drawn.
-/
import PageTemplate.Base64
import PageTemplate.Calendar.Pattern
import PageTemplate.Font.Shelf
import PageTemplate.Value

namespace PageTemplate

/-- What a property wants of a value. -/
inductive Wanted where
  | text
  | integer
  | byte
  | decimal
  | symbology
  | moment
  | picture
  deriving DecidableEq, Inhabited

/-- The words for what is wanted. -/
def Wanted.words : Wanted → String
  | .text => "string"
  | .integer => "int"
  | .byte => "uint8"
  | .decimal => "float"
  | .symbology => "barcode type"
  | .moment => "datetime or (format, text) pair"
  | .picture => "bytes, string or file object"

/-- Why a property does not take a value. -/
inductive SetterFault where
  | wrongType (shown : String) (wanted : Wanted)
  | notAlignment (shown : String)
  | unknownSymbology (name : String)
  | momentMismatch (text layout : String)
  | repeatedField (field : Calendar.RepeatedField)
  | unknownProperty (name : String)
  | number (e : ArithmeticError)
  | unshown (fault : Json.ShowFault)
  deriving DecidableEq, Inhabited

/-- The wording for a name that no symbology has. -/
def unknownSymbologyMessage (name : String) : String := "unknown barcode type " ++ name

namespace SetterFault

/-- The wording of each fault. -/
def message : SetterFault → String
  | .wrongType shown wanted => "error converting " ++ shown ++ " to " ++ wanted.words
  | .notAlignment shown => "could not convert " ++ shown ++ " to text alignment or string"
  | .unknownSymbology name => unknownSymbologyMessage name
  | .momentMismatch text layout =>
    "cannot convert time string " ++ text ++ " to time format " ++ layout
  | .repeatedField field => field.message
  | .unknownProperty name => "invalid component property in named property map: " ++ name
  | .number e => e.message
  | .unshown fault => fault.message

/-- The kind of each fault. -/
def kind : SetterFault → FaultKind
  | .repeatedField _ => .pattern
  | .number e => e.kind
  | .unshown fault => fault.kind
  | _ => .setter

end SetterFault

/-- Why a component cannot be loaded or drawn. -/
inductive ComponentFault where
  | propertiesNotObject
  | propertyNotText (path : String)
  | unknownSymbology (name : String)
  | noSymbology
  | pending (kind : String) (awaited : List String)
  | font (fault : Font.Fault)
  | base64 (fault : Base64.Fault)
  | notPicture (source words : String)
  | pictureUnreadable (path : String) (fault : FileFault)
  deriving DecidableEq, Inhabited

namespace ComponentFault

/-- The wording of each fault. -/
def message : ComponentFault → String
  | .propertiesNotObject => "component properties must be a JSON object."
  | .propertyNotText path => "component property '" ++ path ++ "' must be a string."
  | .unknownSymbology name => "for barcode type " ++ name ++ ": " ++ unknownSymbologyMessage name
  | .noSymbology => "cannot draw barcode without a barcode type"
  | .pending kind awaited =>
    "cannot draw " ++ kind ++ ", not all named properties are set: " ++ Text.commaSeparated awaited
  | .font fault => fault.message
  | .base64 .notAscii => Base64.Fault.notAscii.message
  | .base64 fault => "image data is not valid base64: " ++ fault.message
  | .notPicture source words => "failed to decode image from " ++ source ++ ": " ++ words
  | .pictureUnreadable path .nulInPath => FileFault.nulInPath.message path
  | .pictureUnreadable path fault => "failed to read image file " ++ path ++ ": " ++ fault.message path

/-- The kind of each fault. -/
def kind : ComponentFault → FaultKind
  | .font fault => fault.kind
  | .base64 .notAscii => .value
  | .pictureUnreadable _ .nulInPath => .value
  | _ => .component

end ComponentFault

end PageTemplate
