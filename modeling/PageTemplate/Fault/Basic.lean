/-
Every way in which loading a template, supplying its variables or drawing it
can fail.
-/
import PageTemplate.Component.Fault
import PageTemplate.Condition.Basic
import PageTemplate.Drawing.Canvas
import PageTemplate.Fault.Failure
import PageTemplate.Field.Literal

namespace PageTemplate

/-- The kind of a field's fault. -/
def FieldFault.kind : FieldFault → FaultKind
  | .malformed .. => .parse
  | .composite _ => .composite
  | .mismatch .. | .unsupportedType .. | .momentOutOfRange .. => .coercion
  | .tooManyDigits _ => .value
  | .notExclusive _ => .exclusivity

/-- The kind of a condition's fault. -/
def ConditionFault.kind : ConditionFault → FaultKind
  | .conditionsNotList _ => .type
  | .number e => e.kind
  | .unshown fault => fault.kind
  | .tooDeep => .recursion
  | _ => .condition

/-- Why a template's base image cannot be used. -/
inductive BackgroundFault where
  | notObject
  | fieldNotText (key : String)
  | colourNotObject
  | severalSources
  | field (fault : FieldFault)
  | canvas (fault : CanvasFault)
  | component (fault : ComponentFault)
  | number (e : ArithmeticError)
  deriving DecidableEq, Inhabited

namespace BackgroundFault

/-- The wording of each fault. -/
def message : BackgroundFault → String
  | .notObject => "baseImage must be a JSON object."
  | .fieldNotText key => "baseImage field '" ++ key ++ "' must be a string."
  | .colourNotObject => "baseImage field 'baseColour' must be a JSON object."
  | .severalSources =>
    "cannot load base image from more than one of fileName, data and baseColour; specify only one"
  | .field fault => fault.message
  | .canvas fault => fault.message
  | .component fault => fault.message
  | .number e => e.message

/-- The kind that a fault met on the way has here: if it is of the expected kind, it is the base
image's own. -/
def adopt (expected met : FaultKind) : FaultKind := if met = expected then .background else met

/-- The kind of each fault. -/
def kind : BackgroundFault → FaultKind
  | .field fault => adopt .coercion fault.kind
  | .canvas fault => adopt .canvas fault.kind
  | .component fault => adopt .component fault.kind
  | .number e => e.kind
  | _ => .background

end BackgroundFault

/-- Why a template as a whole cannot be loaded. -/
inductive TemplateFault where
  | unreadable (asked opened : String) (fault : FileFault)
  | document (e : Json.DocumentError)
  | notObject
  | componentsNotArray
  | componentNotObject (place : Nat)
  | typeNotText (place : Nat)
  | unknownType (name message : String)
  deriving DecidableEq, Inhabited

namespace TemplateFault

/-- The wording of each fault. -/
def message : TemplateFault → String
  | .unreadable _ opened .nulInPath => FileFault.nulInPath.message opened
  | .unreadable asked opened fault =>
    "failed to read template file '" ++ asked ++ "': " ++ fault.message opened
  | .document e =>
    match e with
    | .malformed .. => "template is not valid JSON: " ++ e.message
    | _ => e.message
  | .notObject => "template content must be a JSON object."
  | .componentsNotArray => "template components must be a JSON array."
  | .componentNotObject place => "component " ++ toString place ++ " must be a JSON object."
  | .typeNotText place => "component " ++ toString place ++ " type must be a string."
  | .unknownType name message =>
    "failed to find type matching component with user-specified type " ++ name ++ ": " ++ message

/-- The kind of each fault. -/
def kind : TemplateFault → FaultKind
  | .unreadable _ _ .nulInPath => .value
  | .unreadable .. | .notObject => .template
  | .document (.malformed ..) => .template
  | .document e => e.kind
  | .componentsNotArray | .componentNotObject _ | .typeNotText _ | .unknownType .. => .component

end TemplateFault

/-- A fault of any part, or of a component type that is not the program's own. -/
inductive Fault where
  | field (fault : FieldFault)
  | setter (fault : SetterFault)
  | condition (fault : ConditionFault)
  | fit (fault : FitFault)
  | component (fault : ComponentFault)
  | background (fault : BackgroundFault)
  | canvas (fault : CanvasFault)
  | template (fault : TemplateFault)
  | foreign (fault : ForeignFault)
  deriving DecidableEq, Inhabited

namespace Fault

/-- The wording of each fault. -/
def message : Fault → String
  | .field fault => fault.message
  | .setter fault => fault.message
  | .condition fault => fault.message
  | .fit fault => fault.message
  | .component fault => fault.message
  | .background fault => fault.message
  | .canvas fault => fault.message
  | .template fault => fault.message
  | .foreign fault => fault.message

/-- The kind of each fault. -/
def kind : Fault → FaultKind
  | .field fault => fault.kind
  | .setter fault => fault.kind
  | .condition fault => fault.kind
  | .fit fault => fault.kind
  | .component fault => fault.kind
  | .background fault => fault.kind
  | .canvas fault => fault.kind
  | .template fault => fault.kind
  | .foreign fault => fault.kind

end Fault

end PageTemplate
