/-
Kinds of faults. Those of a template tell what part of it is at fault; the
others are failures of arithmetic, of text, of the file system and of the
libraries, for which no part of a template answers.
-/
namespace PageTemplate

/-- What kind of failure a fault is. -/
inductive FaultKind where
  | parse
  | composite
  | coercion
  | exclusivity
  | setter
  | condition
  | iteration
  | component
  | background
  | canvas
  | template
  | value
  | type
  | overflow
  | zeroDivision
  | attribute
  | index
  | key
  | recursion
  | pattern
  | decoding
  | encoding
  | missingFile
  | throughFile
  | isFolder
  | denied
  | system
  | other
  deriving DecidableEq, Inhabited

namespace FaultKind

/-- Whether a part of a template is at fault. -/
def isTemplate : FaultKind → Bool
  | .parse | .composite | .coercion | .exclusivity | .setter | .condition | .iteration
  | .component | .background | .canvas | .template => true
  | _ => false

/-- Whether the fault is told to whoever runs a command: a template's, a bad value or a file. -/
def isReported (k : FaultKind) : Bool :=
  k.isTemplate ||
    match k with
    | .value | .decoding | .encoding | .missingFile | .throughFile | .isFolder | .denied | .system => true
    | _ => false

end FaultKind

/-- A failure of code that is not the program's own: its kind and its words. -/
structure ForeignFault where
  kind : FaultKind
  message : String
  deriving DecidableEq, Inhabited

end PageTemplate
