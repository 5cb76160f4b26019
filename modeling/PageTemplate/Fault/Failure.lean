/-
The kinds of the failures that no part of a template answers for: those of
arithmetic, of showing a value, of opening a path and of reading a document.
-/
import PageTemplate.Binary64.Integer
import PageTemplate.Files.Tree
import PageTemplate.Json.Document

namespace PageTemplate

/-- The kind of a failure of arithmetic. -/
def ArithmeticError.kind : ArithmeticError → FaultKind
  | .integerTooLarge | .quotientTooLarge | .infinityToInteger => .overflow
  | .divisionByZero => .zeroDivision
  | .nanToInteger => .value

/-- The kind of a failure to show a value. -/
def Json.ShowFault.kind : Json.ShowFault → FaultKind
  | .tooManyDigits => .value
  | .tooDeep => .recursion

/-- The kind of a failure to open a path. -/
def FileFault.kind : FileFault → FaultKind
  | .missing => .missingFile
  | .throughFile => .throughFile
  | .isFolder => .isFolder
  | .refused .denied => .denied
  | .nameTooLong | .refused (.other ..) => .system
  | .nulInPath => .value

/-- The kind of a failure to read a JSON document. -/
def Json.DocumentError.kind : Json.DocumentError → FaultKind
  | .malformed .. => .value
  | .tooManyDigits _ => .value
  | .tooDeep _ => .recursion
  | .undecodable _ => .decoding
  | .loneSurrogate _ => .encoding

end PageTemplate
