/-
JSON files that have to hold an object, such as a file of settings or of
values.
-/
import PageTemplate.Fault.Failure

namespace PageTemplate.Json

/-- Why a file holds no object. `purpose` is what the file is for. -/
inductive ObjectFileFault where
  | absent (purpose path : String)
  | malformed (purpose path : String) (e : DocumentError)
  | notObject (purpose : String)
  | unreadable (path : String) (fault : FileFault)
  | unusable (e : DocumentError)
  deriving DecidableEq, Inhabited

namespace ObjectFileFault

/-- The wording of each fault. -/
def message : ObjectFileFault → String
  | .absent purpose path => purpose ++ " file '" ++ path ++ "' does not exist."
  | .malformed purpose path e => purpose ++ " file '" ++ path ++ "' is not valid JSON: " ++ e.message ++ "."
  | .notObject purpose => purpose ++ " file content must be a JSON object."
  | .unreadable path fault => fault.message path
  | .unusable e => e.message

/-- The kind of each fault. -/
def kind : ObjectFileFault → FaultKind
  | .absent .. | .malformed .. | .notObject _ => .value
  | .unreadable _ fault => fault.kind
  | .unusable e => e.kind

end ObjectFileFault

/-- The fields of the object in a file. -/
def readObjectFile [Platform] (purpose : String) (files : FileTree) (path : Path) :
    Except ObjectFileFault (Dictionary Json) :=
  match files.look path with
  | .error fault => .error (.unreadable path.text fault)
  | .ok none => .error (.absent purpose path.text)
  | .ok (some _) =>
    match files.read path with
    | .error fault => .error (.unreadable path.text fault)
    | .ok bytes =>
      match ofTextFile bytes with
      | .ok (.object fields) => .ok fields
      | .ok _ => .error (.notObject purpose)
      | .error (.malformed reason line column offset) =>
        .error (.malformed purpose path.text (.malformed reason line column offset))
      | .error e => .error (.unusable e)

end PageTemplate.Json
