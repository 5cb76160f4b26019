/-
Values for variables as a caller gives them on the command line, one
`key=value` at a time, or in a file.
-/
import PageTemplate.Json.ObjectFile
import PageTemplate.Text.Blank

namespace PageTemplate.Variables

/-- Why values cannot be had. -/
inductive Fault where
  | noEquals (pair : String)
  | noKey (pair : String)
  | document (e : Json.DocumentError)
  | file (fault : Json.ObjectFileFault)
  deriving DecidableEq, Inhabited

/-- The wording of each fault. -/
def Fault.message : Fault → String
  | .noEquals pair => "invalid --var '" ++ pair ++ "'. Expected key=value."
  | .noKey pair => "invalid --var '" ++ pair ++ "'. Key cannot be empty."
  | .document e => e.message
  | .file fault => fault.message

/-- The kind of each fault. -/
def Fault.kind : Fault → FaultKind
  | .noEquals _ | .noKey _ => .value
  | .document e => e.kind
  | .file fault => fault.kind

section Reading

variable [Platform]

/-- The value that a text writes: a JSON value if it is a document, and else the text itself. -/
def decode (s : String) : Except Fault Json :=
  match Json.ofText s with
  | .ok value => .ok value
  | .error (.malformed ..) => .ok (.string s)
  | .error e => .error (.document e)

/-- Takes a pair apart at its first equals sign. Blanks around either part do not count. -/
def readPair (pair : String) : Except Fault (String × Json) :=
  let cs := pair.toList
  if !cs.contains '=' then .error (.noEquals pair)
  else
    let key := Text.strip (String.ofList (cs.takeWhile (· != '=')))
    let value := Text.strip (String.ofList ((cs.dropWhile (· != '=')).drop 1))
    if key = "" then .error (.noKey pair) else (decode value).map fun value => (key, value)

/-- The values of several pairs; of two for one key the later one counts. -/
def readPairs (pairs : List String) : Except Fault (Dictionary Json) :=
  pairs.foldlM (fun values pair =>
    (readPair pair).map fun (key, value) => Dictionary.insert values key value) []

/-- The values in a file. -/
def load (files : FileTree) (path : Path) : Except Fault (Dictionary Json) :=
  match Json.readObjectFile "variables" files path with
  | .ok values => .ok values
  | .error fault => .error (.file fault)

end Reading

end PageTemplate.Variables
