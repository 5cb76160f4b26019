/-
Files as data: what stands below the root, by path, what the system refuses the
program there, and what opening a path finds or why it fails.

The tree has no links, so the folder above is always the one on the path.
-/
import PageTemplate.Files.Path
import PageTemplate.Text.Quoted

namespace PageTemplate

/-- With what the system refuses something: that it is not allowed, or any other number and words. -/
inductive Refusal where
  | denied
  | other (number : Nat) (words : String)
  deriving DecidableEq, Inhabited

/-- Why a path cannot be opened. -/
inductive FileFault where
  | missing
  | throughFile
  | isFolder
  | nameTooLong
  | nulInPath
  | refused (refusal : Refusal)
  deriving DecidableEq, Inhabited

namespace FileFault

/-- What is said of each fault before the path. -/
def words : FileFault → String
  | .missing => "[Errno 2] No such file or directory"
  | .throughFile => "[Errno 20] Not a directory"
  | .isFolder => "[Errno 21] Is a directory"
  | .nameTooLong => "[Errno 36] File name too long"
  | .nulInPath => "embedded null byte"
  | .refused .denied => "[Errno 13] Permission denied"
  | .refused (.other number words) => "[Errno " ++ toString number ++ "] " ++ words

/-- The wording of each fault, for the path that was opened. -/
def message (path : String) : FileFault → String
  | .nulInPath => FileFault.nulInPath.words
  | fault => fault.words ++ ": " ++ Text.quoted path

/-- Whether a path that is only asked about counts as one where nothing is, rather than as a failure: it
cannot be followed, it is no path, or the system's number is 9 or 40, for a bad descriptor and too many
links. -/
def isAbsence : FileFault → Bool
  | .missing | .throughFile | .nulInPath => true
  | .refused (.other number _) => number == 9 || number == 40
  | .isFolder | .nameTooLong | .refused .denied => false

end FileFault

/-- What the system refuses the program at an entry: to go through a folder, to read a file, and to write a
file or into a folder. -/
structure Locks where
  passing : Option Refusal := none
  reading : Option Refusal := none
  writing : Option Refusal := none
  deriving DecidableEq, Inhabited

/-- Something in the tree: a file with its bytes, or a folder. -/
inductive FileEntry where
  | file (bytes : List UInt8) (locks : Locks := {})
  | folder (locks : Locks := {})
  deriving DecidableEq, Inhabited

/-- What is refused at an entry. -/
def FileEntry.locks : FileEntry → Locks
  | .file _ locks | .folder locks => locks

/-- The entries below the root, each with the parts of its path, and the folder the program works in.
Folders that only lead to one of these need no entry of their own. `breaking` tells that writing breaks
off, after how many bytes, and how it is refused then. -/
structure FileTree where
  entries : List (List String × FileEntry) := []
  workingFolder : List String := []
  breaking : Option (Nat × Refusal) := none
  deriving Inhabited

/-- A place in the tree, by the parts that lead to it from the root. -/
abbrev Place := List String

namespace FileTree

/-- Whether a place leads to the working folder or to an entry, as the root always does. -/
def leadsOn (t : FileTree) (place : Place) : Bool :=
  place.isPrefixOf t.workingFolder || t.entries.any fun (listed, _) => place.isPrefixOf listed

/-- What is listed for a place. -/
def listed? (t : FileTree) (place : Place) : Option (Place × FileEntry) :=
  t.entries.find? fun (listed, _) => listed == place

/-- The entry at a place: one that is listed, or a folder that leads on. -/
def entryAt? (t : FileTree) (place : Place) : Option FileEntry :=
  match t.listed? place with
  | some (_, entry) => some entry
  | none => if t.leadsOn place then some (.folder {}) else none

/-- The entry at a place that a path leads to. -/
def entryOf (t : FileTree) (place : Place) : FileEntry := (t.entryAt? place).getD (.folder {})

/-- One step along a path, from a place that has to be a folder that lets it through. -/
def step (t : FileTree) (place : Place) (part : String) : Except FileFault Place :=
  match t.entryOf place with
  | .file .. => .error .throughFile
  | .folder locks =>
    match locks.passing with
    | some refusal => .error (.refused refusal)
    | none =>
      if 255 < part.utf8ByteSize then .error .nameTooLong
      else if part = ".." then .ok place.dropLast
      else
        match t.entryAt? (place ++ [part]) with
        | some _ => .ok (place ++ [part])
        | none => .error .missing

/-- Follows the parts of a path from a place. -/
def walk (t : FileTree) : Place → List String → Except FileFault Place
  | place, [] => .ok place
  | place, part :: rest =>
    match t.step place part with
    | .ok next => t.walk next rest
    | .error fault => .error fault

/-- Where a path starts. -/
def start (t : FileTree) (p : Path) : Place := if p.isAbsolute then [] else t.workingFolder

/-- The place a path leads to. -/
@[irreducible] def find (t : FileTree) (p : Path) : Except FileFault Place :=
  if p.text.toList.contains '\x00' then .error .nulInPath
  else if 4095 < p.text.utf8ByteSize then .error .nameTooLong
  else t.walk (t.start p) p.parts

/-- The bytes of the file at a path. -/
def read (t : FileTree) (p : Path) : Except FileFault (List UInt8) :=
  match t.find p with
  | .error fault => .error fault
  | .ok place =>
    match t.entryOf place with
    | .folder _ => .error .isFolder
    | .file bytes locks =>
      match locks.reading with
      | some refusal => .error (.refused refusal)
      | none => .ok bytes

/-- What is at a path, if there is something. -/
def look (t : FileTree) (p : Path) : Except FileFault (Option FileEntry) :=
  match t.find p with
  | .ok place => .ok (some (t.entryOf place))
  | .error fault => if fault.isAbsence then .ok none else .error fault

/-- Where a file can be written at a path: in the place of a file that is there, or, where nothing
is, in the folder that the path without its last part leads to. -/
def destination (t : FileTree) (p : Path) : Except FileFault Place :=
  match t.find p, p.parts.getLast? with
  | .ok place, _ =>
    match t.entryOf place with
    | .folder _ => .error .isFolder
    | .file _ locks =>
      match locks.writing with
      | some refusal => .error (.refused refusal)
      | none => .ok place
  | .error .missing, some name =>
    match t.find ⟨p.root, p.parts.dropLast⟩ with
    | .error fault => .error fault
    | .ok place =>
      match t.entryOf place with
      | .file .. => .error .throughFile
      | .folder locks =>
        match locks.writing with
        | some refusal => .error (.refused refusal)
        | none => .ok (place ++ [name])
  | .error fault, _ => .error fault

/-- The tree with a file at a place: what a file there held is replaced, what is refused of it stays. -/
def put (t : FileTree) (place : Place) (bytes : List UInt8) : FileTree :=
  let locks := ((t.entryAt? place).map FileEntry.locks).getD {}
  { t with
    entries := (place, .file bytes locks) :: t.entries.filter fun (listed, _) => listed != place }

/-- Why a writing did not come to its end: it was refused before anything was written, or it broke off. -/
inductive WriteFault where
  | refused (fault : FileFault)
  | broken (refusal : Refusal)
  deriving DecidableEq, Inhabited

/-- Writes a file at a path. The file is emptied or made when it is opened, and a writing that breaks off
leaves what was written until then. -/
def write (t : FileTree) (p : Path) (bytes : List UInt8) : Except WriteFault Unit × FileTree :=
  match t.destination p with
  | .error fault => (.error (.refused fault), t)
  | .ok place =>
    match t.breaking with
    | none => (.ok (), t.put place bytes)
    | some (count, refusal) => (.error (.broken refusal), t.put place (bytes.take count))

end FileTree

end PageTemplate
