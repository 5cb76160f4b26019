/-
The shelf of registered fonts. A font is asked for by name, which looks on the
shelf first and then into the font folders in their order, or by its file,
which registers it under the file's name. Fonts never leave the shelf.
-/
import PageTemplate.Font.Standard
import PageTemplate.Settings

namespace PageTemplate.Font

/-- The names of the registered fonts. -/
abbrev Shelf := List String

/-- Why a font cannot be had. `unsearched` is a failure of the files while folders are searched. -/
inductive Fault where
  | notFound (name : String)
  | unreadable (asked opened : String) (fault : FileFault)
  | unparsable (source words : String)
  | remote
  | unsearched (path : String) (fault : FileFault)
  deriving DecidableEq, Inhabited

/-- The wording of each fault. -/
def Fault.message : Fault → String
  | .notFound name => "font " ++ name ++ " not found"
  | .unreadable asked opened fault =>
    -- A path that cannot even be tried is told without what it was for.
    if fault = .nulInPath then fault.message opened
    else "failed to read font file " ++ asked ++ ": " ++ fault.message opened
  | .unparsable source words => "failed to parse font " ++ source ++ ": " ++ words
  | .remote => "fontURL not implemented"
  | .unsearched path fault => fault.message path

/-- The kind of each fault. -/
def Fault.kind : Fault → FaultKind
  | .unreadable _ _ .nulInPath => .value
  | .unsearched _ fault => fault.kind
  | _ => .component

/-- What asking for a font gives: its name, the shelf then, and where it was read from, if it was. -/
structure Found where
  name : String
  shelf : Shelf
  source : Option String := none
  deriving DecidableEq, Inhabited

/-- Whether a font can be used as it is. -/
def isKnown (shelf : Shelf) (name : String) : Bool :=
  standardNames.contains name || shelf.contains name

section Asking

variable [Platform]

/-- Puts the font of some bytes on the shelf. -/
def register (shelf : Shelf) (name source : String) (bytes : List UInt8) : Except Fault Found :=
  match Platform.checkFont bytes with
  | .ok () =>
    .ok { name := name, shelf := if shelf.contains name then shelf else shelf ++ [name],
          source := some source }
  | .error words => .error (.unparsable source words)

/-- The file of a font in a folder. -/
def fileIn (settings : Settings) (name folder : String) : Path :=
  (settings.resolve folder).join (Path.ofText (name ++ ".ttf"))

/-- Looks for a font in several folders; the first file of its name counts, good or bad. A folder that
cannot be looked into ends the search, and so does a file that cannot be read. -/
def searchFolders (files : FileTree) (settings : Settings) (shelf : Shelf) (name : String) :
    List String → Except Fault Found
  | [] => .error (.notFound name)
  | folder :: rest =>
    let path := fileIn settings name folder
    match files.look path with
    | .error fault => .error (.unsearched path.text fault)
    | .ok (some (.file ..)) =>
      match files.read path with
      | .error fault => .error (.unsearched path.text fault)
      | .ok bytes => register shelf name path.text bytes
    | .ok _ => searchFolders files settings shelf name rest

/-- Asks for a font by name. -/
def byName (files : FileTree) (settings : Settings) (shelf : Shelf) (name : String) :
    Except Fault Found :=
  if isKnown shelf name then .ok { name := name, shelf := shelf }
  else searchFolders files settings shelf name settings.fontFolders

/-- Asks for the font in a file. -/
def ofFile (files : FileTree) (settings : Settings) (shelf : Shelf) (asked : String) :
    Except Fault Found :=
  let path := settings.resolve asked
  match files.read path with
  | .error fault => .error (.unreadable asked path.text fault)
  | .ok bytes => register shelf (Path.ofText asked).stem path.text bytes

/-- Asks for the font at an address, which is never had. -/
def ofAddress (_address : String) : Except Fault Found := .error .remote

/-- The three ways to ask for a font. -/
inductive Request where
  | name
  | file
  | address
  deriving DecidableEq, Inhabited

/-- Asks for a font. -/
def ask (files : FileTree) (settings : Settings) (shelf : Shelf) (request : Request)
    (text : String) : Except Fault Found :=
  match request with
  | .name => byName files settings shelf text
  | .file => ofFile files settings shelf text
  | .address => ofAddress text

end Asking

end PageTemplate.Font
