/-
Settings: what shapes a rendering but belongs to no template. They come from a
built-in profile, and a file may replace any of them.
-/
import PageTemplate.Binary64.Integer
import PageTemplate.Files.Path
import PageTemplate.Json.ObjectFile
import PageTemplate.Text.Blank
import PageTemplate.Text.Order

namespace PageTemplate

/-- The resolution where none is given: a unit for every point. -/
def defaultResolution : Binary64 := Binary64.ofRatio false 72 1

/-- The settings. A page size of zero means that there is none. -/
structure Settings where
  resolution : Binary64 := defaultResolution
  pageWidth : Int := 0
  pageHeight : Int := 0
  fontFolders : List String := []
  baseFolder : String := "."
  deriving DecidableEq

instance : Inhabited Settings := ⟨{}⟩

/-- Why settings cannot be had. -/
inductive SettingsFault where
  | unknownProfile (name : String)
  | file (fault : Json.ObjectFileFault)
  | unknownKeys (keys : List String)
  | notPositive (key : String)
  | notSize (key : String)
  | notPath (key : String)
  | notPaths (key : String)
  | number (e : ArithmeticError)
  deriving DecidableEq, Inhabited

namespace Settings

/-- A path of a template, seen from the base folder. -/
def resolve (s : Settings) (path : String) : Path := (Path.ofText s.baseFolder).join (Path.ofText path)

/-- The built-in profiles. -/
def profiles : Dictionary Settings := [
  ("default", {}),
  ("a4", { pageWidth := 595, pageHeight := 842 }),
  ("letter", { pageWidth := 612, pageHeight := 792 })]

/-- The names of the profiles, in order. -/
def profileNames : List String := Text.sorted profiles.keys

end Settings

namespace SettingsFault

/-- The wording of each fault. -/
def message : SettingsFault → String
  | .unknownProfile name =>
    "unknown settings profile '" ++ name ++ "'. Valid profiles: " ++
      Text.commaSeparated Settings.profileNames ++ "."
  | .file fault => fault.message
  | .unknownKeys keys => "unknown settings key(s): " ++ Text.commaSeparated keys ++ "."
  | .notPositive key => "settings key '" ++ key ++ "' must be a positive number."
  | .notSize key => "settings key '" ++ key ++ "' must be a non-negative integer."
  | .notPath key => "settings key '" ++ key ++ "' must be a non-empty path string."
  | .notPaths key => "settings key '" ++ key ++ "' must be a list of path strings."
  | .number e => e.message

/-- The kind of each fault. -/
def kind : SettingsFault → FaultKind
  | .file fault => fault.kind
  | .number e => e.kind
  | _ => .value

end SettingsFault

namespace Settings

/-- The keys that a file of settings may have. -/
def knownKeys : List String :=
  ["ppi", "default_width", "default_height", "font_directories", "base_directory"]

/-- Reads a positive number; a NaN passes, for it is not below or at zero. -/
def readPositive (key : String) (value : Json) : Except SettingsFault Binary64 :=
  match value with
  | .int i =>
    if i ≤ 0 then .error (.notPositive key)
    else
      match Binary64.ofInt i with
      | .ok x => .ok x
      | .error e => .error (.number e)
  | .float x => if x.le (Binary64.zero false) then .error (.notPositive key) else .ok x
  | _ => .error (.notPositive key)

/-- Reads a size. -/
def readSize (key : String) (value : Json) : Except SettingsFault Int :=
  match value with
  | .int i => if i < 0 then .error (.notSize key) else .ok i
  | _ => .error (.notSize key)

/-- Reads a path, which is a text that is not blank. -/
def readPath (key : String) (value : Json) : Except SettingsFault String :=
  match value with
  | .string s => if Text.strip s = "" then .error (.notPath key) else .ok s
  | _ => .error (.notPath key)

/-- Reads each of several paths. -/
def readEachPath (key : String) : List Json → Except SettingsFault (List String)
  | [] => .ok []
  | value :: rest =>
    match readPath key value with
    | .error fault => .error fault
    | .ok path => (readEachPath key rest).map (path :: ·)

/-- Reads a list of paths. -/
def readPaths (key : String) (value : Json) : Except SettingsFault (List String) :=
  match value with
  | .array items => readEachPath key items
  | _ => .error (.notPaths key)

/-- Replaces one setting. -/
def override (s : Settings) (key : String) (value : Json) : Except SettingsFault Settings :=
  if key = "ppi" then (readPositive key value).map fun x => { s with resolution := x }
  else if key = "default_width" then (readSize key value).map fun i => { s with pageWidth := i }
  else if key = "default_height" then (readSize key value).map fun i => { s with pageHeight := i }
  else if key = "font_directories" then
    (readPaths key value).map fun paths => { s with fontFolders := paths }
  else if key = "base_directory" then (readPath key value).map fun path => { s with baseFolder := path }
  else .error (.unknownKeys [key])

/-- Replaces several settings; unknown keys are refused before any value is looked at. -/
def overrideAll (s : Settings) (fields : Dictionary Json) : Except SettingsFault Settings :=
  let unknown := fields.keys.filter fun key => !knownKeys.contains key
  if unknown ≠ [] then .error (.unknownKeys (Text.sorted unknown))
  else fields.foldlM (fun s (key, value) => s.override key value) s

/-- The settings of a profile with what a file replaces. -/
def load [Platform] (files : FileTree) (profile : String) (file : Option Path) : Except SettingsFault Settings :=
  match profiles.get? profile with
  | none => .error (.unknownProfile profile)
  | some settings =>
    match file with
    | none => .ok settings
    | some path =>
      match Json.readObjectFile "settings" files path with
      | .error fault => .error (.file fault)
      | .ok fields => settings.overrideAll fields

end Settings

end PageTemplate
