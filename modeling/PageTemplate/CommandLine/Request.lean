/-
What a command line asks for. Of an option given several times the last one
counts, but for the options that collect.
-/
import PageTemplate.CommandLine.Reading
import PageTemplate.Files.Path

namespace PageTemplate.CommandLine

/-- How a template is loaded. -/
structure Loading where
  template : Path
  plugins : List String := []
  profile : String := "default"
  settingsFile : Option Path := none
  isVerbose : Bool := false
  deriving DecidableEq, Inhabited

/-- What is rendered with, and to where. -/
structure Rendering where
  pairs : List String := []
  pairFile : Option Path := none
  output : Option Path := none
  deriving DecidableEq, Inhabited

/-- What a command line asks for. -/
inductive Request where
  | listVariables (loading : Loading)
  | render (loading : Loading) (rendering : Rendering)
  | listComponents (plugins : List String)
  deriving DecidableEq, Inhabited

namespace Parsed

/-- The texts given to an option, in order. -/
def texts (p : Parsed) (name : OptionName) : List String :=
  (p.given.filter fun g => g.form.name = name).map Given.text

/-- The text given last to an option. -/
def last? (p : Parsed) (name : OptionName) : Option String := (p.texts name).getLast?

/-- The path given last to an option. -/
def path? (p : Parsed) (name : OptionName) : Option Path := (p.last? name).map Path.ofText

/-- How the template of a command line is loaded. -/
def loading (p : Parsed) : Loading :=
  { template := Path.ofText p.file
    plugins := p.texts .plugin
    profile := (p.last? .profile).getD "default"
    settingsFile := p.path? .settingsFile
    isVerbose := !(p.texts .verbose).isEmpty }

/-- What the template of a command line is rendered with. -/
def rendering (p : Parsed) : Rendering :=
  { pairs := p.texts .pair, pairFile := p.path? .pairFile, output := p.path? .output }

/-- What a command line asks for. -/
def request (p : Parsed) : Request :=
  match p.command with
  | .listVariables => .listVariables p.loading
  | .render => .render p.loading p.rendering
  | _ => .listComponents (p.texts .plugin)

end Parsed

/-- Whether a request wants details in the journal. -/
def Request.isVerbose : Request → Bool
  | .listVariables loading | .render loading _ => loading.isVerbose
  | .listComponents _ => false

end PageTemplate.CommandLine
