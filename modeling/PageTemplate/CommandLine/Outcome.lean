/-
Carrying out a command line: what it prints, what it tells the journal, what it
leaves of the files, and how it ends.

The files and modules that there are come as data, as does what keeps the
program from printing, so that all of it is a function of the command line and
of what surrounds it. A command that fails keeps what it has done until then.
-/
import PageTemplate.CommandLine.Help
import PageTemplate.CommandLine.Request
import PageTemplate.Json.Listing
import PageTemplate.Registry.Plugin
import PageTemplate.Template.Builder
import PageTemplate.Variables

namespace PageTemplate.CommandLine

/-- What surrounds a command: the files and the moment, the plugins there are, and why a text is not
printed, if it is not. -/
structure World (μ : Type := ShapeKind) where
  around : Surroundings
  plugins : PluginWorld μ
  printing : String → Option ForeignFault := fun _ => none

/-- Why a command fails. -/
inductive CommandFault where
  | settings (fault : SettingsFault)
  | values (fault : Variables.Fault)
  | template (fault : Fault)
  | writing (path : Path) (fault : FileTree.WriteFault)
  | printing (fault : ForeignFault)
  deriving DecidableEq, Inhabited

namespace CommandFault

/-- The wording of each fault. -/
def message : CommandFault → String
  | .settings fault => fault.message
  | .values fault => fault.message
  | .template fault => fault.message
  | .writing path (.refused fault) => fault.message path.text
  | .writing _ (.broken refusal) => (FileFault.refused refusal).words
  | .printing fault => fault.message

/-- The kind of each fault. -/
def kind : CommandFault → FaultKind
  | .settings fault => fault.kind
  | .values fault => fault.kind
  | .template fault => fault.kind
  | .writing _ (.refused fault) => fault.kind
  | .writing _ (.broken refusal) => (FileFault.refused refusal).kind
  | .printing fault => fault.kind

end CommandFault

/-- What a command has done so far. -/
structure Progress where
  files : FileTree
  printed : String := ""
  complaints : String := ""
  session : Session := {}
  deriving Inhabited

/-- A step of a command. -/
abbrev Step := ExceptT CommandFault (StateM Progress)

variable {μ κ : Type} [Platform] [IsComponent κ] [IsKind μ κ]

namespace Step

/-- Prints a text where complaints go. -/
def complain (text : String) : Step Unit :=
  modify fun p => { p with complaints := p.complaints ++ text }

/-- Writes entries into the journal. -/
def tell (entries : List JournalEntry) : Step Unit :=
  modify fun p => { p with session := { p.session with journal := p.session.journal ++ entries } }

/-- A result that may be a fault. -/
def ofExcept {ε α : Type} (wrap : ε → CommandFault) : Except ε α → Step α
  | .ok value => pure value
  | .error fault => throw (wrap fault)

/-- An action on builders as a step. -/
def act {α : Type} (a : BuilderAct μ κ α) : Step α := do
  let (result, session) := a.run.run (← get).session
  modify fun p => { p with session := session }
  ofExcept (fun (failure : Failure μ κ) => .template failure.fault) result

/-- Prints a text. -/
def print (world : World μ) (text : String) : Step Unit :=
  match world.printing text with
  | some fault => throw (.printing fault)
  | none => modify fun p => { p with printed := p.printed ++ text }

/-- Writes a file. -/
def write (path : Path) (bytes : List UInt8) : Step Unit := do
  let (result, files) := (← get).files.write path bytes
  modify fun p => { p with files := files }
  ofExcept (.writing path) result

end Step

/-- The built-in types and those of plugins. A plugin that fails is complained about. -/
def loadRegistry (world : World μ) (plugins : List String) : Step (Registry μ) := do
  let builtin := Registry.builtinAs IsKind.ofShape
  let report := builtin.loadPlugins world.plugins plugins Registry.pluginGroup
  Step.tell report.journal
  Step.complain (String.join (report.warnings.map (· ++ "\n")))
  return report.registry

/-- Loads a template. -/
def loadTemplate (world : World μ) (loading : Loading) : Step (Builder μ κ) := do
  let registry ← loadRegistry world loading.plugins
  let settings ← Step.ofExcept .settings
    (Settings.load world.around.files loading.profile loading.settingsFile)
  let empty : Builder μ κ := { registry := registry, settings := settings }
  Step.act (Builder.ofAct (empty.loadFile world.around loading.template.text) : BuilderAct μ κ _)

/-- Prints the variables of a template, each with a text to be replaced. -/
def listVariables (world : World μ) (loading : Loading) : Step Unit := do
  let b ← loadTemplate world loading
  Step.print world (Json.listing (b.needed.map fun name => (name, placeholder)) ++ "\n")

/-- The values for variables: those of a file, and then those of the command line. -/
def gatherValues (world : World μ) (rendering : Rendering) : Step (Dictionary Json) := do
  let fromFile ←
    match rendering.pairFile with
    | none => pure []
    | some path => Step.ofExcept .values (Variables.load world.around.files path)
  let pairs ← Step.ofExcept .values (Variables.readPairs rendering.pairs)
  return Dictionary.update fromFile pairs

/-- The entry about variables that no value is supplied for. -/
def missingEntry (names : List String) : JournalEntry :=
  { level := .info, origin := originOf "main"
    message := "no value supplied for: " ++ Text.commaSeparated (Text.sorted names) }

/-- Where a document goes if nothing else is asked for: into the working folder, under the template's
name. -/
def defaultOutput (template : Path) : Path := Path.ofText (template.stem ++ ".pdf")

/-- What is said once a document is written. -/
def writtenText (output : Path) : String := "Rendered template at: " ++ output.text ++ "\n"

/-- Renders a template, writes the document, and says where. -/
def render (world : World μ) (loading : Loading) (rendering : Rendering) : Step Unit := do
  let values ← gatherValues world rendering
  let b ← loadTemplate world loading
  let missing := b.needed.filter fun name => !values.contains name
  if missing ≠ [] then Step.tell [missingEntry missing]
  let supplied ← Step.act
    (b.supply world.around.files (values.map fun (name, value) => (name, Value.json value)))
  let drawn ← Step.act supplied.apply
  let document ← Step.ofExcept .template drawn.write
  let output := rendering.output.getD (defaultOutput loading.template)
  Step.write output document
  Step.print world (writtenText output)

/-- A component type as a line: its name, its title and its other names. -/
def typeLine (t : ComponentType μ) : String :=
  t.name ++ "\t" ++ t.title ++
    (if t.aliases = [] then "" else " (aliases: " ++ Text.commaSeparated t.aliases ++ ")") ++ "\n"

/-- Prints the component types. -/
def listComponents (world : World μ) (plugins : List String) : Step Unit := do
  let registry ← loadRegistry world plugins
  registry.types.forM fun (_, t) => Step.print world (typeLine t)

/-- Does what a request asks for. -/
def Request.steps (world : World μ) : Request → Step Unit
  | .listVariables loading => CommandLine.listVariables world loading
  | .render loading rendering => CommandLine.render world loading rendering
  | .listComponents plugins => CommandLine.listComponents world plugins

/-- How a command line ends: with a code, or with a fault that is not told but handed on. Besides, what it
printed in either place, the entries it told the journal, and the files as it left them. -/
structure Outcome where
  ending : Except CommandFault Nat := .ok 0
  printed : String := ""
  complaints : String := ""
  journal : List JournalEntry := []
  files : FileTree
  deriving Inhabited

/-- The code of a command that fails. -/
def failureCode : Nat := 2

/-- How a command ends that fails: a fault that is told ends it with a complaint, any other is handed on. -/
def Outcome.fail (o : Outcome) (fault : CommandFault) : Outcome :=
  if fault.kind.isReported then
    { o with
      ending := .ok failureCode
      complaints := o.complaints ++ "error: " ++ fault.message ++ "\n" }
  else { o with ending := .error fault }

/-- Carries out a request. -/
def Request.run (world : World μ) (r : Request) : Outcome :=
  let (result, p) := (r.steps world).run.run { files := world.around.files }
  let outcome : Outcome :=
    { printed := p.printed, complaints := p.complaints, files := p.files
      journal := p.session.journal.filter (JournalEntry.isTold r.isVerbose) }
  match result with
  | .ok () => outcome
  | .error fault => outcome.fail fault

/-- How a command line ends that is not carried out. -/
def Stop.outcome (files : FileTree) : Stop → Outcome
  | .help command => { printed := command.help, files := files }
  | .misuse command cause => { ending := .ok failureCode, complaints := cause.report command, files := files }

/-- Carries out a command line. -/
def run (world : World μ) (args : List String) : Outcome :=
  match parse args with
  | .error stop => stop.outcome world.around.files
  | .ok parsed => parsed.request.run world

end PageTemplate.CommandLine
