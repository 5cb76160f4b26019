/-
The commands: which options each one has, and which operand it asks for.

A command either asks for a file or leads to further commands, and these lead
down a tree of bounded depth.
-/
import PageTemplate.Settings

namespace PageTemplate.CommandLine

/-- What an option is for. -/
inductive OptionName where
  | help
  | verbose
  | plugin
  | profile
  | settingsFile
  | pair
  | pairFile
  | output
  deriving DecidableEq, Inhabited

/-- What an option takes: nothing, any text, or one of some texts. -/
inductive Intake where
  | nothing
  | text
  | choice (allowed : List String)
  deriving DecidableEq, Inhabited

/-- How an option is written, what it takes, and what is said of it. -/
structure OptionForm where
  name : OptionName
  short : Option Char := none
  long : String
  intake : Intake
  summary : String
  deriving DecidableEq, Inhabited

namespace OptionForm

/-- The long way to write the option. -/
def longFlag (form : OptionForm) : String := "--" ++ form.long

/-- The ways to write the option, the short one first. -/
def flags (form : OptionForm) : List String :=
  form.short.toList.map (fun letter => String.ofList ['-', letter]) ++ [form.longFlag]

/-- How messages call the option. -/
def label (form : OptionForm) : String := String.intercalate "/" form.flags

end OptionForm

/-- The commands; the top one is the program as a whole. -/
inductive Command where
  | top
  | listVariables
  | render
  | components
  | listComponents
  deriving DecidableEq, Inhabited

/-- What a command asks for besides its options. -/
inductive Operand where
  | file (name summary : String)
  | command (name : String) (commands : List Command)
  deriving DecidableEq, Inhabited

/-- How messages call the operand. -/
def Operand.name : Operand → String
  | .file name _ => name
  | .command name _ => name

/-- The option that asks for help. -/
def helpForm : OptionForm :=
  { name := .help, short := some 'h', long := "help", intake := .nothing
    summary := "show this help message and exit" }

/-- The option that names a module with further component types. -/
def pluginForm : OptionForm :=
  { name := .plugin, long := "component-plugin", intake := .text
    summary := "Additional component plugin module path (repeatable)." }

/-- The options of every command that loads a template. -/
def loadingForms : List OptionForm := [
  pluginForm,
  { name := .profile, long := "settings-profile", intake := .choice Settings.profileNames
    summary := "Built-in settings profile name." },
  { name := .settingsFile, long := "settings-file", intake := .text
    summary := "JSON file with settings overrides." },
  { name := .verbose, short := some 'v', long := "verbose", intake := .nothing
    summary := "Log debug details." }]

/-- The options that say what is rendered and to where. -/
def renderingForms : List OptionForm := [
  { name := .pair, long := "var", intake := .text
    summary := "Variable value in key=value form; JSON literals are decoded (repeatable)." },
  { name := .pairFile, long := "vars-file", intake := .text
    summary := "JSON object file with variable values. --var entries override it." },
  { name := .output, long := "output", intake := .text
    summary := "Output PDF path. Default: <template>.pdf" }]

namespace Command

/-- The words that call a command. -/
def words : Command → List String
  | .top => ["stencil"]
  | .listVariables => ["stencil", "variables"]
  | .render => ["stencil", "render"]
  | .components => ["stencil", "components"]
  | .listComponents => ["stencil", "components", "list"]

/-- The word that calls a command among its siblings. -/
def word (c : Command) : String := c.words.getLastD ""

/-- The call of a command as messages give it. -/
def title (c : Command) : String := String.intercalate " " c.words

/-- What is said of a command. -/
def summary : Command → String
  | .top => "Render JSON templates to PDF."
  | .listVariables => "List the variables a template needs."
  | .render => "Render a template to PDF."
  | .components => "Inspect component kinds."
  | .listComponents => "List component kinds."

/-- The options of a command, in order. -/
def forms : Command → List OptionForm
  | .top | .components => [helpForm]
  | .listVariables => helpForm :: loadingForms
  | .render => helpForm :: (renderingForms ++ loadingForms)
  | .listComponents => [helpForm, pluginForm]

/-- What a command asks for. -/
def operand : Command → Option Operand
  | .top => some (.command "command" [.listVariables, .render, .components])
  | .components => some (.command "components_command" [.listComponents])
  | .listVariables | .render => some (.file "template" "Template JSON file.")
  | .listComponents => none

/-- The commands that a command leads to. -/
def subcommands (c : Command) : List Command :=
  match c.operand with
  | some (.command _ commands) => commands
  | _ => []

/-- How many commands can follow one another from here on. -/
def depth : Command → Nat
  | .top => 2
  | .components => 1
  | .listVariables | .render | .listComponents => 0

/-- The command that a word calls here. -/
def subcommand? (c : Command) (word : String) : Option Command :=
  c.subcommands.find? fun sub => sub.word == word

theorem depth_lt_of_mem {c sub : Command} (h : sub ∈ c.subcommands) : sub.depth < c.depth := by
  cases c <;> simp [subcommands, operand] at h
  case top => rcases h with rfl | rfl | rfl <;> simp [depth]
  case components => subst h; simp [depth]

theorem depth_lt_of_subcommand? {c sub : Command} {word : String}
    (h : c.subcommand? word = some sub) : sub.depth < c.depth :=
  depth_lt_of_mem (List.mem_of_find?_eq_some h)

end Command

end PageTemplate.CommandLine
