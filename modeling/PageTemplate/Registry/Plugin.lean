/-
Plugins: modules, found by name or through entry points, that register further
component types.

A plugin may register some types and then fail. A failure is reported as a
warning and the next plugin is loaded; what the failing one had registered
stays registered.
-/
import PageTemplate.Journal
import PageTemplate.Json.Basic
import PageTemplate.Registry.Basic
import PageTemplate.Registry.Target

namespace PageTemplate

/-- An entry point: a name, the module it leads to, perhaps with a member of it, and its group. -/
structure EntryPoint where
  name : String
  target : String
  group : String
  deriving DecidableEq, Inhabited

/-- Where a plugin is loaded from. -/
inductive PluginSource where
  | module (name : String)
  | entryPoint (point : EntryPoint)
  deriving DecidableEq, Inhabited

/-- One step of a plugin's registration: it registers a type, or it fails with a text. -/
inductive PluginStep (μ : Type) where
  | register (type : ComponentType μ)
  | fail (text : String)
  deriving Inhabited

/-- What a module holds under a name: a procedure that registers types, or a plain value. -/
inductive ModuleMember (μ : Type) where
  | procedure (steps : List (PluginStep μ))
  | value (v : Json)
  deriving Inhabited

/-- A module that can be loaded. -/
structure PluginModule (μ : Type) where
  name : String
  members : Dictionary (ModuleMember μ) := []
  deriving Inhabited

/-- What a path through a module leads to: a module, something that can be called, with the steps that a
call with the registry takes, or anything else. -/
inductive Reached (μ : Type) where
  | module (m : PluginModule μ)
  | callable (steps : List (PluginStep μ))
  | thing

/-- Why a plugin fails. -/
inductive PluginFault where
  | emptyName
  | relativeName (name : String)
  | noModule (name : String)
  | notPackage (name parent : String)
  | unreached (text : String)
  | malformedTarget
  | notCallable
  | wrongVersion (module shown : String)
  | versionUnshown (fault : Json.ShowFault)
  | noProcedure (module : String)
  | registry (fault : RegistryFault)
  | failed (text : String)
  deriving DecidableEq, Inhabited

/-- The version of the agreement between the registry and its plugins. -/
def pluginVersion : Int := 1

/-- The wording of each fault. -/
def PluginFault.message : PluginFault → String
  | .emptyName => "Empty module name"
  | .relativeName name =>
    "the 'package' argument is required to perform a relative import for " ++ Text.quoted name
  | .noModule name => "No module named " ++ Text.quoted name
  | .notPackage name parent =>
    "No module named " ++ Text.quoted name ++ "; " ++ Text.quoted parent ++ " is not a package"
  | .unreached text => text
  | .malformedTarget => "'NoneType' object has no attribute 'group'"
  | .notCallable => "plugin entry point must resolve to a module or callable."
  | .wrongVersion module shown =>
    "module '" ++ module ++ "' targets plugin API version " ++ shown ++ ", expected " ++
      toString pluginVersion ++ "."
  | .versionUnshown fault => fault.message
  | .noProcedure module =>
    "module '" ++ module ++ "' does not define register_components(registry)."
  | .registry fault => fault.message
  | .failed text => text

/-- The modules that can be loaded, the entry points that are installed, and what a path of names through a
module leads to, or why it leads nowhere. -/
structure PluginWorld (μ : Type) where
  modules : List (PluginModule μ) := []
  entryPoints : List EntryPoint := []
  reach : PluginModule μ → List String → Except String (Reached μ)

variable {μ : Type}

namespace PluginSource

/-- How a source is called in warnings. -/
def label : PluginSource → String
  | .module name => name
  | .entryPoint point => point.name ++ " (" ++ point.target ++ ")"

end PluginSource

namespace PluginWorld

/-- The module of a name. -/
def module? (w : PluginWorld μ) (name : String) : Option (PluginModule μ) :=
  w.modules.find? fun m => m.name == name

/-- What stands before the last point of a dotted name, empty if it has none. -/
def parentName (cs : List Char) : List Char :=
  ((cs.reverse.dropWhile (· != '.')).drop 1).reverse

theorem parentName_length_lt {cs : List Char} (h : cs ≠ []) :
    (parentName cs).length < cs.length := by
  have pos : 0 < cs.length := List.length_pos_iff.2 h
  have le : (cs.reverse.dropWhile (· != '.')).length ≤ cs.reverse.length :=
    List.Sublist.length_le (List.dropWhile_sublist _)
  simp only [parentName, List.length_reverse, List.length_drop] at *
  omega

/-- The fault of a name that no module has: the nearest missing name on the way to it is told, or
that a module on the way holds no others. Only a module with a path for them could hold others. -/
def missingModule (w : PluginWorld μ) (name : List Char) : PluginFault :=
  let parent := parentName name
  if _h : parent = [] then .noModule (String.ofList name)
  else
    match w.module? (String.ofList parent) with
    | some m =>
      if m.members.contains "__path__" then .noModule (String.ofList name)
      else .notPackage (String.ofList name) (String.ofList parent)
    | none => w.missingModule parent
termination_by name.length
decreasing_by
  apply parentName_length_lt
  intro hn
  apply _h
  show parentName name = []
  rw [hn]; rfl

/-- Loads a module by name. -/
def loadModule (w : PluginWorld μ) (name : String) : Except PluginFault (PluginModule μ) :=
  match w.module? name with
  | some m => .ok m
  | none =>
    match name.toList with
    | [] => .error .emptyName
    | '.' :: _ => .error (.relativeName name)
    | cs => .error (w.missingModule cs)

/-- Whether a module's version is the expected one, which numbers and truth values of that worth
are too. -/
def isExpectedVersion : Json → Bool
  | .int i => i == pluginVersion
  | .float x => x.eq (Binary64.ofRatio false 1 1)
  | .bool b => b
  | _ => false

/-- The steps of a module as a whole: it must not ask for another version, and it must have the
procedure that registers its types. -/
def moduleSteps [Platform] (m : PluginModule μ) : Except PluginFault (List (PluginStep μ)) :=
  let version :=
    match m.members.get? "PLUGIN_API_VERSION" with
    | none => Json.int pluginVersion
    | some (.value v) => v
    | some (.procedure _) => Json.null
  if !isExpectedVersion version then
    match version.text with
    | .ok text => .error (.wrongVersion m.name text)
    | .error fault => .error (.versionUnshown fault)
  else
    match m.members.get? "register_components" with
    | some (.procedure steps) => .ok steps
    | _ => .error (.noProcedure m.name)

/-- What a path leads to from a module; an empty one leads to the module itself. -/
def follow (w : PluginWorld μ) (m : PluginModule μ) (path : List String) : Except PluginFault (Reached μ) :=
  if path = [] then .ok (.module m) else (w.reach m path).mapError .unreached

/-- The steps of what a path leads to: of a module as a whole, or of something that can be called. -/
def reachedSteps [Platform] : Reached μ → Except PluginFault (List (PluginStep μ))
  | .module m => moduleSteps m
  | .callable steps => .ok steps
  | .thing => .error .notCallable

/-- The steps of a source. -/
def steps [Platform] (w : PluginWorld μ) (source : PluginSource) :
    Except PluginFault (List (PluginStep μ)) :=
  match source with
  | .module name => do moduleSteps (← w.loadModule name)
  | .entryPoint point =>
    match Target.ofText? point.target with
    | none => .error .malformedTarget
    | some target => do
      let m ← w.loadModule target.module
      reachedSteps (← w.follow m target.path)

end PluginWorld

namespace Registry

/-- Takes the steps of a registration until one fails. -/
def runSteps (r : Registry μ) : List (PluginStep μ) → Registry μ × Except PluginFault Unit
  | [] => (r, .ok ())
  | .fail text :: _ => (r, .error (.failed text))
  | .register type :: rest =>
    match (RegistryAct.register type).outcome r with
    | (.ok (), r) => r.runSteps rest
    | (.error fault, r) => (r, .error (.registry fault))

/-- Loads one plugin. -/
def loadPlugin [Platform] (r : Registry μ) (w : PluginWorld μ) (source : PluginSource) :
    Registry μ × Except PluginFault Unit :=
  match w.steps source with
  | .error fault => (r, .error fault)
  | .ok steps => r.runSteps steps

/-- What loading plugins leaves: the registry, the warnings, and what it told the journal. -/
structure PluginReport (μ : Type) where
  registry : Registry μ
  warnings : List String := []
  journal : List JournalEntry := []

/-- The warning for a plugin that failed. -/
def warning (source : PluginSource) (fault : PluginFault) : String :=
  "warning: failed to load component plugin '" ++ source.label ++ "': " ++ fault.message

/-- The journal's entry for a plugin. -/
def pluginEntry (before after : Registry μ) (source : PluginSource) :
    Except PluginFault Unit → JournalEntry
  | .error _ =>
    .debug "components.plugins" ("component plugin " ++ source.label ++ " failed to load")
  | .ok () =>
    let added := Text.sorted (after.keys.filter fun k => !before.keys.contains k)
    .debug "components.plugins" ("component plugin " ++ source.label ++ " added kinds: " ++
      (if added.isEmpty then "(none)" else Text.commaSeparated added))

/-- Loads plugins one after the other. -/
def loadSources [Platform] (r : Registry μ) (w : PluginWorld μ) : List PluginSource → PluginReport μ
  | [] => { registry := r }
  | source :: rest =>
    let (after, result) := r.loadPlugin w source
    let report := after.loadSources w rest
    { registry := report.registry
      warnings :=
        (match result with
          | .ok () => []
          | .error fault => [warning source fault]) ++ report.warnings
      journal := pluginEntry r after source result :: report.journal }

/-- The group of the entry points that lead to plugins. -/
def pluginGroup : String := originOf "components"

/-- The sources of plugins: the named modules, and then the entry points of a group. -/
def sources (w : PluginWorld μ) (moduleNames : List String) (group : String) : List PluginSource :=
  moduleNames.map .module ++ (w.entryPoints.filter fun p => p.group == group).map .entryPoint

/-- Loads the named modules and the entry points of a group. -/
def loadPlugins [Platform] (r : Registry μ) (w : PluginWorld μ) (moduleNames : List String) (group : String) :
    PluginReport μ :=
  r.loadSources w (sources w moduleNames group)

end Registry

end PageTemplate
