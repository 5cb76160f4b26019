/-
The registry of component types. A type is known by its name and by aliases;
case and outer blanks do not count. A type is registered with all its names or
not at all, and a name that is taken stays with its type for good.
-/
import PageTemplate.Component.Shape
import PageTemplate.Dictionary
import PageTemplate.Text.Blank
import PageTemplate.Text.Lowercase
import PageTemplate.Text.Order

namespace PageTemplate

/-- A component type: its name, its title, its other names, and the kind that its components are loaded as,
which is one of the program's own unless others are spoken of. -/
structure ComponentType (μ : Type := ShapeKind) where
  name : String
  title : String
  aliases : List String := []
  kind : μ
  deriving DecidableEq, Inhabited

/-- The types by the keys of their names, and the keys that aliases stand for, in the order of
registration. -/
structure Registry (μ : Type := ShapeKind) where
  types : Dictionary (ComponentType μ) := []
  aliases : Dictionary String := []
  deriving DecidableEq, Inhabited

/-- Why a type is not registered or not found. -/
inductive RegistryFault where
  | emptyName
  | nameTaken (key : String)
  | nameIsAlias (key owner : String)
  | emptyAlias (key : String)
  | aliasIsName (aliasKey key : String)
  | aliasTaken (aliasKey : String)
  | unknown (name : String) (valid : List String)
  deriving DecidableEq, Inhabited

/-- The wording of each fault. -/
def RegistryFault.message : RegistryFault → String
  | .emptyName => "component kind cannot be empty."
  | .nameTaken key => "component kind '" ++ key ++ "' is already registered."
  | .nameIsAlias key owner =>
    "component kind '" ++ key ++ "' conflicts with an existing alias of '" ++ owner ++ "'."
  | .emptyAlias key => "component alias cannot be empty (kind '" ++ key ++ "')."
  | .aliasIsName aliasKey key =>
    "alias '" ++ aliasKey ++ "' duplicates component kind '" ++ key ++ "'."
  | .aliasTaken aliasKey => "component alias '" ++ aliasKey ++ "' is already registered."
  | .unknown name valid =>
    "unknown component type '" ++ name ++ "'. Valid types: " ++ Text.commaSeparated valid ++ "."

variable {μ : Type}

namespace Registry

/-- What names are compared by. -/
def key (name : String) : String := Text.lower (Text.strip name)

/-- The keys of the registered types. -/
def keys (r : Registry μ) : List String := r.types.keys

/-- The key of the type that answers to a key, if one does. -/
def owner? (r : Registry μ) (k : String) : Option String :=
  if r.types.contains k then some k else r.aliases.get? k

/-- Checks the aliases of a new type, given those checked before. -/
def checkAliases (r : Registry μ) (kind : String) (seen : List String) :
    List String → Except RegistryFault Unit
  | [] => .ok ()
  | k :: rest =>
    if k = "" then .error (.emptyAlias kind)
    else if k = kind then .error (.aliasIsName k kind)
    else if (r.owner? k).isSome || seen.contains k then .error (.aliasTaken k)
    else checkAliases r kind (k :: seen) rest

/-- Checks the names of a new type. -/
def check (r : Registry μ) (kind : String) (aliasKeys : List String) : Except RegistryFault Unit :=
  if kind = "" then .error .emptyName
  else
    match r.owner? kind with
    | some owner => if owner = kind then .error (.nameTaken kind) else .error (.nameIsAlias kind owner)
    | none => r.checkAliases kind [] aliasKeys

end Registry

/-- An action on a registry: it may fail, and what it has written until then stays written. -/
abbrev RegistryAct (μ : Type) := ExceptT RegistryFault (StateM (Registry μ))

namespace RegistryAct

/-- The result of an action and the registry after it. -/
def outcome {α : Type} (act : RegistryAct μ α) (r : Registry μ) : Except RegistryFault α × Registry μ :=
  (ExceptT.run act).run r

/-- Registers a type under all its names. All of them are checked before anything is written. -/
def register (t : ComponentType μ) : RegistryAct μ Unit := do
  let kind := Registry.key t.name
  let aliasKeys := t.aliases.map Registry.key
  let r ← get
  MonadExcept.ofExcept (r.check kind aliasKeys)
  modify fun r => { r with types := r.types.insert kind t }
  modify fun r => { r with aliases := aliasKeys.foldl (fun d k => d.insert k kind) r.aliases }

/-- Registers types one after the other until one fails. -/
def registerMany : List (ComponentType μ) → RegistryAct μ Unit
  | [] => pure ()
  | t :: rest => do
    register t
    registerMany rest

end RegistryAct

namespace Registry

/-- The registry with a type registered under all its names. -/
def register (r : Registry μ) (t : ComponentType μ) : Except RegistryFault (Registry μ) :=
  match (RegistryAct.register t).outcome r with
  | (.ok (), r) => .ok r
  | (.error fault, _) => .error fault

/-- Registers types one after the other until one fails; those before it stay. -/
def registerMany (r : Registry μ) (ts : List (ComponentType μ)) : Registry μ × Except RegistryFault Unit :=
  let (result, r) := (RegistryAct.registerMany ts).outcome r
  (r, result)

/-- The key of the type that a name stands for. -/
def resolve (r : Registry μ) (name : String) : Except RegistryFault String :=
  match r.owner? (key name) with
  | some k => .ok k
  | none => .error (.unknown name (Text.sorted r.keys))

/-- The type that a name stands for. -/
def get (r : Registry μ) (name : String) : Except RegistryFault (ComponentType μ) :=
  match r.resolve name with
  | .error fault => .error fault
  | .ok k =>
    match r.types.get? k with
    | some t => .ok t
    | none => .error (.unknown name (Text.sorted r.keys))

/-- The types that are always there. -/
def builtinTypes : List ComponentType := [
  { name := "rectangle", title := "Rectangle", aliases := ["rect"], kind := .rectangle },
  { name := "circle", title := "Circle", kind := .circle },
  { name := "text", title := "Text", aliases := ["words", "writing"], kind := .text },
  { name := "datetime", title := "Date and time", aliases := ["date", "time", "timestamp"],
    kind := .datetime },
  { name := "image", title := "Image", aliases := ["photo", "picture"], kind := .image },
  { name := "barcode", title := "Barcode", aliases := ["bar", "code", "bar code"], kind := .barcode }]

/-- The registry of the types that are always there, where their kinds are among others. -/
def builtinAs (ofShape : ShapeKind → μ) : Registry μ :=
  (registerMany {} (builtinTypes.map fun t => { t with kind := ofShape t.kind })).1

/-- The registry of the types that are always there. -/
def builtin : Registry := builtinAs id

end Registry

end PageTemplate
