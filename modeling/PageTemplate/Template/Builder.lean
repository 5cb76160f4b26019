/-
A template on its way to a page: its components in order, each with the
condition that decides whether it is drawn, and the page they are drawn on.

Loading a document, supplying values and drawing each give a new builder and
leave the old one as it is. Supplying and drawing stop at the first failure,
and what was reached before it goes with the failure.
-/
import PageTemplate.Component.Basic
import PageTemplate.Condition.Reading
import PageTemplate.Condition.Telling
import PageTemplate.Registry.Basic
import PageTemplate.Template.Background

namespace PageTemplate

/-- A component and the condition under which it is drawn. -/
structure GatedComponent (κ : Type := Component) where
  condition : Condition
  component : κ

/-- A template with its page. `needed` are the names that its components and conditions wait for,
in the order in which they first came. -/
structure Builder (μ : Type := ShapeKind) (κ : Type := Component) where
  registry : Registry μ
  settings : Settings
  canvas : Option Canvas := none
  components : List (GatedComponent κ) := []
  needed : List String := []

/-- A failure, and the builder that was reached before it, if there is one to tell. -/
structure Failure (μ : Type := ShapeKind) (κ : Type := Component) where
  fault : Fault
  reached : Option (Builder μ κ) := none

/-- An action on builders. -/
abbrev BuilderAct (μ κ : Type) := ExceptT (Failure μ κ) (StateM Session)

/-- What is shown for a variable that has no value yet. -/
def placeholder : String := "Please replace me with real data"

/-- What surrounds a run: the files there are, and the moment it takes place. -/
structure Surroundings where
  files : FileTree
  now : Calendar.Moment

variable {μ κ : Type}

namespace GatedComponent

/-- Whether the condition passes; while it cannot be decided it does not. -/
def isEnabled (g : GatedComponent κ) : Bool :=
  match g.condition.validate with
  | .ok truth => truth
  | .error _ => false

/-- Supplies one variable's value to a condition, and tells what its comparisons gave. -/
def supplyCondition [Platform] (name : String) (value : Value) (c : Condition) : Act Condition := do
  Act.tell (c.entries name value).1
  Act.ofExcept .condition (c.set name value)

/-- Supplies values to the component and then, one after the other, to the condition. -/
def supply [Platform] [IsComponent κ] (files : FileTree) (values : Dictionary Value) (g : GatedComponent κ) :
    Act (GatedComponent κ) := do
  let component ← IsComponent.supply files values g.component
  let condition ← values.foldlM (fun c (name, value) => supplyCondition name value c) g.condition
  return { condition := condition, component := component }

/-- Whether the component is drawn: a condition without a variable at its root is not asked. -/
def isDrawn (g : GatedComponent κ) : Except ConditionFault Bool :=
  if g.condition.own.isWildcard then .ok true else g.condition.validate

end GatedComponent

namespace Builder

section

variable [Platform] [IsComponent κ] [IsKind μ κ]

/-- Notes a variable, once. -/
def noteVariable (noted : List String) (name : String) : List String :=
  if noted.contains name then noted else noted ++ [name]

/-- The component type of an entry. -/
def entryType (registry : Registry μ) (place : Nat) (fields : Dictionary Json) :
    Except TemplateFault (ComponentType μ) :=
  match (fields.get? "type").getD (.string "") with
  | .string name =>
    match registry.get name with
    | .ok type => .ok type
    | .error fault => .error (.unknownType name fault.message)
  | _ => .error (.typeNotText place)

/-- The properties of an entry; blank ones are none. -/
def entryProperties (fields : Dictionary Json) : Json :=
  match fields.get? "properties" with
  | none => .object []
  | some value => if value.isBlank then .object [] else value

/-- Loads one entry of a document. -/
def loadEntry (around : Surroundings) (registry : Registry μ) (settings : Settings) (place : Nat)
    (entry : Json) : Act (GatedComponent κ) :=
  match entry with
  | .object fields => do
    let type ← Act.ofExcept .template (entryType registry place fields)
    let condition ← Act.ofExcept .condition
      (Condition.ofJson ((Dictionary.get? fields "conditional").getD .null))
    let component ← IsKind.load around.files settings around.now type.kind (entryProperties fields)
    Act.tell [.debug "builder" ("loaded component " ++ toString place ++ " as " ++ type.name)]
    return { condition := condition, component := component }
  | _ => throw (.template (.componentNotObject place))

/-- Loads the entries of a document from a place on. -/
def loadEntries (around : Surroundings) (registry : Registry μ) (settings : Settings) :
    (place : Nat) → List Json → Act (List (GatedComponent κ))
  | _, [] => pure []
  | place, entry :: rest => do
    let g ← loadEntry around registry settings place entry
    let others ← loadEntries around registry settings (place + 1) rest
    return g :: others

/-- The variables that a component and its condition wait for. -/
def variablesOf (g : GatedComponent κ) : List String := IsComponent.awaited g.component ++ g.condition.names

/-- The variables of several components, each once. -/
def allVariables (components : List (GatedComponent κ)) : List String :=
  (components.flatMap variablesOf).foldl noteVariable []

/-- The entries of a document; blank ones are none. -/
def documentEntries (fields : Dictionary Json) : Except TemplateFault (List Json) :=
  match fields.get? "components" with
  | none => .ok []
  | some value =>
    if value.isBlank then .ok []
    else
      match value with
      | .array entries => .ok entries
      | _ => .error .componentsNotArray

/-- Loads a document: first its base image, then its components. -/
def loadDocument (around : Surroundings) (b : Builder μ κ) (document : Json) : Act (Builder μ κ) :=
  match document with
  | .object fields => do
    let (canvas, entries) ← Act.ofExcept .background
      (Background.apply around.files b.settings b.canvas
        ((Dictionary.get? fields "baseImage").getD .null))
    Act.tell entries
    let entries ← Act.ofExcept .template (documentEntries fields)
    let components ← loadEntries around b.registry b.settings 0 entries
    let needed := allVariables components
    Act.tell [.debug "builder" ("loaded " ++ toString components.length ++
      " component(s) needing " ++ toString needed.length ++ " variable(s)")]
    return { b with canvas := canvas, components := components, needed := needed }
  | _ => throw (.template .notObject)

/-- A decoded document, or the fault of one that cannot be decoded. -/
def ofDecoded : Except Json.DocumentError Json → Act Json := Act.ofExcept fun e => .template (.document e)

/-- Loads a document that is a text. -/
def loadText (around : Surroundings) (b : Builder μ κ) (text : String) : Act (Builder μ κ) := do
  b.loadDocument around (← ofDecoded (Json.ofText text))

/-- Loads a document that is bytes. -/
def loadBytes (around : Surroundings) (b : Builder μ κ) (bytes : List UInt8) : Act (Builder μ κ) := do
  b.loadDocument around (← ofDecoded (Json.ofBytes bytes))

/-- Loads a document from the file at a path. -/
def loadFile (around : Surroundings) (b : Builder μ κ) (path : String) : Act (Builder μ κ) :=
  let opened := Path.ofText path
  match around.files.read opened with
  | .error fault => throw (.template (.unreadable path opened.text fault))
  | .ok bytes => b.loadBytes around bytes

/-- The failure of a step: the builder that was reached goes with a template's fault only. -/
def failure (fault : Fault) (reached : Builder μ κ) : Failure μ κ :=
  { fault := fault, reached := if fault.kind.isTemplate then some reached else none }

/-- Supplies values to components until one fails: all of them as they are then, and the fault. -/
def supplyEach (files : FileTree) (values : Dictionary Value) :
    List (GatedComponent κ) → StateM Session (List (GatedComponent κ) × Option Fault)
  | [] => pure ([], none)
  | g :: rest => do
    match ← (g.supply files values).run with
    | .error fault => return (g :: rest, some fault)
    | .ok supplied => do
      let (others, fault) ← supplyEach files values rest
      return (supplied :: others, fault)

/-- Supplies values for variables. -/
def supply (files : FileTree) (values : Dictionary Value) (b : Builder μ κ) : BuilderAct μ κ (Builder μ κ) := do
  let (components, fault) ← (supplyEach files values b.components : StateM Session _)
  let reached := { b with components := components }
  match fault with
  | none => return reached
  | some fault => throw (failure fault reached)

/-- Draws components from a place on until one fails: the canvas then, and the fault. -/
def drawEach : (place : Nat) → List (GatedComponent κ) → Canvas →
    List JournalEntry × Canvas × Option Fault
  | _, [], canvas => ([], canvas, none)
  | place, g :: rest, canvas =>
    match g.isDrawn with
    | .error fault => ([], canvas, some (.condition fault))
    | .ok false =>
      let (entries, result) := drawEach (place + 1) rest canvas
      (.debug "builder" ("skipping component " ++ toString place ++ ": condition on " ++
        g.condition.own.name ++ " is false") :: entries, result)
    | .ok true =>
      match IsComponent.draw g.component canvas with
      | (entries, .error fault) => (entries, canvas, some fault)
      | (entries, .ok canvas) =>
        let (others, result) := drawEach (place + 1) rest canvas
        (entries ++ others, result)

/-- Draws every component whose condition passes, in order. -/
def apply (b : Builder μ κ) : BuilderAct μ κ (Builder μ κ) :=
  match b.canvas with
  | none => throw { fault := .canvas .nothingToDrawOn }
  | some canvas => do
    let (entries, canvas, fault) := drawEach 0 b.components canvas
    modify fun s => { s with journal := s.journal ++ entries }
    let reached := { b with canvas := some canvas }
    match fault with
    | none => return reached
    | some fault => throw (failure fault reached)

/-- The components whose condition passes. -/
def enabledComponents (b : Builder μ κ) : List κ :=
  (b.components.filter GatedComponent.isEnabled).map (·.component)

/-- The finished page. -/
def encode (b : Builder μ κ) : Except Fault Page :=
  match b.canvas with
  | none => .error (.canvas .nothingToEncode)
  | some canvas => .ok canvas.encode

/-- The document of the finished page. -/
def write (b : Builder μ κ) : Except Fault (List UInt8) := do
  let page ← b.encode
  (Platform.writeDocument page).mapError .foreign

/-- A builder without a template, on a canvas that a colour may fill first. -/
def start (registry : Registry μ) (settings : Settings) (canvas : Option Canvas)
    (colour : Option Colour) : Except Fault (Builder μ κ) :=
  match colour, canvas with
  | none, _ => .ok { registry := registry, settings := settings, canvas := canvas }
  | some _, none => .error (.canvas .nothingToFill)
  | some colour, some canvas =>
    match canvas.rectangle {} canvas.width canvas.height colour with
    | .ok canvas => .ok { registry := registry, settings := settings, canvas := some canvas }
    | .error fault => .error (.canvas fault)

/-- An action without a builder to tell of. -/
def ofAct {α : Type} (act : Act α) : BuilderAct μ κ α :=
  ExceptT.mk do
    match ← act.run with
    | .ok value => return .ok value
    | .error fault => return .error { fault := fault }

/-- Loads a template file, supplies values, draws, and finishes the page. -/
def render (around : Surroundings) (registry : Registry μ) (settings : Settings) (path : String)
    (values : Dictionary Value) : BuilderAct μ κ Page := do
  let empty : Builder μ κ := { registry := registry, settings := settings }
  let loaded ← ofAct (empty.loadFile around path)
  let supplied ← loaded.supply around.files values
  let drawn ← supplied.apply
  match drawn.encode with
  | .ok page => return page
  | .error fault => throw { fault := fault }

end

end Builder

end PageTemplate
