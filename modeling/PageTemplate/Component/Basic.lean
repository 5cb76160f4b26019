/-
Components: a shape, the properties of it that still wait for variables, and
the settings under which it was loaded.

A component is loaded from its properties, takes values for its variables any
number of times, and can be drawn when nothing waits any more.
-/
import PageTemplate.Calendar.Layout
import PageTemplate.Component.Reading

namespace PageTemplate

/-- A component of a template. -/
structure Component where
  shape : Shape
  slots : SlotMap := []
  settings : Option Settings := none
  deriving DecidableEq

namespace Component

/-- Loads a component of some shape. -/
def load [Platform] (files : FileTree) (settings : Settings) (now : Calendar.Moment) (kind : ShapeKind)
    (properties : Json) : Act Component :=
  match properties with
  | .object _ => do
    let read ← Reading.readGroups files settings properties { shape := Shape.empty kind }
      (FieldGroup.ofKind kind)
    let shape ← Act.ofExcept .field (read.finish now)
    return { shape := shape, slots := read.slots, settings := some settings }
  | _ => throw (.component .propertiesNotObject)

/-- Tells the journal that a variable has its value. -/
def tellResolved (name : String) (properties : List String) : Act Unit :=
  Act.tell [.debug "properties"
    ("resolved variable " ++ name ++ " into " ++ Text.commaSeparated properties)]

/-- Supplies values for variables. -/
def supply [Platform] (files : FileTree) (values : Dictionary Value) (c : Component) : Act Component := do
  let settings := c.settings.getD {}
  let (shape, slots) ← SlotMap.supply (fun shape name v => shape.assignNamed files settings name v)
    tellResolved values c.shape c.slots
  return { c with shape := shape, slots := slots }

end Component

namespace MomentShape

/-- The moment written by its layout; without a moment there is nothing to write. -/
def written (d : MomentShape) : String :=
  match d.moment with
  | none => ""
  | some m => m.format d.layout

end MomentShape

/-- What drawing tells the journal, and the canvas it gives. -/
abbrev Drawn := List JournalEntry × Except Fault Canvas

/-- Draws a text along a line, at a size at which it fits. -/
def TextLine.draw [Platform] (line : TextLine) (content : String) (canvas : Canvas) : Drawn :=
  let measure := fun (_ : Nat) size => measureText content ⟨line.font, size⟩ line.maxWidth
  let (tries, result) := Fit.fit content line.size line.maxWidth measure line.alignment canvas.resolution
  (Fit.entries content 1 tries,
    match result with
    | .error fault => .error (.fit fault)
    | .ok found =>
      let start : Point := ⟨line.start.x + found.offset, line.start.y⟩
      match canvas.text content start ⟨line.font, found.size⟩ line.colour line.maxWidth with
      | .ok canvas => .ok canvas
      | .error fault => .error (.canvas fault))

/-- A drawing that tells nothing. -/
def Drawn.ofExcept : Except CanvasFault Canvas → Drawn
  | .ok canvas => ([], .ok canvas)
  | .error fault => ([], .error (.canvas fault))

/-- Draws a shape. -/
def Shape.draw [Platform] (shape : Shape) (canvas : Canvas) : Drawn :=
  match shape with
  | .rectangle r => .ofExcept (canvas.rectangle r.topLeft r.width r.height r.colour)
  | .circle c => .ofExcept (canvas.circle c.centre c.radius c.colour)
  | .text t => t.line.draw t.content canvas
  | .datetime d => d.line.draw d.written canvas
  | .image i => .ofExcept (canvas.image i.topLeft i.picture i.width i.height)
  | .barcode b =>
    match b.symbology with
    | none => ([], .error (.component .noSymbology))
    | some symbology =>
      .ofExcept
        (canvas.barcode symbology b.content b.topLeft b.width b.height b.barColour b.background)

namespace Component

/-- Draws a component for which nothing waits. -/
def draw [Platform] (c : Component) (canvas : Canvas) : Drawn :=
  if c.slots.isEmpty then c.shape.draw canvas
  else ([], .error (.component (.pending c.shape.kind.word (Text.sorted c.slots.keys))))

end Component

/-- What a template asks of its components, whoever wrote them: the variables they wait for, what they are
with values for some, and how they are drawn. -/
class IsComponent (κ : Type) where
  awaited : κ → List String
  supply : FileTree → Dictionary Value → κ → Act κ
  draw : κ → Canvas → Drawn

/-- Kinds of components, the program's own among them, and how a component of each is loaded. -/
class IsKind (μ : Type) (κ : outParam Type) where
  ofShape : ShapeKind → μ
  load : FileTree → Settings → Calendar.Moment → μ → Json → Act κ

instance [Platform] : IsComponent Component where
  awaited c := c.slots.keys
  supply files values c := c.supply files values
  draw := Component.draw

instance [Platform] : IsKind ShapeKind Component where
  ofShape := id
  load := Component.load

section

variable [Platform]

@[simp]
theorem IsComponent.awaited_eq (c : Component) : IsComponent.awaited c = c.slots.keys := rfl

@[simp]
theorem IsComponent.supply_eq (files : FileTree) (values : Dictionary Value) (c : Component) :
    IsComponent.supply files values c = c.supply files values := rfl

@[simp]
theorem IsComponent.draw_eq (c : Component) (canvas : Canvas) : IsComponent.draw c canvas = c.draw canvas := rfl

@[simp]
theorem IsKind.load_eq (files : FileTree) (settings : Settings) (now : Calendar.Moment) (kind : ShapeKind)
    (properties : Json) :
    IsKind.load files settings now kind properties = Component.load files settings now kind properties := rfl

end

end PageTemplate
