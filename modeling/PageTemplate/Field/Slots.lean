/-
Slot maps: which properties wait for which variable. Reading a field adds to
the map, and supplying values takes away from it, one variable after the
other, in the order of the values.
-/
import PageTemplate.Dictionary

namespace PageTemplate

/-- The names of the properties that wait for each variable, in the order in which they were
read. -/
abbrev SlotMap := Dictionary (List String)

namespace SlotMap

/-- Lets one more property wait for a variable. -/
def add (slots : SlotMap) (awaited property : String) : SlotMap :=
  slots.insert awaited ((slots.get? awaited).getD [] ++ [property])

/-- Lets the properties of another map wait as well, behind those that wait already. -/
def merge (slots other : SlotMap) : SlotMap :=
  other.foldl (fun acc (awaited, names) =>
    acc.insert awaited ((acc.get? awaited).getD [] ++ names)) slots

/-- Gives each of the named properties a value, in order. -/
def assignAll {σ α : Type} {m : Type → Type} [Monad m] (assign : σ → String → α → m σ) (value : α) :
    σ → List String → m σ
  | state, [] => pure state
  | state, name :: names => do
    let state ← assign state name value
    assignAll assign value state names

/-- Supplies values: the properties that wait for a name get its value, and the name leaves the map.
A value that nothing waits for is passed over. `resolved` is told of each name that leaves. -/
def supply {σ α : Type} {m : Type → Type} [Monad m] (assign : σ → String → α → m σ)
    (resolved : String → List String → m Unit) :
    (values : Dictionary α) → σ → SlotMap → m (σ × SlotMap)
  | [], state, slots => pure (state, slots)
  | (name, value) :: values, state, slots =>
    match slots.get? name with
    | some (property :: properties) => do
      let state ← assignAll assign value state (property :: properties)
      resolved name (property :: properties)
      supply assign resolved values state (slots.erase name)
    | _ => supply assign resolved values state slots

/-- The assignments that supplying values asks for, in order. -/
def deliveries {α : Type} (slots : SlotMap) (values : Dictionary α) : List (String × α) :=
  values.flatMap fun (name, value) => ((slots.get? name).getD []).map fun property => (property, value)

/-- The map without the names of some values. -/
def without {α : Type} (slots : SlotMap) (values : Dictionary α) : SlotMap :=
  slots.filter fun (name, _) => !values.contains name

end SlotMap

end PageTemplate
