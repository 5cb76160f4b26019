/-
What supplying values writes into a component: each property that waits for a
variable with a value is written, one after the other, and nothing else
(`written_of_supply`).
-/
import PageTemplate.Proofs.Component.Supplying

namespace PageTemplate

variable [Platform]

/-- The shapes that writing values into properties gives, one after the other, whatever the files and the
session are each time. -/
inductive Shape.Written (settings : Settings) : Shape → List (String × Value) → Shape → Prop
  | nil {shape : Shape} : Written settings shape [] shape
  | cons {shape next last : Shape} {files : FileTree} {s t : Session} {name : String} {value : Value}
      {writes : List (String × Value)} :
    (shape.assignNamed files settings name value).outcome s = (.ok next, t) →
      Written settings next writes last → Written settings shape ((name, value) :: writes) last

namespace Shape.Written

variable {settings : Settings} {shape next last : Shape} {writes others : List (String × Value)}

theorem append (h : Written settings shape writes next) (h' : Written settings next others last) :
    Written settings shape (writes ++ others) last := by
  induction h with
  | nil => exact h'
  | cons hassign _ ih => exact .cons hassign (ih h')

theorem of_assignAll {files : FileTree} {names : List String} {value : Value} {s t : Session}
    (h : (SlotMap.assignAll (Shape.assignNamed files settings) value shape names : Act Shape).outcome s =
      (.ok last, t)) :
    Written settings shape (names.map fun name => (name, value)) last := by
  induction names generalizing shape s with
  | nil => cases h; exact .nil
  | cons name names ih =>
    obtain ⟨next, u, hfirst, hrest⟩ := Act.outcome_bind_ok.1 h
    exact .cons hfirst (ih hrest)

theorem of_serve {files : FileTree} {entry : String × List String × Value} {s t : Session}
    (h : (Component.serve files settings shape entry).outcome s = (.ok last, t)) :
    Written settings shape (entry.2.1.map fun name => (name, entry.2.2)) last := by
  obtain ⟨written, u, hassign, h⟩ := Act.outcome_bind_ok.1 h
  obtain ⟨_, u', -, h⟩ := Act.outcome_bind_ok.1 h
  cases h
  exact of_assignAll hassign

theorem of_serveEach {files : FileTree} {served : List (String × List String × Value)} {s t : Session}
    (h : (served.foldlM (Component.serve files settings) shape).outcome s = (.ok last, t)) :
    Written settings shape (served.flatMap fun (_, names, value) => names.map fun name => (name, value))
      last := by
  induction served generalizing shape s with
  | nil => cases h; exact .nil
  | cons entry served ih =>
    rw [List.foldlM_cons] at h
    obtain ⟨next, u, hfirst, hrest⟩ := Act.outcome_bind_ok.1 h
    exact (of_serve hfirst).append (ih hrest)

end Shape.Written

namespace Component

/-- Supplying values writes what the slots hand over. -/
theorem written_of_supply {files : FileTree} {values : Dictionary Value} {c d : Component} {s t : Session}
    (hc : c.slots.Occupied) (h : (c.supply files values).outcome s = (.ok d, t)) :
    Shape.Written (c.settings.getD {}) c.shape (c.slots.handed values) d.shape := by
  rw [supply_eq files values hc] at h
  obtain ⟨shape, u, hserve, h⟩ := Act.outcome_bind_ok.1 h
  cases h
  exact .of_serveEach hserve

end Component

end PageTemplate
