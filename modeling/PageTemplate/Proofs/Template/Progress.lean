/-
How far supplying values to a builder gets (`supply_progress`). Its components
are updated from the first on. Either all of them are, or there is a first one
that refuses the values, and then the fault is its fault and the builder that
was reached has those before it updated and all others as they were. No
component is ever updated without its condition, nor in part.
-/
import PageTemplate.Platform.Plain
import PageTemplate.Proofs.Template.Supplying

namespace PageTemplate

namespace GatedComponent

variable [Platform]

/-- One component with its condition is updated: the component takes all values, the condition is told
each of them in turn, and of the session this leaves only the journal differs from what the component
left. -/
structure Updates (files : FileTree) (values : Dictionary Value) (g : GatedComponent) (s : Session)
    (g' : GatedComponent) (t : Session) : Prop where
  component : ∃ journal, (g.component.supply files values).outcome s =
    (.ok g'.component, { t with journal := journal })
  condition : g.condition.setAll values = .ok g'.condition

/-- One component with its condition refuses values: the component does, or the condition does when the
component has taken them. -/
inductive Refuses (files : FileTree) (values : Dictionary Value) (g : GatedComponent) (s : Session) :
    Fault → Session → Prop
  | component {fault : Fault} {t : Session} :
    (g.component.supply files values).outcome s = (.error fault, t) → Refuses files values g s fault t
  | condition {component : Component} {fault : ConditionFault} {t : Session} {journal : List JournalEntry} :
    (g.component.supply files values).outcome s = (.ok component, { t with journal := journal }) →
      g.condition.setAll values = .error fault → Refuses files values g s (.condition fault) t

/-- Supplying values updates a component with its condition, or they refuse the values. -/
theorem supply_outcome (files : FileTree) (values : Dictionary Value) (g : GatedComponent) (s : Session) :
    (∃ g' t, g.Updates files values s g' t ∧ (g.supply files values).outcome s = (.ok g', t)) ∨
      ∃ fault t, g.Refuses files values s fault t ∧
        (g.supply files values).outcome s = (.error fault, t) := by
  rw [supply_eq, Act.outcome_bind]
  rcases hcomponent : (g.component.supply files values).outcome s with ⟨fault | component, u⟩
  · exact .inr ⟨fault, u, .component hcomponent, rfl⟩
  · obtain ⟨journal, hcondition⟩ := outcome_supplyConditions values g.condition u
    simp only [Act.outcome_bind, hcondition]
    cases hset : g.condition.setAll values with
    | error fault =>
      exact .inr ⟨.condition fault, { u with journal := journal }, .condition hcomponent hset, rfl⟩
    | ok condition =>
      exact .inl ⟨⟨condition, component⟩, { u with journal := journal }, ⟨⟨u.journal, hcomponent⟩, hset⟩, rfl⟩

end GatedComponent

namespace Builder

section

variable [Platform]

/-- Components that are updated one after the other, each in the session that the one before it
leaves. -/
inductive UpdatesInTurn (files : FileTree) (values : Dictionary Value) :
    List GatedComponent → Session → List GatedComponent → Session → Prop
  | nil (s : Session) : UpdatesInTurn files values [] s [] s
  | cons {g g' : GatedComponent} {gs gs' : List GatedComponent} {s t u : Session} :
    g.Updates files values s g' t → UpdatesInTurn files values gs t gs' u →
      UpdatesInTurn files values (g :: gs) s (g' :: gs') u

/-- Supplying values to components updates all of them, or those before the first that refuses. -/
theorem supplyEach_progress (files : FileTree) (values : Dictionary Value) (gs : List GatedComponent)
    (s : Session) :
    (∃ updated t, UpdatesInTurn files values gs s updated t ∧
      (supplyEach files values gs).run s = ((updated, none), t)) ∨
      ∃ before g after updated u fault t, gs = before ++ g :: after ∧
        UpdatesInTurn files values before s updated u ∧ g.Refuses files values u fault t ∧
        (supplyEach files values gs).run s = ((updated ++ g :: after, some fault), t) := by
  induction gs generalizing s with
  | nil => exact .inl ⟨[], s, .nil s, rfl⟩
  | cons g gs ih =>
    rw [run_supplyEach_cons]
    rcases g.supply_outcome files values s with ⟨g', t, hupdate, hrun⟩ | ⟨fault, t, hrefuse, hrun⟩
    · rw [hrun]
      rcases ih t with ⟨updated, u, hall, hrest⟩ |
        ⟨before, first, after, updated, u, fault, v, rfl, hbefore, hrefuse, hrest⟩
      · exact .inl ⟨g' :: updated, u, .cons hupdate hall, by simp only [hrest]⟩
      · exact .inr ⟨g :: before, first, after, g' :: updated, u, fault, v, rfl, .cons hupdate hbefore,
          hrefuse, by simp only [hrest, List.cons_append]⟩
    · exact .inr ⟨[], g, gs, [], s, fault, t, rfl, .nil s, hrefuse, by rw [hrun]; rfl⟩

/-- Supplying values to a builder gives the builder with every component and its condition updated, or
it fails with the fault of the first component or condition that refuses. The builder that goes with a
template's fault then has the components before that one updated, that one and those behind it as they
were, and all else as it was. -/
theorem supply_progress (files : FileTree) (values : Dictionary Value) (b : Builder) (s : Session) :
    (∃ updated t, UpdatesInTurn files values b.components s updated t ∧
      outcome (b.supply files values) s = (.ok { b with components := updated }, t)) ∨
    ∃ before g after updated u fault t, b.components = before ++ g :: after ∧
      UpdatesInTurn files values before s updated u ∧ g.Refuses files values u fault t ∧
      outcome (b.supply files values) s =
        (.error { fault := fault, reached :=
          if fault.kind.isTemplate then some { b with components := updated ++ g :: after } else none }, t) := by
  rw [supply, outcome_lift_bind]
  rcases supplyEach_progress files values b.components s with ⟨updated, t, hall, hrun⟩ |
    ⟨before, g, after, updated, u, fault, t, hsplit, hbefore, hrefuse, hrun⟩
  · exact .inl ⟨updated, t, hall, by rw [hrun]; rfl⟩
  · exact .inr ⟨before, g, after, updated, u, fault, t, hsplit, hbefore, hrefuse, by rw [hrun]; rfl⟩

end

/-- A circle whose radius waits for a variable, under some condition. -/
def waitingCircle (condition : Condition) : GatedComponent :=
  { condition := condition, component := { shape := .circle {}, slots := [("r", ["radius"])] } }

/-- Two circles of one radius. The condition of the second compares texts only. -/
def circles : Builder :=
  { registry := Registry.builtin, settings := {}, components := [waitingCircle .default,
      waitingCircle (.node { name := "r", operator := "equals", literal := "3" } [])] }

-- The second circle would take the integer and its condition does not, so it is left as it was.
open scoped Plain in
example : (match (outcome (circles.supply {} [("r", .json (.int 3))]) {}).1 with
    | .ok _ => none
    | .error failure => failure.reached.map fun b => b.components.map (·.component)) =
    some [{ shape := .circle { radius := 3 } }, { shape := .circle {}, slots := [("r", ["radius"])] }] := by
  decide +kernel

end Builder

end PageTemplate
