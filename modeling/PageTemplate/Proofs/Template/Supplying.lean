/-
Supplying values to a builder: it goes through when it does for every component
and every condition, and then nothing but the components has changed
(`Builder.supply_eq`). A condition takes the values one after the other
(`GatedComponent.outcome_supplyConditions`).
-/
import PageTemplate.Proofs.Condition.Values
import PageTemplate.Proofs.Session.Steady
import PageTemplate.Proofs.Template.Loading

namespace PageTemplate

namespace GatedComponent

variable [Platform] {files : FileTree} {values : Dictionary Value} {s t : Session}

theorem outcome_supplyCondition (name : String) (value : Value) (c : Condition) (s : Session) :
    (supplyCondition name value c).outcome s =
      ((c.set name value).mapError .condition,
        { s with journal := s.journal ++ (c.entries name value).1 }) := by
  rw [supplyCondition, Act.outcome_bind, Act.outcome_tell]
  cases c.set name value <;> rfl

/-- Supplies values to a condition, one after the other. -/
def supplyConditions (values : Dictionary Value) (c : Condition) : Act Condition :=
  values.foldlM (fun c (name, value) => supplyCondition name value c) c

theorem supply_eq (files : FileTree) (values : Dictionary Value) (g : GatedComponent) :
    g.supply files values = do
      let component ← g.component.supply files values
      let condition ← supplyConditions values g.condition
      return { condition := condition, component := component } := rfl

/-- Supplying values to a condition is telling it the values. The journal alone learns of it. -/
theorem outcome_supplyConditions (values : Dictionary Value) (c : Condition) (s : Session) :
    ∃ journal, (supplyConditions values c).outcome s =
      ((c.setAll values).mapError .condition, { s with journal := journal }) := by
  induction values generalizing c s with
  | nil => exact ⟨s.journal, rfl⟩
  | cons entry values ih =>
    obtain ⟨name, value⟩ := entry
    rw [supplyConditions, List.foldlM_cons, Act.outcome_bind, Condition.setAll_cons]
    simp only [outcome_supplyCondition]
    cases c.set name value with
    | error fault => exact ⟨_, rfl⟩
    | ok told => exact ih told _

theorem result_supplyConditions (values : Dictionary Value) (c : Condition) (s : Session) :
    (supplyConditions values c).result s = (c.setAll values).toOption := by
  obtain ⟨journal, houtcome⟩ := outcome_supplyConditions values c s
  rw [Act.result, houtcome]
  cases c.setAll values <;> rfl

/-- A component takes values as it does without its condition, and the condition as it does without
the component. -/
theorem result_supply {g g' : GatedComponent} {s : Session} :
    (g.supply files values).result s = some g' ↔
      (g.component.supply files values).result s = some g'.component ∧
        (g.condition.setAll values).toOption = some g'.condition := by
  have hcondition : ∀ (component : Component) (t : Session), (supplyConditions values g.condition >>=
      fun condition => pure ({ condition := condition, component := component } : GatedComponent)).result t =
        (g.condition.setAll values).toOption.map fun condition => ⟨condition, component⟩ := by
    intro component t
    rw [Act.result_map, result_supplyConditions]
  rw [supply_eq, Act.result_bind_of_eq hcondition]
  simp only [Option.bind_eq_some_iff, Option.map_eq_some_iff]
  constructor
  · rintro ⟨component, hcomponent, condition, hcondition, rfl⟩; exact ⟨hcomponent, hcondition⟩
  · rintro ⟨hcomponent, hcondition⟩; exact ⟨_, hcomponent, _, hcondition, rfl⟩

theorem supply_ok {g g' : GatedComponent} (h : (g.supply files values).outcome s = (.ok g', t)) :
    (∃ u, (g.component.supply files values).outcome s = (.ok g'.component, u)) ∧
      g.condition.setAll values = .ok g'.condition := by
  rw [supply_eq] at h
  obtain ⟨component, u, hcomponent, h⟩ := Act.outcome_bind_ok.1 h
  obtain ⟨condition, v, hcondition, h⟩ := Act.outcome_bind_ok.1 h
  cases h
  refine ⟨⟨u, hcomponent⟩, ?_⟩
  obtain ⟨journal, houtcome⟩ := outcome_supplyConditions values g.condition u
  rw [houtcome] at hcondition
  cases hset : g.condition.setAll values with
  | error fault => rw [hset] at hcondition; cases hcondition
  | ok told => rw [hset] at hcondition; cases hcondition; rfl

end GatedComponent

namespace Builder

variable {μ κ α β : Type}

/-- The result of an action on builders and the session after it. -/
def outcome (act : BuilderAct μ κ α) (session : Session) : Except (Failure μ κ) α × Session :=
  (ExceptT.run act).run session

theorem outcome_bind (act : BuilderAct μ κ α) (next : α → BuilderAct μ κ β) (s : Session) :
    outcome (act >>= next) s =
      match outcome act s with
      | (.ok a, t) => outcome (next a) t
      | (.error failure, t) => (.error failure, t) := by
  refine (run_bind act next s).trans ?_
  unfold outcome
  rcases StateT.run (ExceptT.run act) s with ⟨_ | a, t⟩ <;> rfl

theorem outcome_lift_bind (act : StateM Session α) (next : α → BuilderAct μ κ β) (s : Session) :
    outcome ((act : BuilderAct μ κ α) >>= next) s = outcome (next (act.run s).1) (act.run s).2 := rfl

variable [Platform] [IsComponent κ] {files : FileTree} {values : Dictionary Value}

/-- Supplying values to components goes on behind the first of them if that takes the values, and ends
there if not. -/
theorem run_supplyEach_cons (g : GatedComponent κ) (gs : List (GatedComponent κ)) (s : Session) :
    (supplyEach files values (g :: gs)).run s =
      match (g.supply files values).outcome s with
      | (.error fault, t) => ((g :: gs, some fault), t)
      | (.ok supplied, t) =>
        match (supplyEach files values gs).run t with
        | ((others, fault), u) => ((supplied :: others, fault), u) := by
  rw [supplyEach, StateT.run_bind]
  unfold Act.outcome
  rcases StateT.run (ExceptT.run (g.supply files values)) s with ⟨_ | supplied, t⟩ <;> rfl

/-- Supplying values to components until one fails is supplying them to all, as one action. -/
theorem supplyEach_eq (gs : List (GatedComponent κ)) (s : Session) :
    (gs.mapM (·.supply files values) : Act (List (GatedComponent κ))).outcome s =
      match (supplyEach files values gs).run s with
      | ((reached, none), t) => (.ok reached, t)
      | ((_, some fault), t) => (.error fault, t) := by
  induction gs generalizing s with
  | nil => rfl
  | cons g gs ih =>
    rw [List.mapM_cons, Act.outcome_bind, run_supplyEach_cons]
    rcases (g.supply files values).outcome s with ⟨_ | supplied, t⟩
    · rfl
    · simp only [Act.outcome_bind, ih]
      rcases (supplyEach files values gs).run t with ⟨⟨others, _ | fault⟩, u⟩ <;> rfl

/-- The builder that an action gives, if it goes through. -/
def result (act : BuilderAct μ κ (Builder μ κ)) (s : Session) : Option (Builder μ κ) := (outcome act s).1.toOption

/-- What supplying values to all components comes to is what it comes to for the builder. -/
theorem supply_eq (files : FileTree) (values : Dictionary Value) (b : Builder μ κ) (s : Session) :
    (outcome (b.supply files values) s).2 =
        ((b.components.mapM (·.supply files values) : Act (List (GatedComponent κ))).outcome s).2 ∧
      result (b.supply files values) s =
        ((b.components.mapM (·.supply files values) : Act (List (GatedComponent κ))).result s).map fun gs =>
          { b with components := gs } := by
  rw [result, Act.result, supplyEach_eq, supply, outcome_lift_bind]
  rcases (supplyEach files values b.components).run s with ⟨⟨reached, _ | fault⟩, t⟩
  · exact ⟨rfl, rfl⟩
  · exact ⟨rfl, rfl⟩

theorem result_supply_eq_some_iff {b b' : Builder μ κ} {s : Session} :
    result (b.supply files values) s = some b' ↔
      ∃ gs t, (b.components.mapM (·.supply files values) : Act (List (GatedComponent κ))).outcome s = (.ok gs, t) ∧
        { b with components := gs } = b' := by
  simp only [(supply_eq files values b s).2, Option.map_eq_some_iff, Act.result_eq_some_iff,
    exists_and_right]

end Builder

end PageTemplate
