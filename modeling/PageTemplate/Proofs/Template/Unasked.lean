/-
Values that a template does not ask for. A further value, for a variable that
the template does not need, is ignored by every component and by every node
that has a name. Wildcards need no variable, and still they compare what comes
under the empty name once a value has made them true: so the further value is
ignored altogether just if no node notices it (`unasked_ignored_iff`). It always
is when neither it nor another value has the empty name.
-/
import PageTemplate.Platform.Plain
import PageTemplate.Proofs.Component.Unasked
import PageTemplate.Proofs.Condition.Unasked
import PageTemplate.Proofs.Registry.Registering
import PageTemplate.Proofs.Template.Supplying

namespace PageTemplate

variable {files : FileTree} {values others before after : Dictionary Value} {name : String} {value : Value}

namespace GatedComponent

variable [Platform]

/-- Supplying other values to a condition comes to the same if telling it them does. -/
theorem follows_supplyConditions {c : Condition}
    (h : ∀ told, c.setAll values = .ok told → c.setAll others = .ok told) :
    Act.Follows (supplyConditions values c) (supplyConditions others c) := by
  intro s t told s' hst hrun
  obtain ⟨journal, houtcome⟩ := outcome_supplyConditions values c s
  obtain ⟨journal', houtcome'⟩ := outcome_supplyConditions others c t
  rw [houtcome] at hrun
  rw [houtcome']
  cases hset : c.setAll values with
  | error fault => rw [hset] at hrun; cases hrun
  | ok told' =>
    rw [hset] at hrun
    cases hrun
    rw [h _ hset]
    exact ⟨_, rfl, hst⟩

/-- With a further value that the component does not ask for it takes values as without, if its condition
does. -/
theorem follows_supply {g : GatedComponent} (hslots : name ∉ g.component.slots.keys)
    (h : ∀ told, g.condition.setAll (before ++ after) = .ok told →
      g.condition.setAll (before ++ (name, value) :: after) = .ok told) :
    Act.Follows (g.supply files (before ++ after)) (g.supply files (before ++ (name, value) :: after)) := by
  rw [supply_eq, supply_eq, Component.supply_unasked files hslots]
  have hcomponent := Component.ignoresJournal_supply files (before ++ after) g.component
  refine (Act.Follows.of_ignoresJournal hcomponent).bind fun component => ?_
  exact (follows_supplyConditions h).bind fun condition => .of_ignoresJournal (.pure _)

end GatedComponent

namespace Builder

section

variable [Platform]

section Unasked

variable {b b' : Builder} {s : Session} (hb : b.Loaded) (hneeded : name ∉ b.needed)
include hb hneeded

theorem setAll_unasked_iff (hvalues : Dictionary.Distinct (before ++ (name, value) :: after))
    (hnil : before ++ after ≠ []) {g : GatedComponent} (hg : g ∈ b.components) {told : Condition}
    (h : g.condition.setAll (before ++ after) = .ok told) :
    g.condition.setAll (before ++ (name, value) :: after) = .ok told ↔
      ∀ n ∈ g.condition.nodes, n.Unmoved before name value after := by
  obtain ⟨json, hjson⟩ := (hb.each g hg).condition
  have hother : ∀ n ∈ g.condition.nodes, n.name ≠ "" → n.name ≠ name := fun n hn hwild he =>
    hneeded (hb.mem_needed.2 ⟨g, hg, .inr ⟨he ▸ hwild, n, hn, he⟩⟩)
  exact Condition.setAll_unasked_iff (Condition.fresh_of_ofJson hjson) hother hvalues hnil h

/-- A loaded template that takes some values takes them to the same effect with a further one, for a
variable that it does not need, just if no node of a condition notices it. -/
theorem supply_unasked_iff (hvalues : Dictionary.Distinct (before ++ (name, value) :: after))
    (hnil : before ++ after ≠ []) (h : result (b.supply files (before ++ after)) s = some b') :
    result (b.supply files (before ++ (name, value) :: after)) s = some b' ↔
      ∀ g ∈ b.components, ∀ n ∈ g.condition.nodes, n.Unmoved before name value after := by
  obtain ⟨gs, t, hrun, rfl⟩ := result_supply_eq_some_iff.1 h
  constructor
  · intro hmore g hg
    obtain ⟨gs', t', hrun', he⟩ := result_supply_eq_some_iff.1 hmore
    obtain rfl : gs' = gs := congrArg components he
    -- Each condition has been told the values to the same effect in both runs.
    have hboth := List.Forall₂.mp (fun _ _ => And.intro) (Act.mapM_ok hrun) (Act.mapM_ok hrun')
    obtain ⟨g', -, ⟨u, v, hstep⟩, u', v', hstep'⟩ := exists_of_mem_right hboth.flip hg
    exact (setAll_unasked_iff hb hneeded hvalues hnil hg (GatedComponent.supply_ok hstep).2).1
      (GatedComponent.supply_ok hstep').2
  · intro hunmoved
    have hfollows : ∀ g ∈ b.components, Act.Follows (g.supply files (before ++ after))
        (g.supply files (before ++ (name, value) :: after)) := by
      intro g hg
      refine GatedComponent.follows_supply (fun hmem => ?_) fun told htold => ?_
      · exact hneeded (hb.mem_needed.2 ⟨g, hg, .inl hmem⟩)
      · exact (setAll_unasked_iff hb hneeded hvalues hnil hg htold).2 (hunmoved g hg)
    obtain ⟨t', hrun', -⟩ := Act.follows_mapM hfollows s s gs t ⟨rfl, rfl⟩ hrun
    exact result_supply_eq_some_iff.2 ⟨gs, t', hrun', rfl⟩

/-- A loaded template that takes some values ignores a further one, at any place among them, for a variable
that it does not need, if neither it nor another has the empty name. Else it ignores it just if no node
of a condition notices it. -/
theorem unasked_ignored_iff (before after : Dictionary Value) (hvalues : (before ++ after).Distinct)
    (hnil : before ++ after ≠ []) (hname : name ∉ (before ++ after).keys) (value : Value)
    (h : result (b.supply files (before ++ after)) s = some b') :
    (name ≠ "" → "" ∉ (before ++ after).keys →
      result (b.supply files (before ++ (name, value) :: after)) s = some b') ∧
    (result (b.supply files (before ++ (name, value) :: after)) s = some b' ↔
      ∀ g ∈ b.components, ∀ n ∈ g.condition.nodes, n.Unmoved before name value after) := by
  have hmore := Dictionary.distinct_append_cons_iff (v := value).2 ⟨hname, hvalues⟩
  have hiff := supply_unasked_iff hb hneeded hmore hnil h
  refine ⟨fun hnamed hkeys => hiff.2 fun g hg n hn => ?_, hiff⟩
  exact ConditionNode.unmoved_of_named hnamed hkeys

end Unasked

end

/-- A condition without a variable that nevertheless compares. -/
def comparingWildcard : Json := .object [("operator", .string "equals"), ("value", .string "v")]

open scoped Plain in
theorem unasked_ignored_iff_box :
    ∃ b b' : Builder, b.Loaded ∧ b.needed = ["x"] ∧
      result (b.supply {} [("x", .json (.int 2))]) {} = some b' ∧
      result (b.supply {} [("y", .json (.int 7)), ("x", .json (.int 2))]) {} = some b' ∧
      result (b.supply {} [("x", .json (.int 2)), ("", .text "v")]) {} = some b' := by
  have hrun : Act.passes (fun b => b.needed = ["x"] &&
      (b.components.all fun g => g.condition.nodes.all fun n => n.compare (.text "v") = .ok true) &&
      (result (b.supply {} [("x", .json (.int 2))]) {}).isSome)
      ((loadDocument ⟨{}, default⟩ { registry := Registry.builtin, settings := {} }
        (boxDocument comparingWildcard)).outcome {}) = true := by
    rw [Registry.builtin_eq]
    decide +kernel
  obtain ⟨b, t, hload, htest⟩ := Act.exists_of_passes hrun
  simp only [Bool.and_eq_true, List.all_eq_true, decide_eq_true_eq] at htest
  obtain ⟨⟨hneeded, hcompare⟩, hsome⟩ := htest
  obtain ⟨b', hb'⟩ := Option.isSome_iff_exists.1 hsome
  have hb : b.Loaded := ⟨_, _, _, _, _, hload⟩
  have hdistinct : Dictionary.Distinct [("x", Value.json (.int 2))] := List.nodup_singleton "x"
  have hy : "y" ∉ b.needed := by rw [hneeded]; decide
  have hempty : "" ∉ b.needed := by rw [hneeded]; decide
  have hother := unasked_ignored_iff hb hy [] [("x", .json (.int 2))] hdistinct (by simp) (by decide)
    (.json (.int 7)) hb'
  have hunnamed := unasked_ignored_iff hb hempty [("x", .json (.int 2))] [] hdistinct (by simp) (by decide)
    (.text "v") hb'
  refine ⟨b, b', hb, hneeded, hb', hother.1 (by decide) (by decide), hunnamed.2.2 fun g hg n hn _ => ?_⟩
  exact ⟨fun _ _ => hcompare g hg n hn, fun h => absurd h (by simp)⟩

open scoped Plain in
/-- A condition that the template does not give is a wildcard with no comparison to make. It takes a value
of whatever name, and refuses a later one under the empty name. -/
theorem unnamed_value_refused :
    ∃ b b' : Builder, b.Loaded ∧ b.needed = ["x"] ∧
      result (b.supply {} [("x", .json (.int 2))]) {} = some b' ∧
      ∃ reached t, outcome (b.supply {} [("x", .json (.int 2)), ("", .text "v")]) {} =
        (.error ⟨.condition (.unknownOperator ""), reached⟩, t) := by
  have hrun : Act.passes (fun b => b.needed = ["x"] &&
      (result (b.supply {} [("x", .json (.int 2))]) {}).isSome &&
      match (outcome (b.supply {} [("x", .json (.int 2)), ("", .text "v")]) {}).1 with
      | .ok _ => false
      | .error failure => failure.fault = .condition (.unknownOperator ""))
      ((loadDocument ⟨{}, default⟩ { registry := Registry.builtin, settings := {} }
        (boxDocument .null)).outcome {}) = true := by
    rw [Registry.builtin_eq]
    decide +kernel
  obtain ⟨b, t, hload, htest⟩ := Act.exists_of_passes hrun
  simp only [Bool.and_eq_true, decide_eq_true_eq] at htest
  obtain ⟨⟨hneeded, hsome⟩, hfault⟩ := htest
  obtain ⟨b', hb'⟩ := Option.isSome_iff_exists.1 hsome
  refine ⟨b, b', ⟨_, _, _, _, _, hload⟩, hneeded, hb', ?_⟩
  rcases houtcome : outcome (b.supply {} [("x", .json (.int 2)), ("", .text "v")]) {} with
    ⟨⟨fault, reached⟩ | other, u⟩
  · rw [houtcome] at hfault
    obtain rfl : fault = .condition (.unknownOperator "") := of_decide_eq_true hfault
    exact ⟨reached, u, rfl⟩
  · rw [houtcome] at hfault
    cases hfault

end Builder

end PageTemplate
