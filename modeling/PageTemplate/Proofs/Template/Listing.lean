/-
The components that a template lists and those that it draws
(`listed_eq_drawn_iff`). The listing asks every condition whether it passes.
Drawing does not ask a condition whose root names no variable, and shows its
component. So what is drawn is listed but for such components, and they are
listed where their condition passes all the same.
-/
import PageTemplate.Platform.Plain
import PageTemplate.Proofs.Condition.Reading
import PageTemplate.Proofs.Registry.Registering
import PageTemplate.Proofs.Template.Drawing

namespace PageTemplate

namespace Condition

theorem own_mem_nodes (c : Condition) : c.own ∈ c.nodes := by
  cases c with
  | node own group =>
    rw [nodes_node]
    exact List.mem_cons_self

/-- Telling a condition values tells them its root, and gives it no group that it did not have. -/
theorem root_of_setAll [Platform] {values : Dictionary Value} {c told : Condition} (h : c.setAll values = .ok told) :
    c.own.setAll values = .ok told.own ∧ (c.group = [] → told.group = []) := by
  obtain ⟨htake, rfl⟩ := setAll_ok_iff.1 h
  obtain ⟨told, htold⟩ := htake c.own c.own_mem_nodes
  cases c with
  | node own group =>
    rw [Condition.own] at htold
    rw [map_node]
    refine ⟨?_, fun hgroup => ?_⟩
    · rw [Condition.own, Condition.own, ConditionNode.changed_of_ok (f := (·.setAll values)) htold]
      exact htold
    · rw [Condition.group] at hgroup ⊢
      rw [hgroup, List.map_nil]

/-- A wildcard on its own passes just if it has seen a value. -/
theorem validate_of_wildcard {c : Condition} (hroot : c.own.name = "") (hgroup : c.group = []) :
    c.validate = .ok c.own.holds := by
  cases c with
  | node own group =>
    rw [Condition.own] at hroot
    rw [Condition.group] at hgroup
    have hwild : (!own.isWildcard && !own.isSet) = false := by simp [ConditionNode.isWildcard, hroot]
    rw [validate, hwild, if_neg Bool.false_ne_true, hgroup]
    rfl

end Condition

namespace GatedComponent

theorem isEnabled_iff {g : GatedComponent} : g.isEnabled = true ↔ g.condition.validate = .ok true := by
  unfold isEnabled
  cases g.condition.validate <;> simp

/-- Loaded without a group, a wildcard passes once there has been a value. -/
theorem validate_of_supplied_wildcard [Platform] {settings : Settings} {g g' : GatedComponent}
    (hg : g.Loaded settings) {values : Dictionary Value} (htold : g.condition.setAll values = .ok g'.condition)
    (hroot : g.condition.own.name = "") (hgroup : g.condition.group = []) (hvalues : values ≠ [])
    (hkeys : "" ∉ values.keys) : g'.condition.validate = .ok true := by
  obtain ⟨json, hjson⟩ := hg.condition
  have hfresh := Condition.fresh_of_ofJson hjson _ g.condition.own_mem_nodes
  obtain ⟨hown, hnone⟩ := Condition.root_of_setAll htold
  have hnotset : ¬ (g.condition.own.isSet = true ∨ values = []) := by simp [hfresh.1, hvalues]
  have hname := ConditionNode.name_setAll hown
  rw [ConditionNode.setAll_of_wildcard hroot hkeys, if_neg hnotset] at hown
  rw [Condition.validate_of_wildcard (hname.trans hroot) (hnone hgroup), ← Except.ok.inj hown]
  rfl

end GatedComponent

namespace Builder

open GatedComponent

section

variable [Platform]

/-- A run of drawing: from one page to another some components are drawn, one after the other, and the
others are passed over. -/
inductive Draws : Canvas → List GatedComponent → List GatedComponent → Canvas → Prop
  | nil {page : Canvas} : Draws page [] [] page
  | skip {page last : Canvas} {g : GatedComponent} {gs drawn : List GatedComponent} :
    g.isDrawn = .ok false → Draws page gs drawn last → Draws page (g :: gs) drawn last
  | draw {page next last : Canvas} {g : GatedComponent} {gs drawn : List GatedComponent} :
    g.isDrawn = .ok true → (g.component.draw page).2 = .ok next → Draws next gs drawn last →
      Draws page (g :: gs) (g :: drawn) last

theorem draws_of_drawEach {place : Nat} {gs : List GatedComponent} {page last : Canvas}
    (h : (drawEach place gs page).2 = (last, none)) : ∃ drawn, Draws page gs drawn last := by
  induction gs generalizing place page with
  | nil => cases h; exact ⟨[], .nil⟩
  | cons g gs ih =>
    rw [drawEach_cons] at h
    cases hshown : g.isDrawn with
    | error fault => rw [hshown] at h; cases h
    | ok truth =>
      rw [hshown] at h
      cases truth with
      | false =>
        obtain ⟨drawn, hdraws⟩ := ih h
        exact ⟨drawn, .skip hshown hdraws⟩
      | true =>
        cases hdraw : (g.component.draw page).2 with
        | error fault => simp only [hdraw] at h; cases h
        | ok next =>
          simp only [hdraw] at h
          obtain ⟨drawn, hdraws⟩ := ih h
          exact ⟨g :: drawn, .draw hshown hdraw hdraws⟩

/-- Drawing that goes through is a run over all components, and changes nothing but the canvas. -/
theorem draws_of_apply {b page : Builder} {s t : Session} (h : outcome b.apply s = (.ok page, t)) :
    ∃ canvas last drawn, b.canvas = some canvas ∧ page = { b with canvas := some last } ∧
      Draws canvas b.components drawn last := by
  cases hcanvas : b.canvas with
  | none => rw [apply, hcanvas] at h; cases h
  | some canvas =>
    rw [apply, hcanvas] at h
    rcases hdraw : drawEach 0 b.components canvas with ⟨entries, last, _ | fault⟩
    · simp only [hdraw] at h
      cases h
      obtain ⟨drawn, hdraws⟩ := draws_of_drawEach (congrArg Prod.snd hdraw)
      exact ⟨canvas, last, drawn, rfl, rfl, hdraws⟩
    · simp only [hdraw] at h
      cases h

theorem Draws.eq_filter {page last : Canvas} {gs drawn : List GatedComponent} (h : Draws page gs drawn last) :
    drawn = gs.filter isShown := by
  induction h with
  | nil => rfl
  | skip hshown _ ih => rw [ih, List.filter_cons, isShown_of_isDrawn hshown, if_neg Bool.false_ne_true]
  | draw hshown _ _ ih => rw [ih, List.filter_cons, isShown_of_isDrawn hshown, if_pos rfl]

theorem Draws.of_single {page last : Canvas} {gs drawn : List GatedComponent} (h : Draws page gs drawn last)
    (hshown : gs.map isShown = [true]) : ∃ g, drawn = [g] := by
  obtain ⟨g, rfl, hg⟩ := List.map_eq_singleton_iff.1 hshown
  refine ⟨g, ?_⟩
  rw [h.eq_filter, List.filter_cons, if_pos hg, List.filter_nil]

section Listing

variable {b : Builder} {canvas last : Canvas} {drawn : List GatedComponent}
  (h : Draws canvas b.components drawn last)
include h

theorem listed_eq_filter : b.enabledComponents = (drawn.filter isEnabled).map (·.component) := by
  have hboth : ∀ g ∈ b.components, g.isEnabled = (g.isEnabled && g.isShown) := fun g _ => by
    rw [isShown]
    cases g.isEnabled <;> simp
  rw [enabledComponents, h.eq_filter, List.filter_filter, List.filter_congr hboth]

theorem validate_of_drawn {g : GatedComponent} (hg : g ∈ drawn) (hname : g.condition.own.name ≠ "") :
    g.condition.validate = .ok true := by
  rw [h.eq_filter, List.mem_filter, isShown, Bool.or_eq_true, beq_iff_eq] at hg
  exact isEnabled_iff.1 (hg.2.resolve_left hname)

/-- All that is drawn is listed just if the conditions pass that drawing does not ask. -/
theorem listed_eq_drawn_iff_validate :
    b.enabledComponents = drawn.map (·.component) ↔
      ∀ g ∈ b.components, g.condition.own.name = "" → g.condition.validate = .ok true := by
  rw [listed_eq_filter h]
  constructor
  · intro hlisted g hg hname
    have hlength : (drawn.filter isEnabled).length = drawn.length := by
      simpa using congrArg List.length hlisted
    have hdrawn : g ∈ drawn := by
      rw [h.eq_filter]
      exact List.mem_filter.2 ⟨hg, by simp [isShown, hname]⟩
    exact isEnabled_iff.1 (List.length_filter_eq_length_iff.1 hlength g hdrawn)
  · intro hpass
    have hall : ∀ g ∈ drawn, g.isEnabled = true := fun g hg => by
      by_cases hname : g.condition.own.name = ""
      · rw [h.eq_filter] at hg
        exact isEnabled_iff.2 (hpass g (List.mem_of_mem_filter hg) hname)
      · exact isEnabled_iff.2 (validate_of_drawn h hg hname)
    rw [List.filter_eq_self.2 hall]

end Listing

/-- What a template draws once it has been supplied with values, and what it lists then. The listing is
what is drawn, in order, without the components whose condition has a root without a variable and does
not pass. Nothing is left out just if all those conditions pass. They do when there is a value, none has
the empty name, and no group is under such a root. -/
theorem listed_eq_drawn_iff {b supplied page : Builder} (hb : b.Loaded) {files : FileTree}
    {values : Dictionary Value} {s t u : Session} (hsupply : result (b.supply files values) s = some supplied)
    (hdraw : outcome supplied.apply t = (.ok page, u)) :
    ∃ canvas last drawn, supplied.canvas = some canvas ∧ page = { supplied with canvas := some last } ∧
      Draws canvas supplied.components drawn last ∧
      supplied.enabledComponents = (drawn.filter isEnabled).map (·.component) ∧
      (∀ g ∈ drawn, g.condition.own.name ≠ "" → g.condition.validate = .ok true) ∧
      (supplied.enabledComponents = drawn.map (·.component) ↔
        ∀ g ∈ supplied.components, g.condition.own.name = "" → g.condition.validate = .ok true) ∧
      (values ≠ [] → "" ∉ values.keys →
        (∀ g ∈ b.components, g.condition.own.name = "" → g.condition.group = []) →
        supplied.enabledComponents = drawn.map (·.component)) := by
  obtain ⟨canvas, last, drawn, hcanvas, hpage, hdraws⟩ := draws_of_apply hdraw
  refine ⟨canvas, last, drawn, hcanvas, hpage, hdraws, listed_eq_filter hdraws,
    fun g => validate_of_drawn hdraws, listed_eq_drawn_iff_validate hdraws, fun hvalues hkeys hgroups => ?_⟩
  refine (listed_eq_drawn_iff_validate hdraws).2 fun g' hg' hname => ?_
  obtain ⟨gs, v, hrun, rfl⟩ := result_supply_eq_some_iff.1 hsupply
  obtain ⟨g, hg, w, w', hstep⟩ := exists_of_mem_right (Act.mapM_ok hrun) hg'
  have htold := (GatedComponent.supply_ok hstep).2
  have hroot : g.condition.own.name = "" :=
    (ConditionNode.name_setAll (Condition.root_of_setAll htold).1).symm.trans hname
  exact validate_of_supplied_wildcard (hb.each g hg) htold hroot (hgroups g hg hroot) hvalues hkeys

end

open scoped Plain in
theorem listed_eq_drawn_iff_box :
    ∃ (b supplied page : Builder) (canvas last : Canvas) (g : GatedComponent) (t : Session), b.Loaded ∧
      result (b.supply {} [("x", .json (.int 2))]) {} = some supplied ∧
      outcome supplied.apply {} = (.ok page, t) ∧ supplied.canvas = some canvas ∧
      Draws canvas supplied.components [g] last ∧ supplied.enabledComponents = [g.component] := by
  have hrun : Act.passes (fun b =>
      (b.components.all fun g => g.condition.group.isEmpty) &&
      (result (b.supply {} [("x", .json (.int 2))]) {}).any fun supplied =>
        supplied.components.map isShown = [true] &&
          Act.passes (fun _ => true) (outcome supplied.apply {}))
      ((loadDocument ⟨{}, default⟩ { registry := Registry.builtin, settings := {}, canvas := some card }
        (boxDocument .null)).outcome {}) = true := by
    rw [Registry.builtin_eq]
    decide +kernel
  obtain ⟨b, w, hload, htest⟩ := Act.exists_of_passes hrun
  simp only [Bool.and_eq_true, List.all_eq_true, decide_eq_true_eq, Option.any_eq_true, List.isEmpty_iff] at htest
  obtain ⟨hgroups, supplied, hsupply, hshown, hpasses⟩ := htest
  obtain ⟨page, t, hdraw, -⟩ := Act.exists_of_passes hpasses
  have hb : b.Loaded := ⟨_, _, _, _, _, hload⟩
  obtain ⟨canvas, last, drawn, hcanvas, -, hdraws, -, -, -, hlisted⟩ := listed_eq_drawn_iff hb hsupply hdraw
  have hlisted := hlisted (by simp) (by decide) fun g hg _ => hgroups g hg
  obtain ⟨g, rfl⟩ := hdraws.of_single hshown
  exact ⟨b, supplied, page, canvas, last, g, t, hb, hsupply, hdraw, hcanvas, hdraws, hlisted⟩

/-- A condition without a variable over the one that its variable is one. -/
def groupOfOne : Json :=
  .object [("group", .object [("groupOperator", .string "and"), ("conditionals", .array [isOne])])]

open scoped Plain in
/-- The rectangle is drawn, for the root of its condition names no variable, and it is not listed, for the
condition does not pass. -/
theorem drawn_not_listed :
    ∃ (b supplied page : Builder) (canvas last : Canvas) (g : GatedComponent) (t : Session), b.Loaded ∧
      b.needed = ["x"] ∧ result (b.supply {} [("x", .json (.int 2))]) {} = some supplied ∧
      outcome supplied.apply {} = (.ok page, t) ∧ supplied.canvas = some canvas ∧
      Draws canvas supplied.components [g] last ∧ page.canvas = some last ∧
      supplied.enabledComponents = [] := by
  have hrun : Act.passes (fun b => b.needed = ["x"] &&
      (result (b.supply {} [("x", .json (.int 2))]) {}).any fun supplied =>
        supplied.components.map isShown = [true] &&
          supplied.enabledComponents = [] && Act.passes (fun _ => true) (outcome supplied.apply {}))
      ((loadDocument ⟨{}, default⟩ { registry := Registry.builtin, settings := {}, canvas := some card }
        (boxDocument groupOfOne)).outcome {}) = true := by
    rw [Registry.builtin_eq]
    decide +kernel
  obtain ⟨b, w, hload, htest⟩ := Act.exists_of_passes hrun
  simp only [Bool.and_eq_true, decide_eq_true_eq, Option.any_eq_true] at htest
  obtain ⟨hneeded, supplied, hsupply, ⟨hshown, hlisted⟩, hpasses⟩ := htest
  obtain ⟨page, t, hdraw, -⟩ := Act.exists_of_passes hpasses
  obtain ⟨canvas, last, drawn, hcanvas, rfl, hdraws⟩ := draws_of_apply hdraw
  obtain ⟨g, rfl⟩ := hdraws.of_single hshown
  exact ⟨b, supplied, _, canvas, last, g, t, ⟨_, _, _, _, _, hload⟩, hneeded, hsupply, hdraw, hcanvas, hdraws, rfl,
    hlisted⟩

end Builder

end PageTemplate
