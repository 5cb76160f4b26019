/-
What drawing a builder leaves on its canvas (`apply_draws`): what was there
before, and behind it one operation for each component that is shown, in the
order of the template. If one of them cannot be drawn, or cannot tell whether it
is shown, the canvas holds the operations of those before it.

Each operation is the one that its component adds to the canvas as it was at
the start, for no component looks at what others have drawn. It is what the
shape of the component paints (`Add.paints`).
-/
import PageTemplate.Platform.Plain
import PageTemplate.Proofs.Component.Painting
import PageTemplate.Proofs.Template.Supplying

namespace PageTemplate

namespace GatedComponent

/-- Whether the component is shown: the root of its condition names no variable, or the condition
passes. -/
def isShown (g : GatedComponent) : Bool := g.condition.own.name == "" || g.isEnabled

theorem isShown_of_isDrawn {g : GatedComponent} {truth : Bool} (h : g.isDrawn = .ok truth) :
    g.isShown = truth := by
  unfold isDrawn ConditionNode.isWildcard at h
  unfold isShown isEnabled
  cases hroot : g.condition.own.name == "" with
  | true => rw [hroot] at h; cases h; rfl
  | false =>
    rw [hroot, if_neg Bool.false_ne_true] at h
    rw [h, Bool.false_or]

variable [Platform]

/-- What some components add to a page: all of them tell whether they are shown, and those that are add
one operation each, in order. -/
structure Add (page : Canvas) (gs : List GatedComponent) (operations : List Operation) : Prop where
  told : ∀ g ∈ gs, ∃ truth, g.isDrawn = .ok truth
  added : List.Forall₂ (fun g operation => (g.component.draw page).2 = .ok (page.draw operation))
    (gs.filter isShown) operations

/-- A component fails to add to a page: it does not tell whether it is shown, or it is shown and cannot
be drawn. -/
inductive FailsToAdd (g : GatedComponent) (page : Canvas) : Fault → Prop
  | untold {fault : ConditionFault} : g.isDrawn = .error fault → FailsToAdd g page (.condition fault)
  | undrawn {fault : Fault} : g.isDrawn = .ok true → (g.component.draw page).2 = .error fault →
    FailsToAdd g page fault

namespace Add

variable {page : Canvas} {g : GatedComponent} {gs : List GatedComponent} {operations : List Operation}

theorem nil (page : Canvas) : Add page [] [] := ⟨by simp, .nil⟩

theorem skip (hshown : g.isDrawn = .ok false) (h : Add page gs operations) : Add page (g :: gs) operations := by
  refine ⟨List.forall_mem_cons.2 ⟨⟨false, hshown⟩, h.told⟩, ?_⟩
  rw [List.filter_cons, isShown_of_isDrawn hshown, if_neg Bool.false_ne_true]
  exact h.added

theorem cons {operation : Operation} (hshown : g.isDrawn = .ok true)
    (hdraw : (g.component.draw page).2 = .ok (page.draw operation)) (h : Add page gs operations) :
    Add page (g :: gs) (operation :: operations) := by
  refine ⟨List.forall_mem_cons.2 ⟨⟨true, hshown⟩, h.told⟩, ?_⟩
  rw [List.filter_cons, isShown_of_isDrawn hshown, if_pos rfl]
  exact .cons hdraw h.added

/-- What components add is what their shapes paint, and none of them waits for anything. -/
theorem paints (h : Add page gs operations) :
    List.Forall₂ (fun g operation => g.component.slots = [] ∧ g.component.shape.Paints page operation)
      (gs.filter isShown) operations :=
  h.added.imp fun _ _ => Component.draw_adds_iff.1

end Add

end GatedComponent

namespace Builder

open GatedComponent

section

variable [Platform]

/-- Drawing the first of several components and then the others. -/
theorem drawEach_cons (place : Nat) (g : GatedComponent) (gs : List GatedComponent) (canvas : Canvas) :
    (drawEach place (g :: gs) canvas).2 =
      match g.isDrawn with
      | .error fault => (canvas, some (.condition fault))
      | .ok false => (drawEach (place + 1) gs canvas).2
      | .ok true =>
        match (g.component.draw canvas).2 with
        | .error fault => (canvas, some fault)
        | .ok canvas => (drawEach (place + 1) gs canvas).2 := by
  simp only [drawEach, IsComponent.draw_eq]
  rcases g.isDrawn with fault | _ | _
  · rfl
  · rfl
  · rcases g.component.draw canvas with ⟨told, fault | canvas⟩ <;> rfl

/-- Drawing components on a canvas adds to it what they add to any page of its sheet, up to the first
that fails. -/
theorem drawEach_draws {page canvas : Canvas} (hsame : page.SameSheet canvas) (place : Nat)
    (gs : List GatedComponent) :
    (∃ operations, Add page gs operations ∧
      (drawEach place gs canvas).2 = (canvas.drawAll operations, none)) ∨
    ∃ before g after operations fault, gs = before ++ g :: after ∧ Add page before operations ∧
      g.FailsToAdd page fault ∧ (drawEach place gs canvas).2 = (canvas.drawAll operations, some fault) := by
  induction gs generalizing canvas place with
  | nil => exact .inl ⟨[], .nil page, by rw [Canvas.drawAll_nil]; rfl⟩
  | cons g gs ih =>
    rw [drawEach_cons]
    cases hshown : g.isDrawn with
    | error fault =>
      exact .inr ⟨[], g, gs, [], .condition fault, rfl, .nil page, .untold hshown, by rw [Canvas.drawAll_nil]⟩
    | ok truth =>
      cases truth with
      | false =>
        rcases ih hsame (place + 1) with ⟨operations, hadd, hrest⟩ |
          ⟨before, first, after, operations, fault, rfl, hadd, hfails, hrest⟩
        · exact .inl ⟨operations, hadd.skip hshown, hrest⟩
        · exact .inr ⟨g :: before, first, after, operations, fault, rfl, hadd.skip hshown, hfails, hrest⟩
      | true =>
        obtain ⟨told, operation, hpage, hcanvas⟩ := g.component.adds_draw page canvas hsame
        rw [hcanvas]
        cases operation with
        | error fault =>
          have hdraw : (g.component.draw page).2 = .error fault := by rw [hpage]; rfl
          exact .inr ⟨[], g, gs, [], fault, rfl, .nil page, .undrawn hshown hdraw,
            by rw [Canvas.drawAll_nil]; rfl⟩
        | ok operation =>
          have hdraw : (g.component.draw page).2 = .ok (page.draw operation) := by rw [hpage]; rfl
          have hnext : page.SameSheet (canvas.draw operation) :=
            ⟨hsame.width, hsame.height, hsame.resolution⟩
          rcases ih hnext (place + 1) with ⟨operations, hadd, hrest⟩ |
            ⟨before, first, after, operations, fault, rfl, hadd, hfails, hrest⟩
          · rw [← Canvas.drawAll_cons] at hrest
            exact .inl ⟨operation :: operations, hadd.cons hshown hdraw, hrest⟩
          · rw [← Canvas.drawAll_cons] at hrest
            exact .inr ⟨g :: before, first, after, operation :: operations, fault, rfl,
              hadd.cons hshown hdraw, hfails, hrest⟩

/-- Drawing a builder on its canvas adds one operation for each component that is shown, in order, and
changes nothing else; or it fails with the fault of the first component that fails to add, and the
builder that goes with a template's fault has the operations of those before it on its canvas. What a
component adds, or how it fails, is the same on every canvas of one size and resolution. -/
theorem apply_draws {b : Builder} {canvas : Canvas} (hcanvas : b.canvas = some canvas) (s : Session) :
    ((∃ operations journal, Add canvas b.components operations ∧
        outcome b.apply s = (.ok { b with canvas := some (canvas.drawAll operations) },
          { s with journal := journal })) ∨
      ∃ before g after operations fault journal, b.components = before ++ g :: after ∧
        Add canvas before operations ∧ g.FailsToAdd canvas fault ∧
        outcome b.apply s = (.error { fault := fault, reached :=
          if fault.kind.isTemplate then some { b with canvas := some (canvas.drawAll operations) } else none },
          { s with journal := journal })) ∧
    ∀ (component : Component) (page other : Canvas), page.SameSheet other →
      ∃ entries, ∃ operation : Except Fault Operation,
        component.draw page = (entries, operation.map page.draw) ∧
          component.draw other = (entries, operation.map other.draw) := by
  refine ⟨?_, fun component => component.adds_draw⟩
  rw [apply, hcanvas]
  rcases hdraw : drawEach 0 b.components canvas with ⟨entries, reached, fault⟩
  have hdraws := drawEach_draws (.refl canvas) 0 b.components
  rw [hdraw] at hdraws
  rcases hdraws with ⟨operations, hadd, hreached⟩ |
    ⟨before, g, after, operations, fault, hsplit, hadd, hfails, hreached⟩
  · cases hreached
    exact .inl ⟨operations, s.journal ++ entries, hadd, by simp only [hdraw]; rfl⟩
  · cases hreached
    exact .inr ⟨before, g, after, operations, fault, s.journal ++ entries, hsplit, hadd, hfails,
      by simp only [hdraw]; rfl⟩

end

/-- A page of forty by thirty points. -/
def card : Canvas :=
  { width := 40, height := 30, resolution := Binary64.ofRatio false 72 1, positive := by decide }

/-- A condition on the variable of a card, once it is known. -/
def cardCondition (holds : Bool) : Condition :=
  .node { name := "side", operator := "equals", literal := "front", isSet := true, holds := holds } []

/-- A rectangle that is always shown, a circle that is not shown, and a text that is. -/
def cardComponents : List GatedComponent :=
  [⟨.default, { shape := .rectangle { width := 40, height := 30 } }⟩,
    ⟨cardCondition false, { shape := .circle { radius := 9 } }⟩,
    ⟨cardCondition true, { shape := .text { content := "Hi", line :=
      { start := ⟨2, 20⟩, size := Binary64.ofRatio false 12 1, maxWidth := 30, font := "Helvetica" } } }⟩]

/-- The card with its components. -/
def cardBuilder : Builder :=
  { registry := Registry.builtin, settings := {}, canvas := some card, components := cardComponents }

open scoped Plain in
theorem apply_draws_card :
    ∃ operations journal, Add card cardComponents operations ∧ operations.length = 2 ∧
      outcome cardBuilder.apply {} =
        (.ok { cardBuilder with canvas := some (card.drawAll operations) }, { journal := journal }) := by
  have hcanvas : cardBuilder.canvas = some card := rfl
  have hrun : Act.passes (fun _ => true) (outcome cardBuilder.apply {}) = true := by decide +kernel
  obtain ⟨⟨operations, journal, hadd, houtcome⟩ |
    ⟨before, g, after, operations, fault, journal, -, -, -, houtcome⟩, -⟩ :=
    apply_draws hcanvas {}
  · have hshown : (cardComponents.filter isShown).length = 2 := by decide +kernel
    exact ⟨operations, journal, hadd, hadd.added.length_eq.symm.trans hshown, houtcome⟩
  · rw [houtcome] at hrun
    cases hrun

end Builder

end PageTemplate
