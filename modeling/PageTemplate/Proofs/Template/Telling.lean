/-
What a failure of supplying or drawing tells. Of a builder that a document was
loaded into, and that was supplied with values since, a failure carries the
builder that was reached before it, unless the fault is stray. Supplying strays
over a value that some component or some node of a condition strays with, and
drawing over a component that strays on a page of that resolution
(`Builder.tells_unless_stray`).
-/
import PageTemplate.Platform.Plain
import PageTemplate.Proofs.Component.StrayDrawing
import PageTemplate.Proofs.Component.StrayLoading
import PageTemplate.Proofs.Condition.Straying
import PageTemplate.Proofs.Template.Drawing
import PageTemplate.Proofs.Template.Progress
import PageTemplate.Proofs.Template.Repeating

namespace PageTemplate

namespace GatedComponent

variable [Platform]

/-- The stray faults of supplying values to a component and its condition. -/
inductive SupplyStrays (files : FileTree) (values : Dictionary Value) (g : GatedComponent) : Fault → Prop
  | component {fault : Fault} : g.component.SupplyStrays files values fault → SupplyStrays files values g fault
  | condition {n : ConditionNode} {fault : ConditionFault} : n ∈ g.condition.nodes → n.Strays values fault →
    SupplyStrays files values g (.condition fault)

variable {files : FileTree} {values : Dictionary Value} {g : GatedComponent} {fault : Fault}

theorem SupplyStrays.isStray (h : g.SupplyStrays files values fault) : fault.IsStray := by
  cases h with
  | component hfault => exact hfault.isStray
  | condition _ hnode => exact hnode.isStray

theorem Refuses.stray {s t : Session} (hg : g.component.slots.Occupied) (h : g.Refuses files values s fault t)
    (hstray : fault.IsStray) : g.SupplyStrays files values fault := by
  cases h with
  | component hrun => exact .component (Component.straysOnly_supply files values hg _ _ _ hrun hstray)
  | condition _ hset =>
    obtain ⟨n, hn, hnode⟩ := Condition.setAll_stray hset hstray
    exact .condition hn hnode

theorem FailsToAdd.stray {page : Canvas} (hg : g.component.shape.Coloured) (h : g.FailsToAdd page fault)
    (hstray : fault.IsStray) : g.isDrawn = .ok true ∧ g.component.DrawStrays page.resolution fault := by
  cases h with
  | untold hdrawn =>
    unfold isDrawn at hdrawn
    split at hdrawn
    · cases hdrawn
    · exact absurd hstray (Condition.validate_not_isStray hdrawn)
  | undrawn hshown hdraw => exact ⟨hshown, Component.draw_stray hg hdraw hstray⟩

end GatedComponent

namespace Builder

/-- A failure tells what was reached unless its fault is stray. -/
theorem failure_reached (fault : Fault) (reached : Builder) :
    (failure fault reached).reached = none ↔ fault.IsStray := by
  cases hkind : fault.kind.isTemplate <;> simp [failure, Fault.IsStray, hkind]

section

variable [Platform] {b b' : Builder} {portions : List (Dictionary Value)}

/-- Supplying values to a builder is supplying them to its components. -/
theorem Supplied.reached (h : Supplied b portions b') :
    List.Forall₂ (fun g g' => Component.Reached g.component g'.component) b.components b'.components := by
  induction h with
  | start => exact List.forall₂_same.2 fun _ _ => .start
  | supply _ hstep ih =>
    obtain ⟨gs, t, hrun, rfl⟩ := result_supply_eq_some_iff.1 hstep
    refine (forall₂_comp ih (Act.mapM_ok hrun)).imp ?_
    rintro g g'' ⟨g', hreached, u, v, hsupply⟩
    obtain ⟨⟨w, hcomponent⟩, -⟩ := GatedComponent.supply_ok hsupply
    exact .supply hreached hcomponent

/-- What was loaded stays in order, however it is supplied. -/
theorem Supplied.kept (hb : b.Loaded) (h : Supplied b portions b') {g' : GatedComponent}
    (hg' : g' ∈ b'.components) : g'.component.slots.Occupied ∧ g'.component.shape.Coloured := by
  obtain ⟨g, -, hg, hreached⟩ := exists_of_mem_right ((List.forall₂_and_left _ _).2 ⟨hb.each, h.reached⟩) hg'
  obtain ⟨files, now, kind, properties, s, t, hload⟩ := hg.component
  have hsound := hreached.sound (Component.sound_of_load hload) (Component.load_ok hload).2.1
  exact ⟨hsound.1.occupied, (Component.complete_of_load_reached hload hreached).coloured⟩

theorem supply_tells (hb : b.Loaded) (h : Supplied b portions b') {files : FileTree} {values : Dictionary Value}
    {s t : Session} {failure : Failure} (hrun : outcome (b'.supply files values) s = (.error failure, t)) :
    (failure.fault.IsStray ↔ ∃ g ∈ b'.components, g.SupplyStrays files values failure.fault) ∧
      (failure.reached = none ↔ failure.fault.IsStray) := by
  rw [supply, outcome_lift_bind] at hrun
  rcases supplyEach_progress files values b'.components s with ⟨updated, u, -, heach⟩ |
    ⟨before, g, after, updated, u, fault, v, hsplit, -, hrefuses, heach⟩
  · rw [heach] at hrun
    cases hrun
  · rw [heach] at hrun
    cases hrun
    have hg : g ∈ b'.components := by simp [hsplit]
    refine ⟨⟨fun hstray => ⟨g, hg, hrefuses.stray (h.kept hb hg).1 hstray⟩, ?_⟩, failure_reached _ _⟩
    rintro ⟨g', -, hstrays⟩
    exact hstrays.isStray

theorem apply_tells (hb : b.Loaded) (h : Supplied b portions b') {canvas : Option Canvas} {s t : Session}
    {failure : Failure} (hrun : outcome { b' with canvas := canvas }.apply s = (.error failure, t)) :
    (failure.fault.IsStray ↔ ∃ page, canvas = some page ∧ ∃ g ∈ b'.components, g.isDrawn = .ok true ∧
      g.component.DrawStrays page.resolution failure.fault) ∧
      (failure.reached = none ↔ failure.fault.IsStray ∨ canvas = none) := by
  cases canvas with
  | none =>
    cases hrun
    refine ⟨⟨fun hstray => (by cases hstray), ?_⟩, by simp⟩
    rintro ⟨page, hpage, -⟩
    cases hpage
  | some page =>
    simp only [apply] at hrun
    rcases hdraw : drawEach 0 b'.components page with ⟨entries, reached, fault⟩
    have hdraws := drawEach_draws (.refl page) 0 b'.components
    rw [hdraw] at hdraws
    rw [hdraw] at hrun
    rcases hdraws with ⟨operations, -, hreached⟩ | ⟨before, g, after, operations, fault, hsplit, -, hfails, hreached⟩
    · cases hreached
      cases hrun
    · cases hreached
      cases hrun
      have hg : g ∈ b'.components := by simp [hsplit]
      refine ⟨⟨fun hstray => ?_, ?_⟩, ?_⟩
      · obtain ⟨hshown, hstrays⟩ := hfails.stray (h.kept hb hg).2 hstray
        exact ⟨page, rfl, g, hg, hshown, hstrays⟩
      · rintro ⟨_, -, _, -, -, hstrays⟩
        exact hstrays.shape.isStray
      · rw [failure_reached]
        exact ⟨.inl, fun h => h.elim id fun hnone => by cases hnone⟩

end

/-- A value for the place of a box, an integer beyond binary64. -/
def farPlace : Dictionary Value := [("x", .json (.int (10 ^ 400)))]

/-- A template of a text of infinite size, its start waiting. -/
def boundlessDocument : Json :=
  .object [("components", .array [.object [("type", .string "text"),
    ("properties", .object [("content", .string "A"), ("font", .object [("fontName", .string "Courier")]),
      ("startX", .string "$x$"), ("startY", .string "0"), ("maxWidth", .string "90"), ("size", .string "inf"),
      ("colour", .object [("R", .string "0"), ("G", .string "0"), ("B", .string "0"), ("A", .string "9")])])]])]

end Builder

end PageTemplate
