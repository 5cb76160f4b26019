/-
The variables that a loaded template says it needs are all it needs: once each
of them has a value, no property waits any more, every node that compares a
variable is set, and drawing never fails for want of a value
(`needed_suffices`).
-/
import PageTemplate.Platform.Plain
import PageTemplate.Proofs.Registry.Registering
import PageTemplate.Proofs.Template.Supplying

namespace PageTemplate

namespace Condition

/-- No node that compares a variable lacks its value. -/
def IsSet (c : Condition) : Prop := ∀ n ∈ c.nodes, n.name ≠ "" → n.isSet = true

theorem IsSet.of_mem {own : ConditionNode} {group : List Condition} (h : IsSet (.node own group))
    {c : Condition} (hc : c ∈ group) : c.IsSet := fun n hn => h n (by
  rw [nodes_node]
  exact List.mem_cons_of_mem _ (List.mem_flatMap_of_mem hc hn))

/-- A condition with all its values fails for a group that is no group, and for nothing else. -/
theorem IsSet.validate_error {c : Condition} (h : c.IsSet) {fault : ConditionFault}
    (hfault : c.validate = .error fault) : ∃ word, fault = .unknownGroupOperator word := by
  induction c with
  | node own group ih =>
    have hown : (!own.isWildcard && !own.isSet) = false := by
      by_cases hn : own.name = ""
      · simp [ConditionNode.isWildcard, hn]
      · simp [h own (by simp [nodes_node]) hn]
    rw [validate, hown, if_neg Bool.false_ne_true] at hfault
    split at hfault
    · cases hfault
    split at hfault
    · cases hfault
      exact ⟨_, rfl⟩
    · cases heach : validateEach group with
      | ok truths => rw [heach] at hfault; cases hfault
      | error fault' =>
        rw [heach] at hfault
        cases hfault
        obtain ⟨c, hc, hvalidate⟩ := validateEach_error heach
        exact ih c hc (h.of_mem hc) hvalidate

/-- A condition that has been told the values of all its variables has them. -/
theorem isSet_of_setAll [Platform] {values : Dictionary Value} {c told : Condition} (h : c.setAll values = .ok told)
    (hcover : ∀ n ∈ c.nodes, n.name ≠ "" → n.name ∈ values.keys) : told.IsSet := by
  intro m hm hname
  obtain ⟨n, hn, hset⟩ := mem_nodes_of_setAll h hm
  rw [ConditionNode.name_setAll hset] at hname
  exact ConditionNode.isSet_of_setAll hset hname (.inr (hcover n hn hname))

end Condition

/-- The faults that tell of a variable without a value. -/
inductive Fault.ValueWanted : Fault → Prop
  | pending (kind : String) (awaited : List String) : ValueWanted (.component (.pending kind awaited))
  | missing (name word literal : String) : ValueWanted (.condition (.valueMissing name word literal))

theorem Drawn.ofExcept_not_wanted {x : Except CanvasFault Canvas} {fault : Fault}
    (h : (Drawn.ofExcept x).2 = .error fault) : ¬ fault.ValueWanted := by
  cases x with
  | ok canvas => cases h
  | error e => cases h; rintro ⟨⟩

theorem TextLine.draw_not_wanted [Platform] {line : TextLine} {content : String} {canvas : Canvas} {fault : Fault}
    (h : (line.draw content canvas).2 = .error fault) : ¬ fault.ValueWanted := by
  simp only [TextLine.draw] at h
  split at h
  · cases h; rintro ⟨⟩
  · split at h <;> cases h
    rintro ⟨⟩

/-- A shape wants no value while it is drawn. -/
theorem Shape.draw_not_wanted [Platform] {shape : Shape} {canvas : Canvas} {fault : Fault}
    (h : (shape.draw canvas).2 = .error fault) : ¬ fault.ValueWanted := by
  cases shape with
  | rectangle | circle | image => exact Drawn.ofExcept_not_wanted h
  | text | datetime => exact TextLine.draw_not_wanted h
  | barcode b =>
    simp only [Shape.draw] at h
    split at h
    · cases h; rintro ⟨⟩
    · exact Drawn.ofExcept_not_wanted h

/-- A component for which nothing waits, under a condition that has all its values. -/
structure GatedComponent.Ready (g : GatedComponent) : Prop where
  slots : g.component.slots = []
  condition : g.condition.IsSet

namespace GatedComponent.Ready

variable {g : GatedComponent}

theorem isDrawn_not_wanted (h : g.Ready) {fault : ConditionFault} (hfault : g.isDrawn = .error fault) :
    ¬ (Fault.condition fault).ValueWanted := by
  unfold isDrawn at hfault
  split at hfault
  · cases hfault
  · obtain ⟨word, rfl⟩ := h.condition.validate_error hfault
    rintro ⟨⟩

theorem draw_not_wanted [Platform] (h : g.Ready) {canvas : Canvas} {fault : Fault}
    (hfault : (g.component.draw canvas).2 = .error fault) : ¬ fault.ValueWanted := by
  rw [Component.draw, h.slots] at hfault
  exact Shape.draw_not_wanted hfault

end GatedComponent.Ready

namespace Builder

section

variable [Platform] {files : FileTree} {values : Dictionary Value}

/-- Drawing components fails because one is not known to be drawn or cannot be drawn. -/
theorem drawEach_fault {place : Nat} {gs : List GatedComponent} {canvas reached : Canvas}
    {entries : List JournalEntry} {fault : Fault}
    (h : drawEach place gs canvas = (entries, reached, some fault)) :
    ∃ g ∈ gs, (∃ e, g.isDrawn = .error e ∧ fault = .condition e) ∨
      ∃ canvas, (g.component.draw canvas).2 = .error fault := by
  induction gs generalizing place canvas entries with
  | nil => cases h
  | cons g gs ih =>
    have hrest : ∀ {place canvas entries}, drawEach place gs canvas = (entries, reached, some fault) →
        ∃ g' ∈ g :: gs, (∃ e, g'.isDrawn = .error e ∧ fault = .condition e) ∨
          ∃ canvas, (g'.component.draw canvas).2 = .error fault := fun h =>
      (ih h).imp fun g' hg' => ⟨List.mem_cons_of_mem _ hg'.1, hg'.2⟩
    simp only [drawEach] at h
    split at h
    · rename_i e he
      cases h
      exact ⟨g, List.mem_cons_self, .inl ⟨e, he, rfl⟩⟩
    · cases hdraw : drawEach (place + 1) gs canvas with
      | mk told result =>
        rw [hdraw] at h
        cases h
        exact hrest hdraw
    · rw [IsComponent.draw_eq] at h
      split at h
      · rename_i told e he
        cases h
        exact ⟨g, List.mem_cons_self, .inr ⟨_, by rw [he]⟩⟩
      · rename_i told canvas' he
        cases hdraw : drawEach (place + 1) gs canvas' with
        | mk others result =>
          rw [hdraw] at h
          cases h
          exact hrest hdraw

theorem apply_fault {b : Builder} {failure : Failure} {s t : Session}
    (h : outcome b.apply s = (.error failure, t)) :
    failure.fault = .canvas .nothingToDrawOn ∨
      ∃ canvas entries reached, drawEach 0 b.components canvas = (entries, reached, some failure.fault) := by
  unfold apply at h
  split at h
  · cases h
    exact .inl rfl
  · rename_i canvas hcanvas
    cases hdraw : drawEach 0 b.components canvas with
    | mk entries result =>
      obtain ⟨reached, fault⟩ := result
      simp only [hdraw] at h
      cases fault with
      | none => cases h
      | some fault =>
        cases h
        exact .inr ⟨canvas, entries, reached, hdraw⟩

/-- A builder all of whose components are ready draws without wanting a value. -/
theorem apply_not_wanted {b : Builder} (hready : ∀ g ∈ b.components, g.Ready) {failure : Failure}
    {s t : Session} (h : outcome b.apply s = (.error failure, t)) : ¬ failure.fault.ValueWanted := by
  rcases apply_fault h with hcanvas | ⟨canvas, entries, reached, hdraw⟩
  · rw [hcanvas]; rintro ⟨⟩
  · obtain ⟨g, hg, ⟨e, he, hfault⟩ | ⟨canvas, hfault⟩⟩ := drawEach_fault hdraw
    · rw [hfault]
      exact (hready g hg).isDrawn_not_wanted he
    · exact (hready g hg).draw_not_wanted hfault

/-- A component that has been loaded and takes values for all that it waits for is ready. -/
theorem ready_of_supply {settings : Settings} {g g' : GatedComponent} {s t : Session}
    (hg : g.Loaded settings) (hslots : ∀ name ∈ g.component.slots.keys, name ∈ values.keys)
    (hnodes : ∀ n ∈ g.condition.nodes, n.name ≠ "" → n.name ∈ values.keys)
    (h : (g.supply files values).outcome s = (.ok g', t)) : g'.Ready := by
  obtain ⟨⟨u, hcomponent⟩, hcondition⟩ := GatedComponent.supply_ok h
  refine ⟨?_, Condition.isSet_of_setAll hcondition hnodes⟩
  rw [(Component.supply_ok hg.sound.occupied hcomponent).1, SlotMap.without, List.filter_eq_nil_iff]
  rintro ⟨name, names⟩ hentry
  have hkey := Dictionary.contains_iff.2 (hslots name (Dictionary.mem_keys_of_mem hentry))
  simp [hkey]

/-- The variables that a loaded template needs are those its slots and its conditions wait for, each
once. Supplying values for all of them, if it goes through, gives its components with the values, each under
its condition that has been told them, and nothing else has changed. Then no property waits and no node is
without its value, and drawing never fails for want of one. -/
theorem needed_suffices {b : Builder} (hb : b.Loaded) :
    (∀ name, name ∈ b.needed ↔ ∃ g ∈ b.components,
      name ∈ g.component.slots.keys ∨ (name ≠ "" ∧ ∃ n ∈ g.condition.nodes, n.name = name)) ∧
    b.needed.Nodup ∧
    ∀ files (values : Dictionary Value) b' s t, (∀ name ∈ b.needed, name ∈ values.keys) →
      outcome (b.supply files values) s = (.ok b', t) →
        b' = { b with components := b'.components } ∧
        List.Forall₂ (fun g g' => (∃ u v, (g.component.supply files values).outcome u = (.ok g'.component, v)) ∧
          g.condition.setAll values = .ok g'.condition) b.components b'.components ∧
        (∀ g ∈ b'.components, g.component.slots = [] ∧
          ∀ n ∈ g.condition.nodes, n.name ≠ "" → n.isSet = true) ∧
        ∀ u failure v, outcome b'.apply u = (.error failure, v) →
          (∀ kind awaited, failure.fault ≠ .component (.pending kind awaited)) ∧
          ∀ name word literal, failure.fault ≠ .condition (.valueMissing name word literal) := by
  refine ⟨fun name => hb.mem_needed, hb.nodup_needed, ?_⟩
  intro files values b' s t hcover hsupply
  have hresult : result (b.supply files values) s = some b' := by rw [result, hsupply]; rfl
  rw [(supply_eq files values b s).2] at hresult
  obtain ⟨gs, hgs, rfl⟩ := Option.map_eq_some_iff.1 hresult
  obtain ⟨u, hgs⟩ := Act.result_eq_some_iff.1 hgs
  have hsteps := Act.mapM_ok hgs
  have hready : ∀ g' ∈ gs, g'.Ready := by
    intro g' hg'
    obtain ⟨g, hg, u, v, hstep⟩ := exists_of_mem_right hsteps hg'
    refine ready_of_supply (hb.each g hg) (fun name hname => ?_) (fun n hn hname => ?_) hstep
    · exact hcover name (hb.mem_needed.2 ⟨g, hg, .inl hname⟩)
    · exact hcover n.name (hb.mem_needed.2 ⟨g, hg, .inr ⟨hname, n, hn, rfl⟩⟩)
  refine ⟨rfl, hsteps.imp ?_, fun g hg => ⟨(hready g hg).slots, (hready g hg).condition⟩, ?_⟩
  · rintro g g' ⟨u, v, hstep⟩
    obtain ⟨⟨w, hcomponent⟩, hcondition⟩ := GatedComponent.supply_ok hstep
    exact ⟨⟨u, w, hcomponent⟩, hcondition⟩
  intro u failure v hfailure
  have hwanted := apply_not_wanted hready hfailure
  refine ⟨fun kind awaited hfault => hwanted ?_, fun name word literal hfault => hwanted ?_⟩
  · rw [hfault]; exact .pending kind awaited
  · rw [hfault]; exact .missing name word literal

end

/-- A template of a rectangle at a place that waits for a variable, under a condition on another. -/
def gatedDocument : Json :=
  .object [("components", .array [.object [("type", .string "rectangle"),
    ("conditional", .object [("name", .string "shown"), ("operator", .string "startswith"),
      ("value", .string "y"), ("group", .object [("groupOperator", .string "nand"),
        ("conditionals", .array [.object [("name", .string "shown"), ("operator", .string "equals"),
          ("value", .string "yet")]])])]),
    ("properties", .object [("topLeftX", .string "$x$"), ("topLeftY", .string "$x$"),
      ("width", .string "3"), ("height", .string "4"),
      ("colour", .object [("R", .string "0"), ("G", .string "0"), ("B", .string "0"),
        ("A", .string "9")])])]])]

open scoped Plain in
theorem needed_suffices_gated :
    ∃ b b' : Builder, b.Loaded ∧ b.needed = ["x", "shown"] ∧
      (∃ s t, outcome (b.supply {} [("x", .json (.int 2)), ("shown", .text "yes")]) s = (.ok b', t)) ∧
      ∀ g ∈ b'.components, g.component.slots = [] ∧
        ∀ n ∈ g.condition.nodes, n.name ≠ "" → n.isSet = true := by
  have hrun : Act.passes (fun b => b.needed = ["x", "shown"] &&
      Act.passes (fun _ => true)
        (outcome (b.supply {} [("x", .json (.int 2)), ("shown", .text "yes")]) {}))
      ((loadDocument ⟨{}, default⟩ { registry := Registry.builtin, settings := {} }
        gatedDocument).outcome {}) = true := by
    rw [Registry.builtin_eq]
    decide +kernel
  obtain ⟨b, t, hload, htest⟩ := Act.exists_of_passes hrun
  obtain ⟨hneeded, hsupply⟩ := Bool.and_eq_true_iff.1 htest
  have hneeded : b.needed = ["x", "shown"] := of_decide_eq_true hneeded
  obtain ⟨b', u, hsupply, -⟩ := Act.exists_of_passes hsupply
  have hb : b.Loaded := ⟨_, _, _, _, _, hload⟩
  obtain ⟨-, -, hready, -⟩ := (needed_suffices hb).2.2 _ _ b' {} u (by rw [hneeded]; decide) hsupply
  exact ⟨b, b', hb, hneeded, ⟨{}, u, hsupply⟩, hready⟩

end Builder

end PageTemplate
