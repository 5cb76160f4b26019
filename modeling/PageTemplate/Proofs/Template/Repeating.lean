/-
Supplying values again and again, where a variable may get another value than
before (`first_written_last_compared`).

A component takes the first value of a variable, for then nothing waits for it
any more. A condition compares every value that comes, and knows of the last
one only. Both go by one value while the variable is given no other.
-/
import PageTemplate.Platform.Plain
import PageTemplate.Proofs.Component.Writing
import PageTemplate.Proofs.Registry.Registering
import PageTemplate.Proofs.Template.Supplying

namespace PageTemplate

/-- Every node of a variable has compared a value: it holds what came of that, and is else what it was. -/
def Condition.Compared [Platform] (name : String) (value : Value) (c told : Condition) : Prop :=
  List.Forall₂ (fun n m => n.name = name → ∃ truth, n.compare value = .ok truth ∧ m = n.decided truth)
    c.nodes told.nodes

/-- Once values have been told, the nodes of a variable have compared the last one of it. -/
theorem Condition.compared_last [Platform] {c told : Condition} {values : Dictionary Value}
    (h : c.setAll values = .ok told) {name : String} (hname : name ≠ "") {last : Value}
    (hlast : Dictionary.get? values.reverse name = some last) : Compared name last c told := by
  refine (forall₂_nodes_of_setAll h).imp fun n m hset hn => ?_
  subst hn
  exact ConditionNode.setAll_last hname hset hlast

namespace GatedComponent

variable [Platform]

/-- What values make of a component and its condition, in one portion or in several. -/
structure Took (values : Dictionary Value) (g g' : GatedComponent) : Prop where
  slots : g'.component.slots = g.component.slots.without values
  settings : g'.component.settings = g.component.settings
  written : Shape.Written (g.component.settings.getD {}) g.component.shape
    (g.component.slots.handed values) g'.component.shape
  told : g.condition.setAll values = .ok g'.condition

variable {files : FileTree} {values others : Dictionary Value} {g g' g'' : GatedComponent}

theorem Took.refl (g : GatedComponent) : Took [] g g :=
  ⟨(SlotMap.without_nil _).symm, rfl, .nil, rfl⟩

theorem took_of_supply (hg : g.component.slots.Occupied) {s t : Session}
    (h : (g.supply files values).outcome s = (.ok g', t)) : Took values g g' := by
  obtain ⟨⟨u, hcomponent⟩, htold⟩ := supply_ok h
  obtain ⟨hslots, -, hsettings⟩ := Component.supply_ok hg hcomponent
  exact ⟨hslots, hsettings, Component.written_of_supply hg hcomponent, htold⟩

theorem Took.occupied (h : Took values g g') (hg : g.component.slots.Occupied) :
    g'.component.slots.Occupied := fun entry hentry => by
  rw [h.slots] at hentry
  exact hg entry ((SlotMap.without_sublist _ _).subset hentry)

/-- Further values go where the former have left something to wait. -/
theorem Took.trans (hg : g.component.slots.Occupied) (h : Took values g g') (h' : Took others g' g'') :
    Took (values ++ others) g g'' where
  slots := by rw [h'.slots, h.slots, SlotMap.without_append]
  settings := h'.settings.trans h.settings
  written := by
    have hrest := h'.written
    rw [h.settings, h.slots] at hrest
    rw [SlotMap.handed_append hg]
    exact h.written.append hrest
  told := by
    rw [Condition.setAll_append, h.told]
    exact h'.told

/-- The first value of a variable is what its properties get, and the last one what its conditions
compare. -/
theorem Took.first_and_last {settings : Settings} (hg : g.Loaded settings) (h : Took values g g')
    {name : String} {names : List String} (hslots : (name, names) ∈ g.component.slots)
    (hname : name ∈ g.condition.names) (hvalues : name ∈ values.keys) :
    ∃ first last, values.get? name = some first ∧ Dictionary.get? values.reverse name = some last ∧
      (∀ property ∈ names, ∀ value,
        (property, value) ∈ g.component.slots.handed values ↔ value = first) ∧
      Condition.Compared name last g.condition g'.condition := by
  have hreverse : name ∈ Dictionary.keys values.reverse := by
    rw [Dictionary.keys, List.map_reverse]
    exact List.mem_reverse.2 hvalues
  obtain ⟨first, hfirst⟩ := Option.isSome_iff_exists.1 (Dictionary.get?_isSome_iff.2 hvalues)
  obtain ⟨last, hlast⟩ := Option.isSome_iff_exists.1 (Dictionary.get?_isSome_iff.2 hreverse)
  refine ⟨first, last, hfirst, hlast, fun property hproperty value => ?_, ?_⟩
  · have hsound := hg.sound
    have hhanded : (property, first) ∈ g.component.slots.handed values :=
      SlotMap.mem_handed_of_get? hsound.distinct hsound.occupied hslots hproperty hfirst
    have honce : Dictionary.Distinct (g.component.slots.handed values) :=
      SlotMap.nodup_handed hsound.distinct hsound.occupied hsound.nodup values
    constructor
    · intro hvalue
      exact honce.consistent property value first hvalue hhanded
    · rintro rfl
      exact hhanded
  · exact Condition.compared_last h.told (Condition.mem_names.1 hname).1 hlast

end GatedComponent

namespace Builder

section

variable [Platform]

/-- The builders that portions of values give, supplied one after the other, whatever the files and the
session are each time. -/
inductive Supplied (b : Builder) : List (Dictionary Value) → Builder → Prop
  | start : Supplied b [] b
  | supply {portions : List (Dictionary Value)} {values : Dictionary Value} {c d : Builder}
      {files : FileTree} {s : Session} :
    Supplied b portions c → result (c.supply files values) s = some d → Supplied b (portions ++ [values]) d

variable {b b' : Builder} {portions : List (Dictionary Value)}

theorem took_of_supply {files : FileTree} {values : Dictionary Value} {s : Session}
    (hb : ∀ g ∈ b.components, g.component.slots.Occupied) (h : result (b.supply files values) s = some b') :
    List.Forall₂ (GatedComponent.Took values) b.components b'.components := by
  obtain ⟨gs, t, hrun, rfl⟩ := result_supply_eq_some_iff.1 h
  refine ((List.forall₂_and_left _ _).2 ⟨hb, Act.mapM_ok hrun⟩).imp ?_
  rintro g g' ⟨hg, u, v, hstep⟩
  exact GatedComponent.took_of_supply hg hstep

/-- However the values are portioned, every component takes them as they come. -/
theorem Supplied.took (hb : ∀ g ∈ b.components, g.component.slots.Occupied) (h : Supplied b portions b') :
    List.Forall₂ (GatedComponent.Took portions.flatten) b.components b'.components := by
  induction h with
  | start => exact List.forall₂_same.2 fun g _ => .refl g
  | @supply portions values c d files s _ hstep ih =>
    have hboth := (List.forall₂_and_left _ _).2 ⟨hb, ih⟩
    have hc : ∀ g' ∈ c.components, g'.component.slots.Occupied := fun g' hg' => by
      obtain ⟨g, -, hg, htook⟩ := exists_of_mem_right hboth hg'
      exact htook.occupied hg
    rw [List.flatten_append, List.flatten_singleton]
    refine (forall₂_comp hboth (took_of_supply hc hstep)).imp ?_
    rintro g g'' ⟨g', ⟨hg, hfirst⟩, hsecond⟩
    exact hfirst.trans hg hsecond

/-- A loaded template is supplied with values again and again, and a variable may get several. A property
that waits for it is written once, with the first of them. The conditions on it know what comes of the
last. So they know what comes of the value that is written if the variable is given no other. -/
theorem first_written_last_compared (hb : b.Loaded) (h : Supplied b portions b') :
    List.Forall₂ (fun g g' => ∃ writes,
      Shape.Written b.settings g.component.shape writes g'.component.shape ∧
      (writes.map (·.1)).Nodup ∧
      ∀ name names, (name, names) ∈ g.component.slots → name ∈ g.condition.names →
        name ∈ Dictionary.keys portions.flatten →
        ∃ first last, Dictionary.get? portions.flatten name = some first ∧
          Dictionary.get? portions.flatten.reverse name = some last ∧
          (∀ property ∈ names, ∀ value, (property, value) ∈ writes ↔ value = first) ∧
          Condition.Compared name last g.condition g'.condition ∧
          ((∀ value, (name, value) ∈ portions.flatten → value = first) →
            Condition.Compared name first g.condition g'.condition))
      b.components b'.components := by
  have htook := h.took fun g hg => (hb.each g hg).sound.occupied
  refine ((List.forall₂_and_left _ _).2 ⟨hb.each, htook⟩).imp ?_
  rintro g g' ⟨hg, htook⟩
  have hwritten := htook.written
  rw [hg.settings_eq] at hwritten
  refine ⟨_, hwritten, SlotMap.nodup_handed hg.sound.distinct hg.sound.occupied hg.sound.nodup _, ?_⟩
  intro name names hslots hname hvalues
  obtain ⟨first, last, hfirst, hlast, hwrites, hcompared⟩ := htook.first_and_last hg hslots hname hvalues
  refine ⟨first, last, hfirst, hlast, hwrites, hcompared, fun hsame => ?_⟩
  have hlast := hsame last (List.mem_reverse.1 (Dictionary.mem_of_get? hlast))
  exact hlast ▸ hcompared

end

/-- The node that says that the variable is one. -/
def isOneNode : ConditionNode := { name := "x", operator := "==", literal := "1" }

/-- The rectangle once its place is known. -/
def boxAtOne : Shape := .rectangle { topLeft := ⟨1, 0⟩, width := 3, height := 4, colour := ⟨0, 0, 0, 9⟩ }

open scoped Plain in
/-- A rectangle that is placed by a variable and drawn if that is one, supplied first with one and then
with two. -/
theorem box_supplied_twice :
    ∃ (b b' : Builder) (g g' : GatedComponent), b.Loaded ∧
      Supplied b [[("x", .json (.int 1))], [("x", .json (.int 2))]] b' ∧
      b.components = [g] ∧ b'.components = [g'] ∧
      g.component.slots = [("x", ["topLeftX"])] ∧ g.condition.nodes = [isOneNode] ∧
      g'.component.shape = boxAtOne ∧ g'.condition.nodes = [isOneNode.decided false] := by
  have hrun : Act.passes (fun b =>
      b.components.map (fun g => (g.component.slots, g.condition.nodes)) =
        [([("x", ["topLeftX"])], [isOneNode])] &&
      (result (b.supply {} [("x", .json (.int 1))]) {}).any fun c =>
        (result (c.supply {} [("x", .json (.int 2))]) {}).any fun d =>
          d.components.map (fun g => (g.component.shape, g.condition.nodes)) =
            [(boxAtOne, [isOneNode.decided false])])
      ((loadDocument ⟨{}, default⟩ { registry := Registry.builtin, settings := {} }
        (boxDocument isOne)).outcome {}) = true := by
    rw [Registry.builtin_eq]
    decide +kernel
  obtain ⟨b, t, hload, htest⟩ := Act.exists_of_passes hrun
  simp only [Bool.and_eq_true, decide_eq_true_eq, Option.any_eq_true, List.map_eq_singleton_iff,
    Prod.mk.injEq] at htest
  obtain ⟨⟨g, hg, hslots, hnodes⟩, c, hfirst, b', hsecond, g', hg', hshape, hdecided⟩ := htest
  exact ⟨b, b', g, g', ⟨_, _, _, _, _, hload⟩, .supply (.supply .start hfirst) hsecond, hg, hg', hslots, hnodes,
    hshape, hdecided⟩

open scoped Plain in
theorem first_written_last_compared_box :
    ∃ (b b' : Builder) (g g' : GatedComponent), b.Loaded ∧
      Supplied b [[("x", .json (.int 1))], [("x", .json (.int 2))]] b' ∧
      b.components = [g] ∧ b'.components = [g'] ∧
      (∃ writes, Shape.Written b.settings g.component.shape writes g'.component.shape ∧
        ∀ value, ("topLeftX", value) ∈ writes ↔ value = .json (.int 1)) ∧
      Condition.Compared "x" (.json (.int 2)) g.condition g'.condition := by
  obtain ⟨b, b', g, g', hb, h, hg, hg', hslots, hnodes, -, -⟩ := box_supplied_twice
  have hpairs := first_written_last_compared hb h
  rw [hg, hg'] at hpairs
  cases hpairs with
  | cons hpair _ =>
    obtain ⟨writes, hwritten, -, hpair⟩ := hpair
    have hslot : ("x", ["topLeftX"]) ∈ g.component.slots := by rw [hslots]; exact List.mem_singleton_self _
    have hname : "x" ∈ g.condition.names := by
      rw [Condition.mem_names, hnodes]
      exact ⟨by decide, isOneNode, List.mem_singleton_self _, rfl⟩
    obtain ⟨first, last, hfirst, hlast, hwrites, hcompared, -⟩ := hpair "x" _ hslot hname (by decide)
    obtain rfl : .json (.int 1) = first := Option.some.inj hfirst
    obtain rfl : .json (.int 2) = last := Option.some.inj hlast
    exact ⟨b, b', g, g', hb, h, hg, hg', ⟨writes, hwritten, hwrites "topLeftX" (List.mem_singleton_self _)⟩,
      hcompared⟩

open scoped Plain in
/-- The rectangle stays where the first value has put it, and its condition goes by the last: it does not
know what comes of the value that has been written. -/
theorem written_value_not_compared :
    ∃ (b b' : Builder) (g g' : GatedComponent), b.Loaded ∧
      Supplied b [[("x", .json (.int 1))], [("x", .json (.int 2))]] b' ∧
      b.components = [g] ∧ b'.components = [g'] ∧
      g.component.slots = [("x", ["topLeftX"])] ∧ g.condition.nodes = [isOneNode] ∧
      Shape.Written b.settings g.component.shape [("topLeftX", .json (.int 1))] g'.component.shape ∧
      g'.component.shape = boxAtOne ∧
      ¬ Condition.Compared "x" (.json (.int 1)) g.condition g'.condition := by
  obtain ⟨b, b', g, g', hb, h, hg, hg', hslots, hnodes, hshape, hdecided⟩ := box_supplied_twice
  have hloaded := hb.each g (hg ▸ List.mem_singleton_self g)
  have htook := h.took fun g hg => (hb.each g hg).sound.occupied
  rw [hg, hg'] at htook
  cases htook with
  | cons htook _ =>
    have hwritten := htook.written
    rw [hloaded.settings_eq, hslots] at hwritten
    refine ⟨b, b', g, g', hb, h, hg, hg', hslots, hnodes, hwritten, hshape, fun hcompared => ?_⟩
    rw [Condition.Compared, hnodes, hdecided] at hcompared
    cases hcompared with
    | cons hnode _ =>
      obtain ⟨truth, htruth, hsame⟩ := hnode rfl
      obtain rfl : truth = false := (congrArg ConditionNode.holds hsame).symm
      have hone : isOneNode.compare (.json (.int 1)) = .ok true := by decide +kernel
      rw [hone] at htruth
      cases htruth

end Builder

end PageTemplate
