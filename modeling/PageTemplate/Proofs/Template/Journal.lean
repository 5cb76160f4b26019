/-
Templates and the journal. Loading a document, supplying values and drawing
write to the journal and never read it, so a page that is rendered, or the fault
in its place, does not depend on what the journal held before
(`Builder.ignoresJournal_loadFile`, `Builder.ignoresJournal_supply`,
`Builder.ignoresJournal_apply`).
-/
import PageTemplate.Proofs.Component.Unasked
import PageTemplate.Proofs.Template.Supplying

namespace PageTemplate

/-- Components that take values without a look into the journal. -/
class IsComponent.IgnoresJournal (κ : Type) [IsComponent κ] : Prop where
  supply (files : FileTree) (values : Dictionary Value) (c : κ) :
    PageTemplate.IgnoresJournal (IsComponent.supply files values c)

/-- Kinds whose components are loaded without a look into the journal. -/
class IsKind.IgnoresJournal (μ : Type) (κ : outParam Type) [IsKind μ κ] : Prop where
  load (files : FileTree) (settings : Settings) (now : Calendar.Moment) (kind : μ) (properties : Json) :
    PageTemplate.IgnoresJournal (IsKind.load files settings now kind properties)

/-! ## Drawing, and what tells of no builder -/

variable {μ κ : Type}

namespace Builder

/-- Without a builder to tell of, an action ignores the journal as it does alone. -/
theorem ignoresJournal_ofAct {α : Type} {act : Act α} (h : IgnoresJournal act) :
    IgnoresJournal (ofAct act : BuilderAct μ κ α) := by
  have hrun : ∀ s, (ExceptT.run (ofAct act : BuilderAct μ κ α)).run s =
      ((act.outcome s).1.mapError fun fault => { fault := fault }, (act.outcome s).2) := fun s => by
    unfold ofAct Act.outcome
    rw [ExceptT.run_mk, StateT.run_bind]
    rcases StateT.run (ExceptT.run act) s with ⟨_ | a, t⟩ <;> rfl
  intro s t hst
  obtain ⟨hsame, hafter⟩ : (act.outcome s).1 = (act.outcome t).1 ∧
    (act.outcome s).2.Alike (act.outcome t).2 := h s t hst
  rw [hrun, hrun, hsame]
  exact ⟨rfl, hafter⟩

theorem ignoresJournal_apply [IsComponent κ] (b : Builder μ κ) : IgnoresJournal b.apply := by
  unfold apply
  split
  · exact .throw _
  · refine .bind (fun _ _ hst => ⟨rfl, hst⟩) fun _ => ?_
    split
    · exact .pure _
    · exact .throw _

end Builder

/-! ## Reading properties -/

variable [Platform]

namespace Reading

variable {files : FileTree} {settings : Settings}

theorem ignoresJournal_assign (r : Reading) (p : Property) (literal : Literal) :
    IgnoresJournal (r.assign files settings p literal) := by
  unfold Reading.assign
  split
  · exact .pure _
  · refine .bind (Act.sequential_ignoresJournal.ofExcept _) fun symbology => ?_
    exact .bind (r.shape.ignoresJournal_assign files settings _ _) fun shape => .pure _
  · exact .bind (r.shape.ignoresJournal_assign files settings _ _) fun shape => .pure _

theorem ignoresJournal_take (r : Reading) (p : Property) (slots : SlotMap) (value : Option Literal) :
    IgnoresJournal (r.take files settings p slots value) := by
  cases value with
  | none => exact .pure _
  | some literal => exact ignoresJournal_assign _ p literal

theorem ignoresJournal_readText (r : Reading) (f : FieldSpec) (text : String) :
    IgnoresJournal (r.readText files settings f text) :=
  .bind (Act.sequential_ignoresJournal.ofExcept _) fun found => r.ignoresJournal_take _ found.1 found.2

theorem ignoresJournal_readGroup (properties : Json) (r : Reading) (group : FieldGroup) :
    IgnoresJournal (readGroup files settings properties r group) := by
  cases group with
  | single f =>
    exact .bind (Act.sequential_ignoresJournal.ofExcept _) fun text => r.ignoresJournal_readText f text
  | optional f =>
    refine .bind (Act.sequential_ignoresJournal.ofExcept _) fun text => ?_
    split
    · exact .pure _
    · exact r.ignoresJournal_readText f text
  | exclusive fields =>
    refine .bind (Act.sequential_ignoresJournal.ofExcept _) fun texts => ?_
    refine .bind (Act.sequential_ignoresJournal.ofExcept _) fun found => ?_
    simp only
    split
    · exact r.ignoresJournal_take _ found.1 found.2.1
    · exact .pure _

theorem ignoresJournal_readGroups (properties : Json) (r : Reading) (groups : List FieldGroup) :
    IgnoresJournal (readGroups files settings properties r groups) := by
  induction groups generalizing r with
  | nil => exact .pure r
  | cons group groups ih => exact .bind (ignoresJournal_readGroup properties r group) fun r => ih r

end Reading

theorem Component.ignoresJournal_load (files : FileTree) (settings : Settings) (now : Calendar.Moment)
    (kind : ShapeKind) (properties : Json) : IgnoresJournal (load files settings now kind properties) := by
  unfold Component.load
  split
  · refine .bind (Reading.ignoresJournal_readGroups _ _ _) fun read => ?_
    exact .bind (Act.sequential_ignoresJournal.ofExcept _) fun shape => .pure _
  · exact .throw _

instance : IsKind.IgnoresJournal ShapeKind Component where
  load := Component.ignoresJournal_load

instance : IsComponent.IgnoresJournal Component where
  supply files values c := c.ignoresJournal_supply files values

namespace GatedComponent

theorem ignoresJournal_supplyConditions (values : Dictionary Value) (c : Condition) :
    IgnoresJournal (supplyConditions values c) :=
  Act.sequential_ignoresJournal.foldlM (fun entry _ c =>
    .bind (Act.ignoresJournal_tell (c.entries entry.1 entry.2).1) fun _ =>
      Act.sequential_ignoresJournal.ofExcept (c.set entry.1 entry.2)) c

theorem ignoresJournal_supply [IsComponent κ] [IsComponent.IgnoresJournal κ] (files : FileTree)
    (values : Dictionary Value) (g : GatedComponent κ) :
    IgnoresJournal (g.supply files values) := by
  refine .bind (IsComponent.IgnoresJournal.supply files values g.component) fun component => ?_
  exact .bind (ignoresJournal_supplyConditions values g.condition) fun condition => .pure _

end GatedComponent

namespace Builder

/-! ## Loading -/

section Loading

variable [IsKind μ κ] [IsKind.IgnoresJournal μ κ] (around : Surroundings)

theorem ignoresJournal_loadEntry (registry : Registry μ) (settings : Settings) (place : Nat) (entry : Json) :
    IgnoresJournal (loadEntry around registry settings place entry) := by
  unfold loadEntry
  split
  · refine .bind (Act.sequential_ignoresJournal.ofExcept _) fun type => ?_
    refine .bind (Act.sequential_ignoresJournal.ofExcept _) fun condition => ?_
    refine .bind (IsKind.IgnoresJournal.load _ _ _ _ _) fun component => ?_
    exact .bind (Act.ignoresJournal_tell _) fun _ => .pure _
  · exact .throw _

theorem ignoresJournal_loadEntries (registry : Registry μ) (settings : Settings) (place : Nat)
    (entries : List Json) : IgnoresJournal (loadEntries around registry settings place entries) := by
  induction entries generalizing place with
  | nil => exact .pure []
  | cons entry entries ih =>
    refine .bind (ignoresJournal_loadEntry around registry settings place entry) fun g => ?_
    exact .bind (ih (place + 1)) fun others => .pure _

theorem ignoresJournal_loadDocument [IsComponent κ] (b : Builder μ κ) (document : Json) :
    IgnoresJournal (b.loadDocument around document) := by
  unfold loadDocument
  split
  · refine .bind (Act.sequential_ignoresJournal.ofExcept _) fun found => ?_
    refine .bind (Act.ignoresJournal_tell _) fun _ => ?_
    refine .bind (Act.sequential_ignoresJournal.ofExcept _) fun entries => ?_
    refine .bind (ignoresJournal_loadEntries around _ _ _ _) fun components => ?_
    exact .bind (Act.ignoresJournal_tell _) fun _ => .pure _
  · exact .throw _

theorem ignoresJournal_loadFile [IsComponent κ] (b : Builder μ κ) (path : String) :
    IgnoresJournal (b.loadFile around path) := by
  simp only [loadFile]
  split
  · exact .throw _
  · exact .bind (Act.sequential_ignoresJournal.ofExcept _) fun document =>
      b.ignoresJournal_loadDocument around document

end Loading

/-! ## Supplying -/

variable [IsComponent κ] [IsComponent.IgnoresJournal κ]

/-- Components take values from sessions that are alike up to the same one of them. -/
theorem alike_supplyEach (files : FileTree) (values : Dictionary Value) (gs : List (GatedComponent κ))
    {s t : Session} (hst : s.Alike t) :
    ((supplyEach files values gs).run s).1 = ((supplyEach files values gs).run t).1 ∧
      ((supplyEach files values gs).run s).2.Alike ((supplyEach files values gs).run t).2 := by
  induction gs generalizing s t with
  | nil => exact ⟨rfl, hst⟩
  | cons g gs ih =>
    obtain ⟨hsame, hafter⟩ : ((g.supply files values).outcome s).1 = ((g.supply files values).outcome t).1 ∧
      ((g.supply files values).outcome s).2.Alike ((g.supply files values).outcome t).2 :=
        g.ignoresJournal_supply files values s t hst
    rw [run_supplyEach_cons, run_supplyEach_cons]
    rcases hs : (g.supply files values).outcome s with ⟨result, s'⟩
    rcases ht : (g.supply files values).outcome t with ⟨result', t'⟩
    rw [hs, ht] at hsame hafter
    obtain rfl : result = result' := hsame
    cases result with
    | error fault => exact ⟨rfl, hafter⟩
    | ok supplied =>
      obtain ⟨hothers, hlast⟩ := ih hafter
      exact ⟨congrArg (fun x => (supplied :: x.1, x.2)) hothers, hlast⟩

theorem ignoresJournal_supply (files : FileTree) (values : Dictionary Value) (b : Builder μ κ) :
    IgnoresJournal (b.supply files values) := by
  intro s t hst
  obtain ⟨hsame, hafter⟩ := alike_supplyEach files values b.components hst
  change (outcome _ _).1 = (outcome _ _).1 ∧ (outcome _ _).2.Alike (outcome _ _).2
  rw [supply, outcome_lift_bind, outcome_lift_bind, ← hsame]
  rcases ((supplyEach files values b.components).run s).1 with ⟨reached, _ | fault⟩
  · exact ⟨rfl, hafter⟩
  · exact ⟨rfl, hafter⟩

end Builder

end PageTemplate
