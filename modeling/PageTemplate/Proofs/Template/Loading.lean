/-
Builders that a document was loaded into. Each of their components has been
loaded by its kind, each of their conditions has been read (`Loaded.each`), and
the variables they need are noted once each (`Loaded.mem_needed`,
`Loaded.nodup_needed`).
-/
import PageTemplate.Proofs.Component.Supplying
import PageTemplate.Proofs.Condition.Nodes
import PageTemplate.Template.Builder

namespace PageTemplate

namespace Builder

/-! ## Noting variables -/

theorem mem_foldl_noteVariable {name : String} {noted names : List String} :
    name ∈ names.foldl noteVariable noted ↔ name ∈ noted ∨ name ∈ names := by
  induction names generalizing noted with
  | nil => simp
  | cons first names ih =>
    rw [List.foldl_cons, ih, noteVariable, List.mem_cons]
    split
    · rename_i hknown
      have hknown : first ∈ noted := List.contains_iff_mem.1 hknown
      constructor
      · rintro (h | h)
        · exact .inl h
        · exact .inr (.inr h)
      · rintro (h | rfl | h)
        · exact .inl h
        · exact .inl hknown
        · exact .inr h
    · simp [or_assoc]

theorem nodup_foldl_noteVariable {noted names : List String} (h : noted.Nodup) :
    (names.foldl noteVariable noted).Nodup := by
  induction names generalizing noted with
  | nil => exact h
  | cons first names ih =>
    rw [List.foldl_cons]
    refine ih ?_
    rw [noteVariable]
    split
    · exact h
    · rename_i hnew
      have hnew : first ∉ noted := fun hmem => hnew (List.contains_iff_mem.2 hmem)
      exact List.nodup_append.2 ⟨h, List.nodup_singleton first, fun a ha b hb he => by
        rw [List.mem_singleton.1 hb] at he
        exact hnew (he ▸ ha)⟩

end Builder

/-! ## Loading -/

variable [Platform]

/-- A component that has been loaded, under a condition that has been read. -/
structure GatedComponent.Loaded (settings : Settings) (g : GatedComponent) : Prop where
  condition : ∃ json, Condition.ofJson json = .ok g.condition
  component : ∃ files now kind properties s t,
    (Component.load files settings now kind properties).outcome s = (.ok g.component, t)

namespace GatedComponent.Loaded

variable {settings : Settings} {g : GatedComponent}

theorem sound (h : g.Loaded settings) : g.component.slots.Sound g.component.shape.kind := by
  obtain ⟨files, now, kind, properties, s, t, hload⟩ := h.component
  rw [(Component.load_ok hload).2.1]
  exact Component.sound_of_load hload

theorem settings_eq (h : g.Loaded settings) : g.component.settings = some settings := by
  obtain ⟨files, now, kind, properties, s, t, hload⟩ := h.component
  exact (Component.load_ok hload).2.2.1

end GatedComponent.Loaded

namespace Builder

variable {around : Surroundings} {registry : Registry} {settings : Settings} {s t : Session}

theorem loadEntry_ok {place : Nat} {entry : Json} {g : GatedComponent}
    (h : (loadEntry around registry settings place entry).outcome s = (.ok g, t)) :
    g.Loaded settings := by
  unfold loadEntry at h
  split at h
  · obtain ⟨type, u, -, h⟩ := Act.outcome_bind_ok.1 h
    obtain ⟨condition, u, hcondition, h⟩ := Act.outcome_bind_ok.1 h
    obtain ⟨component, u', hcomponent, h⟩ := Act.outcome_bind_ok.1 h
    obtain ⟨_, u'', -, h⟩ := Act.outcome_bind_ok.1 h
    cases h
    refine ⟨⟨_, (Act.outcome_ofExcept_ok.1 hcondition).1⟩, ?_⟩
    exact ⟨_, _, _, _, _, _, hcomponent⟩
  · cases h

theorem loadEntries_ok {place : Nat} {entries : List Json} {gs : List GatedComponent}
    (h : (loadEntries around registry settings place entries).outcome s = (.ok gs, t)) :
    ∀ g ∈ gs, g.Loaded settings := by
  induction entries generalizing place gs s with
  | nil => cases h; simp
  | cons entry entries ih =>
    obtain ⟨g, u, hg, h⟩ := Act.outcome_bind_ok.1 h
    obtain ⟨others, u', hothers, h⟩ := Act.outcome_bind_ok.1 h
    cases h
    exact List.forall_mem_cons.2 ⟨loadEntry_ok hg, ih hothers⟩

/-- The builders that loading a document gives, wherever and over whatever it is loaded. -/
def Loaded (b : Builder) : Prop :=
  ∃ around start document s t, (loadDocument around start document).outcome s = (.ok b, t)

theorem loaded_of_loadText {b b' : Builder} {text : String}
    (h : (b.loadText around text).outcome s = (.ok b', t)) : b'.Loaded := by
  obtain ⟨document, u, -, h⟩ := Act.outcome_bind_ok.1 h
  exact ⟨_, _, _, _, _, h⟩

theorem loaded_of_loadBytes {b b' : Builder} {bytes : List UInt8}
    (h : (b.loadBytes around bytes).outcome s = (.ok b', t)) : b'.Loaded := by
  obtain ⟨document, u, -, h⟩ := Act.outcome_bind_ok.1 h
  exact ⟨_, _, _, _, _, h⟩

theorem loaded_of_loadFile {b b' : Builder} {path : String}
    (h : (b.loadFile around path).outcome s = (.ok b', t)) : b'.Loaded := by
  simp only [loadFile] at h
  split at h
  · cases h
  · exact loaded_of_loadBytes h

namespace Loaded

variable {b : Builder}

theorem each_and_needed (hb : b.Loaded) :
    (∀ g ∈ b.components, g.Loaded b.settings) ∧ b.needed = allVariables b.components := by
  obtain ⟨around, start, document, s, t, h⟩ := hb
  unfold loadDocument at h
  split at h
  · obtain ⟨⟨canvas, told⟩, u, -, h⟩ := Act.outcome_bind_ok.1 h
    obtain ⟨_, u', -, h⟩ := Act.outcome_bind_ok.1 h
    obtain ⟨entries, u'', -, h⟩ := Act.outcome_bind_ok.1 h
    obtain ⟨components, u''', hcomponents, h⟩ := Act.outcome_bind_ok.1 h
    obtain ⟨_, _, -, h⟩ := Act.outcome_bind_ok.1 h
    cases h
    exact ⟨loadEntries_ok hcomponents, rfl⟩
  · cases h

theorem each (hb : b.Loaded) : ∀ g ∈ b.components, g.Loaded b.settings := hb.each_and_needed.1

/-- The variables that a template needs are those its slots and its conditions wait for. -/
theorem mem_needed (hb : b.Loaded) {name : String} :
    name ∈ b.needed ↔ ∃ g ∈ b.components,
      name ∈ g.component.slots.keys ∨ (name ≠ "" ∧ ∃ n ∈ g.condition.nodes, n.name = name) := by
  rw [hb.each_and_needed.2, allVariables, mem_foldl_noteVariable]
  simp only [List.not_mem_nil, false_or, List.mem_flatMap, variablesOf, IsComponent.awaited_eq, List.mem_append,
    Condition.mem_names]

theorem nodup_needed (hb : b.Loaded) : b.needed.Nodup := by
  rw [hb.each_and_needed.2]
  exact nodup_foldl_noteVariable List.nodup_nil

end Loaded

/-- A template of a rectangle at a place that waits for a variable, under some condition. -/
def boxDocument (conditional : Json) : Json :=
  .object [("components", .array [.object [("type", .string "rectangle"), ("conditional", conditional),
    ("properties", .object [("topLeftX", .string "$x$"), ("topLeftY", .string "0"),
      ("width", .string "3"), ("height", .string "4"),
      ("colour", .object [("R", .string "0"), ("G", .string "0"), ("B", .string "0"),
        ("A", .string "9")])])]])]

/-- The condition that its variable is one. -/
def isOne : Json :=
  .object [("name", .string "x"), ("operator", .string "=="), ("value", .string "1")]

end Builder

end PageTemplate
