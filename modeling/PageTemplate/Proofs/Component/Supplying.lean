/-
Supplying values to a component: the shape takes the values that something
waits for, one variable after the other (`supply_eq`), and the supplied names
leave the slots (`supply_ok`).

A component that has been loaded, and every one reached from it by supplying
values, waits for properties that its shape has (`load_agrees`).
-/
import PageTemplate.Platform.Plain
import PageTemplate.Proofs.Component.Waiting

namespace PageTemplate

namespace Component

section

variable [Platform]

/-- Serves one variable: the properties of the shape that wait for it get the value. -/
def serve (files : FileTree) (settings : Settings) (shape : Shape)
    (entry : String × List String × Value) : Act Shape :=
  SlotMap.serve (fun shape name v => shape.assignNamed files settings name v) tellResolved shape entry

theorem supply_eq (files : FileTree) (values : Dictionary Value) {c : Component}
    (h : c.slots.Occupied) :
    c.supply files values = do
      let shape ← (c.slots.served values).foldlM (serve files (c.settings.getD {})) c.shape
      return { c with shape := shape, slots := c.slots.without values } := by
  unfold supply
  simp only [SlotMap.supply_eq _ _ values c.shape h, bind_assoc, pure_bind]
  rfl

section Serve

variable {files : FileTree} {settings : Settings} {entry : String × List String × Value}

theorem kind_serve {shape shape' : Shape} {s t : Session}
    (h : (serve files settings shape entry).outcome s = (.ok shape', t)) : shape'.kind = shape.kind := by
  obtain ⟨reached, u, hassign, h⟩ := Act.outcome_bind_ok.1 h
  obtain ⟨_, u', -, h⟩ := Act.outcome_bind_ok.1 h
  cases h
  rw [SlotMap.assignAll_eq] at hassign
  exact Act.foldlM_ok (P := fun reached => reached.kind = shape.kind)
    (fun _ _ _ _ _ _ hkind hstep => (Shape.kind_assignNamed hstep).trans hkind) rfl hassign

/-- Serving a variable refuses no property if the shape has all that wait for it. -/
theorem avoids_serve {shape : Shape} (h : ∀ name ∈ entry.2.1, ∃ p ∈ shape.kind.properties, p.name = name) :
    Act.Avoids Fault.RefusesProperty (serve files settings shape entry) := by
  refine Act.avoids_bind ?_ fun reached => Act.avoids_bind (Act.avoids_tell _) fun _ => Act.avoids_pure _
  rw [SlotMap.assignAll_eq]
  intro s fault t hfault
  obtain ⟨name, hname, reached, u, hkind, hstep⟩ :=
    Act.foldlM_error (P := fun reached => reached.kind = shape.kind)
      (fun _ _ _ _ _ _ hkind hstep => (Shape.kind_assignNamed hstep).trans hkind) rfl hfault
  obtain ⟨p, hp, rfl⟩ := h name hname
  exact Shape.avoids_assignNamed files settings reached entry.2.2 (hkind ▸ hp) u fault t hstep

end Serve

variable {files : FileTree} {values : Dictionary Value} {c d : Component} {kind : ShapeKind}
  {s t : Session}

/-- What supplying values leaves of a component. -/
theorem supply_ok (hc : c.slots.Occupied) (h : (c.supply files values).outcome s = (.ok d, t)) :
    d.slots = c.slots.without values ∧ d.shape.kind = c.shape.kind ∧ d.settings = c.settings := by
  rw [supply_eq files values hc] at h
  obtain ⟨shape, u, hserve, h⟩ := Act.outcome_bind_ok.1 h
  cases h
  refine ⟨rfl, ?_, rfl⟩
  exact Act.foldlM_ok (P := fun shape => shape.kind = c.shape.kind)
    (fun _ _ _ _ _ _ hkind hstep => (kind_serve hstep).trans hkind) rfl hserve

/-- A component whose slots are sound takes every value without refusing a property. -/
theorem avoids_supply (hc : c.slots.Sound c.shape.kind) (files : FileTree) (values : Dictionary Value) :
    Act.Avoids Fault.RefusesProperty (c.supply files values) := by
  rw [supply_eq files values hc.occupied]
  refine Act.avoids_bind ?_ fun shape => Act.avoids_pure _
  intro s fault t hfault
  obtain ⟨entry, hentry, shape, u, hkind, hstep⟩ :=
    Act.foldlM_error (P := fun shape => shape.kind = c.shape.kind)
      (fun _ _ _ _ _ _ hkind hstep => (kind_serve hstep).trans hkind) rfl hfault
  have hslots := (SlotMap.mem_of_mem_served hentry).1
  refine avoids_serve (fun name hname => ?_) u fault t hstep
  rw [hkind]
  exact hc.known name (List.mem_flatMap.2 ⟨_, hslots, hname⟩)

/-! ## Loading and supplying agree -/

/-- A shape refuses a property just if its kind has none of the name. -/
theorem refuses_iff_not_mem_names (files : FileTree) (settings : Settings) (shape : Shape) (name : String)
    (v : Value) (s : Session) :
    (∃ fault t, (shape.assignNamed files settings name v).outcome s = (.error fault, t) ∧ fault.RefusesProperty) ↔
      name ∉ shape.kind.names := by
  rw [ShapeKind.mem_names_iff]
  constructor
  · rintro ⟨fault, t, hrun, hrefuses⟩ ⟨p, hp, rfl⟩
    exact Shape.avoids_assignNamed files settings shape v hp s fault t hrun hrefuses
  · intro hnot
    unfold Shape.assignNamed
    cases hname : Property.ofName? name with
    | none => exact ⟨_, s, rfl, name, rfl⟩
    | some p =>
      have hsame : p.name = name := by simpa using List.find?_some hname
      have hp : p ∉ shape.kind.properties := fun hmem => hnot ⟨p, hmem, hsame⟩
      exact ⟨_, s, Shape.assign_of_not_mem files settings shape v hp s, _, rfl⟩

/-- The components that supplying values reaches, any number of times, whatever the files and the
session are each time. -/
inductive Reached (c : Component) : Component → Prop
  | start : Reached c c
  | supply {d d' : Component} {files : FileTree} {values : Dictionary Value} {s t : Session} :
    Reached c d → (d.supply files values).outcome s = (.ok d', t) → Reached c d'

theorem Reached.sound (hc : c.slots.Sound kind) (hkind : c.shape.kind = kind) (h : Reached c d) :
    d.slots.Sound kind ∧ d.shape.kind = kind := by
  induction h with
  | start => exact ⟨hc, hkind⟩
  | supply _ hsupply ih =>
    obtain ⟨hsound, hkind⟩ := ih
    obtain ⟨hslots, hsame, -⟩ := supply_ok hsound.occupied hsupply
    rw [hslots, hsame]
    exact ⟨hsound.sublist (SlotMap.without_sublist _ _), hkind⟩

/-- Loading a component lets exactly those properties wait whose fields stand for variables, and its
shape has all of them, now and after every supply of values. -/
theorem load_agrees {settings : Settings} {now : Calendar.Moment} {properties : Json}
    (h : (load files settings now kind properties).outcome s = (.ok c, t)) :
    (∀ v, IsVariable v → (c.slots.get? v).getD [] =
      (kind.fields.filter fun f => f.rawText properties = variableText v).map (·.property.name)) ∧
    c.slots.Distinct ∧
    (∀ entry ∈ c.slots, IsVariable entry.1 ∧ entry.2 ≠ []) ∧
    c.slots.properties.Nodup ∧
    (∀ name ∈ c.slots.properties, name ∈ kind.names) ∧
    (∀ fields, .exclusive fields ∈ FieldGroup.ofKind kind → ∃ winner ∈ fields,
      (∃ outcome, (winner.source properties).extract [] = .ok outcome) ∧
      ∀ loser ∈ fields, loser ≠ winner →
        (loser.source properties).Unset ∧ loser.property.name ∉ c.slots.properties) ∧
    (∀ name ∈ c.slots.properties, ∀ shape : Shape, shape.kind = kind → ∀ files settings value,
      Act.Avoids Fault.RefusesProperty (shape.assignNamed files settings name value)) ∧
    ∀ d, Reached c d → ∀ files values, Act.Avoids Fault.RefusesProperty (d.supply files values) := by
  obtain ⟨hslots, hkind, -, hexclusive⟩ := load_ok h
  have hsound := sound_of_load h
  refine ⟨fun v hv => ?_, hsound.distinct, fun entry hentry => ?_, hsound.nodup, fun name hname => ?_, ?_, ?_, ?_⟩
  · rw [hslots, SlotMap.getD_get?_addAll, deferred_of_variable properties kind.fields hv]
    rfl
  · have hnames := hsound.occupied entry hentry
    obtain ⟨name, hname⟩ := List.exists_mem_of_ne_nil _ hnames
    exact ⟨(mem_slots_of_load h hentry hname).1, hnames⟩
  · exact ShapeKind.mem_names_iff.2 (hsound.known name hname)
  · intro fields hfields
    obtain ⟨before, winner, after, rfl, houtcome, hunset⟩ := hexclusive fields hfields
    refine ⟨winner, by simp, houtcome, fun loser hloser hne => ?_⟩
    have hunset := hunset loser (by simpa [hne] using hloser)
    refine ⟨hunset, fun hmem => ?_⟩
    obtain ⟨f, hf, hname, v, hv, htext⟩ := (mem_properties_of_load h).1 hmem
    have hmine : loser ∈ kind.fields := List.mem_flatMap.2 ⟨_, hfields, hloser⟩
    obtain rfl := List.inj_on_of_nodup_map kind.fields_name_nodup hf hmine hname
    have hwaits := FieldSpec.waits?_eq_some_iff.2 ⟨hv, htext, rfl⟩
    rw [waits?_of_unset hunset] at hwaits
    cases hwaits
  · rintro name hname shape rfl files settings value
    obtain ⟨p, hp, rfl⟩ := hsound.known name hname
    exact Shape.avoids_assignNamed files settings shape value hp
  · intro d hd files values
    obtain ⟨hsound, hkind⟩ := hd.sound hsound hkind
    exact avoids_supply (hkind ▸ hsound) files values

end

/-- The properties of an image whose picture, place and width wait for variables. -/
def waitingProperties : Json :=
  .object [("data", .string "$photo$"), ("topLeftX", .string "$x$"), ("topLeftY", .string "$x$"),
    ("width", .string "$side$"), ("height", .string "7")]

/-- The image with these properties. -/
def waitingImage : Component :=
  { shape := .image { height := 7 },
    slots := [("photo", ["data"]), ("x", ["topLeftX", "topLeftY"]), ("side", ["width"])],
    settings := some {} }

open scoped Plain in
theorem load_waitingProperties :
    (load {} {} default .image waitingProperties).outcome {} = (.ok waitingImage, {}) := by
  decide +kernel

open scoped Plain in
theorem load_agrees_image :
    (load {} {} default .image waitingProperties).outcome {} = (.ok waitingImage, {}) ∧
      ["topLeftX", "topLeftY"] = (ShapeKind.image.fields.filter fun f =>
        f.rawText waitingProperties = variableText "x").map (·.property.name) ∧
      ∀ d, Reached waitingImage d → ∀ files values,
        Act.Avoids Fault.RefusesProperty (d.supply files values) := by
  obtain ⟨hslots, -, -, -, -, -, -, hreached⟩ := load_agrees load_waitingProperties
  exact ⟨load_waitingProperties, hslots "x" ⟨by decide, by decide⟩, hreached⟩

end Component

end PageTemplate
