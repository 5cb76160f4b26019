/-
What a component lacks. A component lacks the essential part of its shape
exactly while a property that writes to it waits (`Complete`): each place of
the order of reading either writes to its part of the shape or lets a property
wait (`isComplete_of_readGroups`), and supplying values writes to the parts of
the properties that leave the slots (`Complete.supply`).

So a component for which nothing waits can be drawn, as far as its own fields
go, and one for which something waits draws nothing (`complete_of_reached`).
-/
import PageTemplate.Platform.Plain
import PageTemplate.Proofs.Component.Painting
import PageTemplate.Proofs.Component.Parts
import PageTemplate.Proofs.Component.Writing

namespace PageTemplate

/-! ## Essential parts -/

namespace ShapeKind

/-- The essential part is read at a place of the order. -/
theorem exists_essential (kind : ShapeKind) {p : Property} (h : kind.essential? = some p) :
    ∃ group ∈ FieldGroup.ofKind kind, group.target = some p := by
  cases kind <;> cases h <;> decide

/-- What need not be given is nothing essential. -/
theorem essential_of_optional (kind : ShapeKind) : ∀ group ∈ FieldGroup.ofKind kind,
    ∀ f ∈ group.fields, group = .optional f → kind.essential? ≠ group.target := by
  cases kind <;> decide

/-- The place of the essential part lets nothing wait just if no field that writes to that part stands
for a variable. -/
theorem any_essential_iff (kind : ShapeKind) (properties : Json) {p : Property}
    (hp : kind.essential? = some p) :
    ((FieldGroup.ofKind kind).any fun group =>
      kind.essential? == group.target && (deferred properties group.fields).isEmpty) = true ↔
      ∀ f ∈ kind.fields, f.property.target = p → f.waits? properties = none := by
  simp only [List.any_eq_true, Bool.and_eq_true, beq_iff_eq, List.isEmpty_iff, hp]
  constructor
  · rintro ⟨group, hgroup, htarget, hdeferred⟩ f hf hfp
    obtain ⟨other, hother, hf⟩ := List.mem_flatMap.1 hf
    -- Two places that write to one part are the same place.
    have hsame : other.target = group.target := by
      rw [← kind.target_of_mem other hother f hf, hfp, htarget]
    obtain rfl := List.inj_on_of_nodup_map kind.target_nodup hother hgroup hsame
    exact List.filterMap_eq_nil_iff.1 hdeferred f hf
  · intro hnone
    obtain ⟨group, hgroup, htarget⟩ := kind.exists_essential hp
    refine ⟨group, hgroup, htarget.symm, List.filterMap_eq_nil_iff.2 fun f hf => ?_⟩
    have hfp : f.property.target = p := by
      have := kind.target_of_mem group hgroup f hf
      simpa [htarget] using this
    exact hnone f (List.mem_flatMap.2 ⟨group, hgroup, hf⟩) hfp

end ShapeKind

theorem Property.targetNamed_eq_some_iff {name : String} {q : Property} :
    targetNamed name = some q ↔ ∃ p : Property, p.target = q ∧ p.name = name := by
  constructor
  · intro h
    obtain ⟨p, hp, htarget⟩ := Option.map_eq_some_iff.1 h
    exact ⟨p, htarget, by simpa using List.find?_some hp⟩
  · rintro ⟨p, rfl, rfl⟩
    exact targetNamed_name p

section Target

variable {names : List String}

theorem Property.exists_target_barcodeType :
    (∃ p : Property, p.target = .barcodeType ∧ p.name ∈ names) ↔ "barcodeType" ∈ names := by
  constructor
  · rintro ⟨p, htarget, hname⟩
    cases p <;> cases htarget
    exact hname
  · exact fun hname => ⟨.barcodeType, rfl, hname⟩

theorem Property.exists_target_fileName :
    (∃ p : Property, p.target = .fileName ∧ p.name ∈ names) ↔ "fileName" ∈ names ∨ "data" ∈ names := by
  constructor
  · rintro ⟨p, htarget, hname⟩
    cases p <;> cases htarget
    · exact .inl hname
    · exact .inr hname
  · rintro (hname | hname)
    · exact ⟨.fileName, rfl, hname⟩
    · exact ⟨.data, rfl, hname⟩

theorem Property.exists_target_time :
    (∃ p : Property, p.target = .time ∧ p.name ∈ names) ↔ "time" ∈ names := by
  constructor
  · rintro ⟨p, htarget, hname⟩
    cases p <;> cases htarget
    exact hname
  · exact fun hname => ⟨.time, rfl, hname⟩

end Target

/-! ## Loading -/

namespace Reading

variable {files : FileTree} {settings : Settings} {properties : Json} {r r' : Reading} {s t : Session}

/-- Whether the shape has its essential part or will have it in the end: a literal time is kept as an
offset until then. -/
def isComplete (r : Reading) : Bool :=
  r.shape.isComplete || (r.shape.kind = .datetime && r.offset.isSome)

theorem finish_ok {now : Calendar.Moment} {shape : Shape} (h : r.finish now = .ok shape) :
    (r.shape.Coloured → shape.Coloured) ∧ shape.isComplete = r.isComplete := by
  unfold finish at h
  split at h
  · rename_i d offset hd hoffset
    split at h <;> cases h
    refine ⟨fun hr => ?_, ?_⟩
    · rw [hd] at hr; exact hr
    · simp [isComplete, hd, hoffset, Shape.kind, Shape.isComplete]
  · rename_i hnot
    cases h
    refine ⟨id, ?_⟩
    unfold isComplete
    cases hshape : r.shape with
    | datetime d =>
      cases hoffset : r.offset with
      | none => simp
      | some offset => exact absurd hoffset (hnot d offset hshape)
    | _ => simp [Shape.kind]

variable [Platform]

theorem coloured_assign {p : Property} {literal : Literal} (hr : r.shape.Coloured)
    (h : (assign files settings r p literal).outcome s = (.ok r', t)) : r'.shape.Coloured := by
  unfold assign at h
  split at h
  · cases h; exact hr
  · obtain ⟨symbology, u, -, h⟩ := Act.outcome_bind_ok.1 h
    obtain ⟨shape, u', hshape, h⟩ := Act.outcome_bind_ok.1 h
    cases h
    exact Shape.coloured_assign hr hshape
  · obtain ⟨shape, u, hshape, h⟩ := Act.outcome_bind_ok.1 h
    cases h
    exact Shape.coloured_assign hr hshape

/-- Taking up what a field gives is giving its property the value of a literal, or letting it wait. -/
theorem take_cases {f : FieldSpec} {slots : SlotMap} {value : Option Literal}
    (hextract : (f.source properties).extract r.slots = .ok (slots, value))
    (h : (take files settings r f.property slots value).outcome s = (.ok r', t)) :
    (∃ literal, f.waits? properties = none ∧
      (assign files settings { r with slots := slots } f.property literal).outcome s = (.ok r', t)) ∨
    (r' = { r with slots := slots } ∧ f.waits? properties ≠ none) := by
  rcases Candidate.extract_ok hextract with ⟨v, hv, -, rfl⟩ | ⟨hnone, -, literal, rfl, -⟩
  · have hv : awaited? (f.rawText properties) = some v := hv
    cases h
    exact .inr ⟨rfl, by simp [FieldSpec.waits?, hv]⟩
  · have hnone : awaited? (f.rawText properties) = none := hnone
    exact .inl ⟨literal, by simp [FieldSpec.waits?, hnone], h⟩

/-- What reading one place of the order does: it gives one of its properties the value of a literal, or
it lets one wait and leaves the shape. An optional place may do neither. -/
inductive GroupRead (files : FileTree) (settings : Settings) (properties : Json) (group : FieldGroup)
    (r r' : Reading) : Prop
  | assigned {f : FieldSpec} {slots : SlotMap} {literal : Literal} {s t : Session} :
    f ∈ group.fields → deferred properties group.fields = [] →
      (assign files settings { r with slots := slots } f.property literal).outcome s = (.ok r', t) →
      GroupRead files settings properties group r r'
  | waits {slots : SlotMap} : deferred properties group.fields ≠ [] → r' = { r with slots := slots } →
    GroupRead files settings properties group r r'
  | skipped {f : FieldSpec} : group = .optional f → r' = r → GroupRead files settings properties group r r'

theorem groupRead_of_take {group : FieldGroup} {f : FieldSpec} {slots : SlotMap} {value : Option Literal}
    (hf : f ∈ group.fields) (hdeferred : deferred properties group.fields = (f.waits? properties).toList)
    (hextract : (f.source properties).extract r.slots = .ok (slots, value))
    (htake : (take files settings r f.property slots value).outcome s = (.ok r', t)) :
    GroupRead files settings properties group r r' := by
  rcases take_cases hextract htake with ⟨literal, hwaits, hassign⟩ | ⟨hread, hwaits⟩
  · exact .assigned hf (by rw [hdeferred, hwaits]; rfl) hassign
  · exact .waits (by simpa [hdeferred] using hwaits) hread

theorem groupRead_of_readText {group : FieldGroup} {f : FieldSpec} (hgroup : group.fields = [f])
    (h : (readText files settings r f (f.rawText properties)).outcome s = (.ok r', t)) :
    GroupRead files settings properties group r r' := by
  obtain ⟨⟨slots, value⟩, u, hextract, htake⟩ := Act.outcome_bind_ok.1 h
  refine groupRead_of_take ?_ ?_ (Act.outcome_ofExcept_ok.1 hextract).1 htake
  · simp [hgroup]
  · simp only [hgroup, deferred, List.filterMap_cons]
    cases f.waits? properties <;> rfl

theorem groupRead_of_readGroup {group : FieldGroup}
    (h : (readGroup files settings properties r group).outcome s = (.ok r', t)) :
    GroupRead files settings properties group r r' := by
  cases group with
  | single f =>
    obtain ⟨text, u, htext, h⟩ := Act.outcome_bind_ok.1 h
    obtain rfl := FieldSpec.textIn_ok (Act.outcome_ofExcept_ok.1 htext).1
    exact groupRead_of_readText rfl h
  | optional f =>
    obtain ⟨text, u, htext, h⟩ := Act.outcome_bind_ok.1 h
    obtain rfl := FieldSpec.textIn_ok (Act.outcome_ofExcept_ok.1 htext).1
    split at h
    · cases h
      exact .skipped rfl rfl
    · exact groupRead_of_readText rfl h
  | exclusive fields =>
    obtain ⟨before, f, after, slots, value, u, rfl, hunset, hextract, htake⟩ := readExclusive_ok h
    exact groupRead_of_take (by simp [FieldGroup.fields]) (deferred_of_unset f hunset) hextract htake

theorem coloured_of_readGroups {groups : List FieldGroup} (hr : r.shape.Coloured)
    (h : (readGroups files settings properties r groups).outcome s = (.ok r', t)) :
    r'.shape.Coloured := by
  induction groups generalizing r s with
  | nil => cases h; exact hr
  | cons group groups ih =>
    obtain ⟨between, u, hgroup, hrest⟩ := Act.outcome_bind_ok.1 h
    refine ih ?_ hrest
    cases groupRead_of_readGroup hgroup with
    | assigned _ _ hassign =>
      refine coloured_assign ?_ hassign
      exact hr
    | waits _ hbetween => subst hbetween; exact hr
    | skipped _ hbetween => subst hbetween; exact hr

/-- The essential part is there once a property that writes to it has been given the value of a literal. -/
theorem isComplete_assign {p : Property} {literal : Literal}
    (h : (assign files settings r p literal).outcome s = (.ok r', t)) :
    r'.isComplete = (r.isComplete || r.shape.kind.essential? == some p.target) := by
  unfold assign at h
  split at h
  · cases h
    unfold isComplete
    cases r.shape <;> simp [Shape.kind, ShapeKind.essential?, Property.target, Shape.isComplete]
  · obtain ⟨symbology, u, -, h⟩ := Act.outcome_bind_ok.1 h
    obtain ⟨shape, u', hshape, h⟩ := Act.outcome_bind_ok.1 h
    cases h
    simp only [isComplete, Shape.isComplete_assign hshape, Shape.kind_assign hshape, Bool.or_right_comm]
  · obtain ⟨shape, u, hshape, h⟩ := Act.outcome_bind_ok.1 h
    cases h
    simp only [isComplete, Shape.isComplete_assign hshape, Shape.kind_assign hshape, Bool.or_right_comm]

/-- One place of the order gives the essential part if it is there that it is read, and no property
waits. -/
theorem isComplete_of_groupRead {group : FieldGroup}
    (htarget : ∀ f ∈ group.fields, some f.property.target = group.target)
    (hoptional : ∀ f ∈ group.fields, group = .optional f → r.shape.kind.essential? ≠ group.target)
    (h : GroupRead files settings properties group r r') :
    r'.isComplete = (r.isComplete ||
      r.shape.kind.essential? == group.target && (deferred properties group.fields).isEmpty) := by
  cases h with
  | assigned hf hdeferred hassign =>
    rw [isComplete_assign hassign, hdeferred, htarget _ hf]
    simp [isComplete]
  | waits hdeferred hread =>
    subst hread
    simp [isComplete, hdeferred]
  | skipped hgroup hread =>
    subst hread
    have hne := hoptional _ (by rw [hgroup]; exact List.mem_singleton_self _) hgroup
    simp [hne]

theorem isComplete_of_readGroups {groups : List FieldGroup}
    (htarget : ∀ group ∈ groups, ∀ f ∈ group.fields, some f.property.target = group.target)
    (hoptional : ∀ group ∈ groups, ∀ f ∈ group.fields, group = .optional f →
      r.shape.kind.essential? ≠ group.target)
    (h : (readGroups files settings properties r groups).outcome s = (.ok r', t)) :
    r'.isComplete = (r.isComplete || groups.any fun group =>
      r.shape.kind.essential? == group.target && (deferred properties group.fields).isEmpty) := by
  induction groups generalizing r s with
  | nil => cases h; simp
  | cons group groups ih =>
    obtain ⟨between, u, hgroup, hrest⟩ := Act.outcome_bind_ok.1 h
    have hkind : between.shape.kind = r.shape.kind := (extends_of_readGroup hgroup).1.2
    obtain ⟨hfirst, hothers⟩ := List.forall_mem_cons.1 htarget
    obtain ⟨hfirst', hothers'⟩ := List.forall_mem_cons.1 hoptional
    rw [ih hothers (by rw [hkind]; exact hothers') hrest, hkind,
      isComplete_of_groupRead hfirst hfirst' (groupRead_of_readGroup hgroup), List.any_cons, Bool.or_assoc]

end Reading

section

variable [Platform]

namespace Component

variable {files : FileTree} {settings : Settings} {now : Calendar.Moment} {kind : ShapeKind}
  {properties : Json} {c d : Component} {s t : Session}

/-- Whether a property waits that writes to the essential part of the shape. -/
def Owes (c : Component) : Prop :=
  ∃ p, c.shape.kind.essential? = some p ∧ some p ∈ c.slots.properties.map Property.targetNamed

/-- Whether all colours are in range, and the essential part of the shape is there exactly while nothing
waits that writes to it. -/
structure Complete (c : Component) : Prop where
  coloured : c.shape.Coloured
  agrees : c.shape.isComplete = true ↔ ¬ c.Owes

/-- A component that has been loaded owes the essential part of its shape if a field that writes to it
stands for a variable. -/
theorem owes_of_load_iff (h : (load files settings now kind properties).outcome s = (.ok c, t)) :
    c.Owes ↔ ∃ p, kind.essential? = some p ∧
      ∃ f ∈ kind.fields, f.property.target = p ∧ f.waits? properties ≠ none := by
  rw [Owes, (load_ok h).2.1]
  refine exists_congr fun p => and_congr_right fun _ => ?_
  simp only [List.mem_map, mem_properties_of_load h]
  constructor
  · rintro ⟨name, ⟨f, hf, rfl, v, hv, htext⟩, htarget⟩
    rw [Property.targetNamed_name] at htarget
    refine ⟨f, hf, Option.some.inj htarget, ?_⟩
    simp [FieldSpec.waits?_eq_some_iff.2 ⟨hv, htext, rfl⟩]
  · rintro ⟨f, hf, rfl, hwaits⟩
    obtain ⟨⟨v, name⟩, hentry⟩ := Option.ne_none_iff_exists'.1 hwaits
    obtain ⟨hv, htext, rfl⟩ := FieldSpec.waits?_eq_some_iff.1 hentry
    exact ⟨_, ⟨f, hf, rfl, v, hv, htext⟩, Property.targetNamed_name _⟩

theorem complete_of_load (h : (load files settings now kind properties).outcome s = (.ok c, t)) :
    c.Complete := by
  have howes := owes_of_load_iff h
  unfold load at h
  split at h
  · obtain ⟨read, u, hread, h⟩ := Act.outcome_bind_ok.1 h
    obtain ⟨shape, u', hshape, h⟩ := Act.outcome_bind_ok.1 h
    cases h
    obtain ⟨hcoloured, hfinish⟩ := Reading.finish_ok (Act.outcome_ofExcept_ok.1 hshape).1
    refine ⟨hcoloured (Reading.coloured_of_readGroups (Shape.coloured_empty kind) hread), ?_⟩
    have hempty : (Shape.empty kind).kind = kind := Shape.kind_empty kind
    have hread := Reading.isComplete_of_readGroups kind.target_of_mem
      (by rw [hempty]; exact kind.essential_of_optional) hread
    have hstart : Reading.isComplete { shape := Shape.empty kind } = kind.essential?.isNone := by
      simp [Reading.isComplete, Shape.isComplete_empty]
    rw [howes, hfinish, hread, hstart, hempty, Bool.or_eq_true]
    cases hp : kind.essential? with
    | none => simp
    | some p =>
      rw [← hp, ShapeKind.any_essential_iff kind _ hp]
      constructor
      · rintro (hnone | hnone) ⟨q, hq, f, hf, htarget, hwaits⟩
        · simp [hp] at hnone
        · obtain rfl : p = q := Option.some.inj (hp.symm.trans hq)
          exact hwaits (hnone f hf htarget)
      · intro hnot
        refine .inr fun f hf htarget => ?_
        by_contra hwaits
        exact hnot ⟨p, hp, f, hf, htarget, hwaits⟩
  · cases h

end Component

/-! ## Supplying -/

/-- Writing values gives the essential part if one of the properties writes to it. -/
theorem Shape.Written.isComplete {settings : Settings} {shape last : Shape} {writes : List (String × Value)}
    (h : Written settings shape writes last) :
    last.isComplete = (shape.isComplete || writes.any fun write =>
      shape.kind.essential? == Property.targetNamed write.1) ∧ last.kind = shape.kind := by
  induction h with
  | nil => simp
  | @cons shape next last files s t name value writes hassign _ ih =>
    have hkind := Shape.kind_assignNamed hassign
    unfold assignNamed at hassign
    split at hassign
    · rename_i p hp
      have htarget : Property.targetNamed name = some p.target := by rw [Property.targetNamed, hp]; rfl
      rw [ih.1, ih.2, hkind, isComplete_assign hassign, List.any_cons, htarget, Bool.or_assoc]
      exact ⟨rfl, rfl⟩
    · cases hassign

theorem Shape.Written.coloured {settings : Settings} {shape last : Shape} {writes : List (String × Value)}
    (h : Written settings shape writes last) (hshape : shape.Coloured) : last.Coloured := by
  induction h with
  | nil => exact hshape
  | cons hassign _ ih =>
    unfold assignNamed at hassign
    split at hassign
    · exact ih (coloured_assign hshape hassign)
    · cases hassign

namespace Component

variable {files : FileTree} {settings : Settings} {now : Calendar.Moment} {kind : ShapeKind}
  {properties : Json} {values : Dictionary Value} {c d : Component} {s t : Session}

/-- Supplying values keeps a component complete but for what it owes: the properties that leave the slots
are those that are written. -/
theorem Complete.supply (hsound : c.slots.Sound kind) (hc : c.Complete)
    (h : (c.supply files values).outcome s = (.ok d, t)) : d.Complete := by
  have hwritten := written_of_supply hsound.occupied h
  obtain ⟨hcomplete, hkind⟩ := hwritten.isComplete
  refine ⟨hwritten.coloured hc.coloured, ?_⟩
  cases hp : c.shape.kind.essential? with
  | none =>
    have howes : ¬ d.Owes := fun ⟨p, hp', _⟩ => by rw [hkind, hp] at hp'; cases hp'
    simp [howes, Shape.isComplete_of_essential (hkind ▸ hp)]
  | some p =>
    have howes : ∀ e : Component, e.shape.kind = c.shape.kind →
        (e.Owes ↔ some p ∈ e.slots.properties.map Property.targetNamed) := fun e he => by
      simp [Owes, he, hp]
    have hperm := (SlotMap.handed_perm hsound.distinct hsound.occupied values).map Property.targetNamed
    rw [List.map_append] at hperm
    -- No part is both among those that are written and among those that still wait.
    have hapart := (List.nodup_append.1 (hperm.nodup_iff.2 hsound.apart)).2.2
    have hagrees := hc.agrees
    rw [howes c rfl, ← hperm.mem_iff, List.mem_append] at hagrees
    rw [howes d hkind, (supply_ok hsound.occupied h).1, hcomplete, hp, Bool.or_eq_true, hagrees]
    have hhanded : ((c.slots.handed values).any fun write => some p == Property.targetNamed write.1) = true ↔
        some p ∈ ((c.slots.handed values).map (·.1)).map Property.targetNamed := by
      simp only [List.any_eq_true, List.map_map, List.mem_map, Function.comp_apply, beq_iff_eq]
      exact exists_congr fun write => and_congr_right fun _ => eq_comm
    rw [hhanded]
    constructor
    · rintro (hneither | hmem) hrest
      · exact hneither (.inr hrest)
      · exact hapart _ hmem _ hrest rfl
    · intro hrest
      by_cases hmem : some p ∈ ((c.slots.handed values).map (·.1)).map Property.targetNamed
      · exact .inr hmem
      · exact .inl fun h => h.elim hmem hrest

/-- Loading makes a component complete, and supplying values keeps it so. -/
theorem complete_of_load_reached
    (hload : (load files settings now kind properties).outcome s = (.ok c, t)) (hd : Reached c d) :
    d.Complete := by
  have hsound := sound_of_load hload
  have hkind := (load_ok hload).2.1
  induction hd with
  | start => exact complete_of_load hload
  | supply hreached hsupply ih => exact ih.supply (hreached.sound hsound hkind).1 hsupply

end Component

end

/-! ## Drawing -/

/-- No shape but a barcode without a symbology fails as a component does. -/
theorem Shape.draw_component_error [Platform] {shape : Shape} {canvas : Canvas} {fault : ComponentFault}
    (h : (shape.draw canvas).2 = .error (.component fault)) :
    ∃ b, shape = .barcode b ∧ b.symbology = none := by
  have hcanvas : ∀ x : Except CanvasFault Canvas, (Drawn.ofExcept x).2 ≠ .error (.component fault) := by
    rintro (_ | _) h <;> cases h
  have hline : ∀ (line : TextLine) content, (line.draw content canvas).2 ≠ .error (.component fault) := by
    intro line content h
    unfold TextLine.draw at h
    simp only at h
    split at h
    · cases h
    · split at h <;> cases h
  cases shape with
  | rectangle | circle | image => exact absurd h (hcanvas _)
  | text t => exact absurd h (hline t.line t.content)
  | datetime m => exact absurd h (hline m.line m.written)
  | barcode b =>
    refine ⟨b, rfl, ?_⟩
    cases hsymbology : b.symbology with
    | none => rfl
    | some symbology =>
      simp only [draw, hsymbology] at h
      exact absurd h (hcanvas _)

namespace Component

variable {files : FileTree} {settings : Settings} {now : Calendar.Moment} {kind : ShapeKind}
  {properties : Json} {values : Dictionary Value} {c d : Component} {s t : Session}

theorem owes_iff {q : Property} (hq : d.shape.kind.essential? = some q) :
    d.Owes ↔ ∃ p : Property, p.target = q ∧ p.name ∈ d.slots.properties := by
  simp only [Owes, hq, Option.some.injEq, exists_eq_left', List.mem_map, Property.targetNamed_eq_some_iff]
  constructor
  · rintro ⟨name, hname, p, htarget, rfl⟩
    exact ⟨p, htarget, hname⟩
  · rintro ⟨p, htarget, hname⟩
    exact ⟨p.name, hname, p, htarget, rfl⟩

theorem Complete.lacks_essential_iff (h : d.Complete) {q : Property} (hq : d.shape.kind.essential? = some q) :
    d.shape.isComplete = false ↔ ∃ p : Property, p.target = q ∧ p.name ∈ d.slots.properties := by
  rw [← owes_iff hq, ← Bool.not_eq_true, h.agrees, not_not]

/-- What a complete component lacks, kind by kind. -/
theorem Complete.lacks_iff (h : d.Complete) :
    (∀ b, d.shape = .barcode b → (b.symbology = none ↔ "barcodeType" ∈ d.slots.properties)) ∧
    (∀ i, d.shape = .image i →
      (i.picture = none ↔ "fileName" ∈ d.slots.properties ∨ "data" ∈ d.slots.properties)) ∧
    (∀ m, d.shape = .datetime m → (m.moment = none ↔ "time" ∈ d.slots.properties)) := by
  have hlacks := fun {q} => h.lacks_essential_iff (q := q)
  refine ⟨fun b hb => ?_, fun i hi => ?_, fun m hm => ?_⟩
  · rw [hb] at hlacks
    rw [← Property.exists_target_barcodeType, ← hlacks rfl]
    simp [Shape.isComplete]
  · rw [hi] at hlacks
    rw [← Property.exists_target_fileName, ← hlacks rfl]
    simp [Shape.isComplete]
  · rw [hm] at hlacks
    rw [← Property.exists_target_time, ← hlacks rfl]
    simp [Shape.isComplete]

/-- A component that has been loaded, and every one reached from it by supplying values, has colours in
range and lacks a symbology, a picture or a moment exactly while a property that writes it waits. So when
nothing waits it is drawn with all of them, and while something waits nothing is drawn. -/
theorem complete_of_reached [Platform]
    (hload : (load files settings now kind properties).outcome s = (.ok c, t)) (hd : Reached c d) :
    d.shape.Coloured ∧
    (∀ b, d.shape = .barcode b → (b.symbology = none ↔ "barcodeType" ∈ d.slots.properties)) ∧
    (∀ i, d.shape = .image i →
      (i.picture = none ↔ "fileName" ∈ d.slots.properties ∨ "data" ∈ d.slots.properties)) ∧
    (∀ m, d.shape = .datetime m → (m.moment = none ↔ "time" ∈ d.slots.properties)) ∧
    (d.slots = [] → ∀ canvas,
      (d.draw canvas).2 ≠ .error (.component .noSymbology) ∧
      (∀ page, (d.draw canvas).2 = .ok page →
        ∃ operation, page = canvas.draw operation ∧ ∀ box, operation ≠ .image box none) ∧
      ∀ m, d.shape = .datetime m → ∃ moment, m.moment = some moment ∧ m.written = moment.format m.layout) ∧
    (d.slots ≠ [] → ∀ canvas, ∃ fault,
      d.draw canvas = ([], .error (.component fault)) ∧ fault.kind = .component) := by
  have hcomplete := complete_of_load_reached hload hd
  obtain ⟨hbarcode, himage, hmoment⟩ := hcomplete.lacks_iff
  refine ⟨hcomplete.coloured, hbarcode, himage, hmoment, fun hslots canvas => ?_, fun hslots canvas => ?_⟩
  · have hdraw : d.draw canvas = d.shape.draw canvas := by simp [draw, hslots]
    have hnone : ∀ name, name ∉ d.slots.properties := by simp [hslots, SlotMap.properties]
    refine ⟨?_, fun page hpage => ?_, fun m hm => ?_⟩
    · rw [hdraw]
      intro hfault
      obtain ⟨b, hb, hlacks⟩ := Shape.draw_component_error hfault
      exact hnone _ ((hbarcode b hb).1 hlacks)
    · rw [hdraw] at hpage
      obtain ⟨operation, hpaints, rfl⟩ := Shape.draw_ok_iff.1 hpage
      refine ⟨operation, rfl, fun box hbox => ?_⟩
      subst hbox
      obtain ⟨i, hi, hlacks⟩ := hpaints.of_image
      exact ((himage i hi).1 hlacks).elim (hnone _) (hnone _)
    · obtain ⟨moment, hsome⟩ := Option.ne_none_iff_exists'.1 fun hlacks => hnone _ ((hmoment m hm).1 hlacks)
      exact ⟨moment, hsome, by rw [MomentShape.written, hsome]⟩
  · refine ⟨_, by rw [draw, if_neg]; simpa using hslots, rfl⟩

/-- The properties of a barcode whose symbology waits for a variable. -/
def barcodeProperties : Json :=
  .object [("barcodeType", .string "$kind$"), ("content", .string "17"), ("topLeftX", .string "0"),
    ("topLeftY", .string "0"), ("width", .string "9"), ("height", .string "9"),
    ("dataColour", .object [("R", .string "0"), ("G", .string "0"), ("B", .string "0"), ("A", .string "255")]),
    ("backgroundColour", .object [("R", .string "9"), ("G", .string "9"), ("B", .string "9"),
      ("A", .string "255")])]

open scoped Plain in
/-- The barcode lacks its symbology while that waits, and draws nothing. Once it has been supplied, the
barcode is drawn with it. -/
theorem complete_of_reached_barcode :
    ∃ c d s t, (load {} {} default .barcode barcodeProperties).outcome {} = (.ok c, s) ∧
      (c.supply {} [("kind", .text "QR Code")]).outcome {} = (.ok d, t) ∧
      c.slots = [("kind", ["barcodeType"])] ∧ d.slots = [] ∧
      (∀ b, c.shape = .barcode b → b.symbology = none) ∧
      (∀ canvas, ∃ fault, c.draw canvas = ([], .error (.component fault))) ∧
      ∀ canvas, (d.draw canvas).2 ≠ .error (.component .noSymbology) := by
  have hrun : Act.passes (fun c => c.slots = [("kind", ["barcodeType"])] &&
      Act.passes (fun d => d.slots = []) ((c.supply {} [("kind", .text "QR Code")]).outcome {}))
      ((load {} {} default .barcode barcodeProperties).outcome {}) = true := by decide +kernel
  obtain ⟨c, s, hload, htest⟩ := Act.exists_of_passes hrun
  simp only [Bool.and_eq_true, decide_eq_true_eq] at htest
  obtain ⟨hslots, hsupplied⟩ := htest
  obtain ⟨d, t, hsupply, hnone⟩ := Act.exists_of_passes hsupplied
  have hnone : d.slots = [] := of_decide_eq_true hnone
  obtain ⟨-, hbarcode, -, -, -, hpending⟩ := complete_of_reached hload .start
  obtain ⟨-, -, -, -, hresolved, -⟩ := complete_of_reached hload (.supply .start hsupply)
  refine ⟨c, d, s, t, hload, hsupply, hslots, hnone, fun b hb => ?_, fun canvas => ?_, fun canvas => ?_⟩
  · exact (hbarcode b hb).2 (by simp [hslots, SlotMap.properties])
  · obtain ⟨fault, hdraw, -⟩ := hpending (by simp [hslots]) canvas
    exact ⟨fault, hdraw⟩
  · exact (hresolved hnone canvas).1

end Component

end PageTemplate
