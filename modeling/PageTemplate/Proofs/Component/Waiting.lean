/-
What waits in a component that has been loaded: under each variable the
properties of those fields of its kind whose text is that variable, in the
order of reading (`slots_of_load`).

Every place of the order lets one property wait at most, also where several
fields exclude each other (`length_deferred_le`), and no two places write to
the same part of a shape (`target_nodup`). So the slots of a loaded component
are `Sound`: what waits are properties of its kind that write to different
parts.
-/
import PageTemplate.Component.Basic
import PageTemplate.Proofs.Component.Assignment
import PageTemplate.Proofs.Field.Slots
import PageTemplate.Proofs.Field.Variable

namespace PageTemplate

/-! ## The tables -/

/-- The property that stands for the part of a shape that a property writes to: all sources of a font
give the font, and both sources of a picture the picture. -/
def Property.target : Property → Property
  | .fontFile | .fontAddress => .fontName
  | .data => .fileName
  | p => p

/-- The part of a shape that the property of a name writes to. -/
def Property.targetNamed (name : String) : Option Property := (Property.ofName? name).map target

theorem Property.targetNamed_name (p : Property) : targetNamed p.name = some p.target := by
  rw [targetNamed, ofName?_name]; rfl

/-- The part of a shape that the fields at one place of the order write to. -/
def FieldGroup.target (group : FieldGroup) : Option Property :=
  group.fields.head?.map (·.property.target)

namespace ShapeKind

/-- The fields of a line of text as a template writes them: where each stands, what its property is called, and of
which type its text is. -/
def writtenLine : List (String × String × FieldType) := [
  ("font.fontName", "fontName", .text), ("font.fontFile", "fontFile", .text), ("font.fontURL", "fontURL", .text),
  ("startX", "startX", .integer), ("startY", "startY", .integer), ("maxWidth", "maxWidth", .integer),
  ("size", "size", .decimal),
  ("colour.R", "R", .byte), ("colour.G", "G", .byte), ("colour.B", "B", .byte), ("colour.A", "A", .byte),
  ("alignment", "alignment", .text)]

/-- The fields of each kind as a template writes them. -/
def written : ShapeKind → List (String × String × FieldType)
  | .rectangle => [
    ("topLeftX", "topLeftX", .integer), ("topLeftY", "topLeftY", .integer),
    ("width", "width", .integer), ("height", "height", .integer),
    ("colour.R", "R", .byte), ("colour.G", "G", .byte), ("colour.B", "B", .byte), ("colour.A", "A", .byte)]
  | .circle => [
    ("centreX", "centreX", .integer), ("centreY", "centreY", .integer), ("radius", "radius", .integer),
    ("colour.R", "R", .byte), ("colour.G", "G", .byte), ("colour.B", "B", .byte), ("colour.A", "A", .byte)]
  | .text => ("content", "content", .text) :: writtenLine
  | .datetime => ("time", "time", .duration) :: ("timeFormat", "timeFormat", .text) :: writtenLine
  | .image => [
    ("fileName", "fileName", .text), ("data", "data", .text),
    ("topLeftX", "topLeftX", .integer), ("topLeftY", "topLeftY", .integer),
    ("width", "width", .integer), ("height", "height", .integer)]
  | .barcode => [
    ("barcodeType", "barcodeType", .text), ("content", "content", .text),
    ("topLeftX", "topLeftX", .integer), ("topLeftY", "topLeftY", .integer),
    ("width", "width", .integer), ("height", "height", .integer),
    ("dataColour.R", "dR", .byte), ("dataColour.G", "dG", .byte), ("dataColour.B", "dB", .byte),
    ("dataColour.A", "dA", .byte),
    ("backgroundColour.R", "bR", .byte), ("backgroundColour.G", "bG", .byte), ("backgroundColour.B", "bB", .byte),
    ("backgroundColour.A", "bA", .byte)]

/-- The names of a kind's properties. -/
def names (kind : ShapeKind) : List String := kind.written.map (·.2.1)

/-- What is read of each kind is what a template writes. -/
theorem written_eq (kind : ShapeKind) :
    (kind.fields.map fun f => (f.pathText, f.property.name, f.property.fieldType)) = kind.written := by
  cases kind <;> decide

theorem mem_names_iff {kind : ShapeKind} {name : String} :
    name ∈ kind.names ↔ ∃ p ∈ kind.properties, p.name = name := by
  simp [names, ← written_eq, properties]

theorem fields_name_nodup (kind : ShapeKind) : (kind.fields.map (·.property.name)).Nodup := by
  cases kind <;> decide

theorem target_nodup (kind : ShapeKind) : ((FieldGroup.ofKind kind).map FieldGroup.target).Nodup := by
  cases kind <;> decide

theorem target_of_mem (kind : ShapeKind) :
    ∀ group ∈ FieldGroup.ofKind kind, ∀ f ∈ group.fields, some f.property.target = group.target := by
  cases kind <;> decide

end ShapeKind

/-! ## The texts of fields -/

/-- The raw text of a field, empty if the field is missing. -/
def FieldSpec.rawText (properties : Json) (f : FieldSpec) : String :=
  match valueAt? f.path properties with
  | some (.string s) => s
  | _ => ""

theorem FieldSpec.textIn_ok {f : FieldSpec} {properties : Json} {text : String}
    (h : f.textIn properties = .ok text) : text = f.rawText properties := by
  unfold textIn at h
  unfold rawText
  split at h <;> cases h <;> simp [*]

/-- The field as it is read, with its raw text. -/
def FieldSpec.source (properties : Json) (f : FieldSpec) : Candidate Literal :=
  f.candidate (f.rawText properties)

theorem candidates_eq {properties : Json} {fields : List FieldSpec} {texts : List String}
    (h : fields.mapM (·.textIn properties) = .ok texts) :
    ((fields.zip texts).map fun (f, text) => f.candidate text) = fields.map (·.source properties) := by
  have hall := Except.mapM_ok_iff.1 h
  clear h
  induction hall with
  | nil => rfl
  | cons htext _ ih =>
    obtain rfl := FieldSpec.textIn_ok htext
    rw [List.zip_cons_cons, List.map_cons, List.map_cons, ih]
    rfl

/-- The variable that a field stands for and the name of its property, if it stands for one. -/
def FieldSpec.waits? (properties : Json) (f : FieldSpec) : Option (String × String) :=
  (awaited? (f.rawText properties)).map fun v => (v, f.property.name)

theorem FieldSpec.waits?_eq_some_iff {properties : Json} {f : FieldSpec} {v name : String} :
    f.waits? properties = some (v, name) ↔
      IsVariable v ∧ f.rawText properties = variableText v ∧ f.property.name = name := by
  simp only [waits?, Option.map_eq_some_iff, awaited?_eq_some_iff, Prod.mk.injEq]
  constructor
  · rintro ⟨v, ⟨hv, htext⟩, rfl, hname⟩; exact ⟨hv, htext, hname⟩
  · rintro ⟨hv, htext, hname⟩; exact ⟨v, ⟨hv, htext⟩, rfl, hname⟩

/-- What waits of some fields, in their order. -/
def deferred (properties : Json) (fields : List FieldSpec) : List (String × String) :=
  fields.filterMap (·.waits? properties)

theorem deferred_append (properties : Json) (fields others : List FieldSpec) :
    deferred properties (fields ++ others) = deferred properties fields ++ deferred properties others :=
  List.filterMap_append

/-- The properties that wait for a variable are those of the fields with its text. -/
theorem deferred_of_variable (properties : Json) (fields : List FieldSpec) {v : String}
    (hv : IsVariable v) :
    ((deferred properties fields).filter (·.1 = v)).map (·.2) =
      (fields.filter fun f => f.rawText properties = variableText v).map (·.property.name) := by
  induction fields with
  | nil => rfl
  | cons f fields ih =>
    simp only [deferred, List.filterMap_cons] at ih ⊢
    cases hwaits : f.waits? properties with
    | none =>
      have htext : f.rawText properties ≠ variableText v := fun htext => by
        rw [FieldSpec.waits?_eq_some_iff.2 ⟨hv, htext, rfl⟩] at hwaits
        cases hwaits
      simp [htext, ih]
    | some entry =>
      obtain ⟨w, name⟩ := entry
      obtain ⟨hw, htext, rfl⟩ := FieldSpec.waits?_eq_some_iff.1 hwaits
      by_cases h : w = v
      · subst h; simp [htext, ih]
      · have hother : f.rawText properties ≠ variableText v := fun htext' => by
          rw [FieldSpec.waits?_eq_some_iff.2 ⟨hv, htext', rfl⟩] at hwaits
          cases hwaits
          exact h rfl
        simp [h, hother, ih]

theorem mem_deferred {properties : Json} {fields : List FieldSpec} {v name : String} :
    (v, name) ∈ deferred properties fields ↔
      ∃ f ∈ fields, IsVariable v ∧ f.rawText properties = variableText v ∧ f.property.name = name := by
  simp only [deferred, List.mem_filterMap, FieldSpec.waits?_eq_some_iff]

/-- Of several fields one can be read and the others cannot. -/
def Exclusive (properties : Json) (fields : List FieldSpec) : Prop :=
  ∃ before f after, fields = before ++ f :: after ∧
    (∃ outcome, (f.source properties).extract [] = .ok outcome) ∧
    ∀ g ∈ before ++ after, (g.source properties).Unset

theorem waits?_of_unset {properties : Json} {f : FieldSpec} (h : (f.source properties).Unset) :
    f.waits? properties = none := by
  have hnone : awaited? (f.rawText properties) = none := h.awaited?_eq_none
  simp [FieldSpec.waits?, hnone]

/-- Of exclusive fields only the one that can be read may wait. -/
theorem deferred_of_unset {properties : Json} {before after : List FieldSpec} (f : FieldSpec)
    (h : ∀ g ∈ before ++ after, (g.source properties).Unset) :
    deferred properties (before ++ f :: after) = (f.waits? properties).toList := by
  have hnone : ∀ fields : List FieldSpec, (∀ g ∈ fields, (g.source properties).Unset) →
      deferred properties fields = [] := fun fields hfields =>
    List.filterMap_eq_nil_iff.2 fun g hg => waits?_of_unset (hfields g hg)
  have hbefore := hnone before fun g hg => h g (List.mem_append_left _ hg)
  have hafter := hnone after fun g hg => h g (List.mem_append_right _ hg)
  rw [deferred_append, hbefore, deferred, List.filterMap_cons]
  rw [deferred] at hafter
  rw [hafter]
  cases f.waits? properties <;> rfl

/-! ## Reading -/

namespace Reading

variable {files : FileTree} {settings : Settings} {properties : Json} {r r' : Reading} {s t : Session}

theorem assign_ok [Platform] {p : Property} {literal : Literal}
    (h : (assign files settings r p literal).outcome s = (.ok r', t)) :
    r'.slots = r.slots ∧ r'.shape.kind = r.shape.kind := by
  unfold assign at h
  split at h
  · cases h; exact ⟨rfl, rfl⟩
  · obtain ⟨symbology, u, -, h⟩ := Act.outcome_bind_ok.1 h
    obtain ⟨shape, u', hshape, h⟩ := Act.outcome_bind_ok.1 h
    cases h; exact ⟨rfl, Shape.kind_assign hshape⟩
  · obtain ⟨shape, u, hshape, h⟩ := Act.outcome_bind_ok.1 h
    cases h; exact ⟨rfl, Shape.kind_assign hshape⟩

theorem take_ok [Platform] {p : Property} {slots : SlotMap} {value : Option Literal}
    (h : (take files settings r p slots value).outcome s = (.ok r', t)) :
    r'.slots = slots ∧ r'.shape.kind = r.shape.kind := by
  unfold take at h
  split at h
  · cases h; exact ⟨rfl, rfl⟩
  · exact assign_ok h

/-- A reading goes on when fields have been read: those that stand for variables wait as well, and the
shape is of the kind that it was. -/
def Extends (properties : Json) (fields : List FieldSpec) (r r' : Reading) : Prop :=
  r'.slots = r.slots.addAll (deferred properties fields) ∧ r'.shape.kind = r.shape.kind

theorem Extends.append {fields others : List FieldSpec} {r'' : Reading}
    (h : Extends properties fields r r') (h' : Extends properties others r' r'') :
    Extends properties (fields ++ others) r r'' := by
  refine ⟨?_, h'.2.trans h.2⟩
  rw [h'.1, h.1, deferred_append, SlotMap.addAll_append]

/-- Taking up what a field gives is reading the field. -/
theorem extends_of_take [Platform] {f : FieldSpec} {slots : SlotMap} {value : Option Literal}
    (hextract : (f.source properties).extract r.slots = .ok (slots, value))
    (htake : (take files settings r f.property slots value).outcome s = (.ok r', t)) :
    Extends properties [f] r r' := by
  obtain ⟨hslots, hkind⟩ := take_ok htake
  refine ⟨?_, hkind⟩
  rw [hslots]
  rcases Candidate.extract_ok hextract with ⟨v, hv, rfl, -⟩ | ⟨hnone, rfl, -⟩
  · have hv : awaited? (f.rawText properties) = some v := hv
    simp only [deferred, List.filterMap_cons, FieldSpec.waits?, hv]
    rfl
  · have hnone : awaited? (f.rawText properties) = none := hnone
    simp only [deferred, List.filterMap_cons, FieldSpec.waits?, hnone]
    rfl

theorem extends_of_readText [Platform] {f : FieldSpec}
    (h : (readText files settings r f (f.rawText properties)).outcome s = (.ok r', t)) :
    Extends properties [f] r r' := by
  obtain ⟨⟨slots, value⟩, u, hextract, htake⟩ := Act.outcome_bind_ok.1 h
  obtain ⟨hextract, -⟩ := Act.outcome_ofExcept_ok.1 hextract
  exact extends_of_take hextract htake

/-- Of exclusive fields with their texts one gives what is extracted, and no other can be read. -/
theorem extractExclusive_fields {fields : List FieldSpec} {texts : List String} {slots after : SlotMap}
    {value : Option Literal} {place : Nat} (htexts : fields.mapM (·.textIn properties) = .ok texts)
    (h : Candidate.extractExclusive ((fields.zip texts).map fun (f, text) => f.candidate text) slots =
      .ok (after, value, place)) :
    ∃ before f others, fields = before ++ f :: others ∧ fields[place]? = some f ∧
      (∀ g ∈ before ++ others, (g.source properties).Unset) ∧
      (f.source properties).extract slots = .ok (after, value) := by
  rw [candidates_eq htexts] at h
  obtain ⟨before, c, others, hsplit, rfl, hc, hunset⟩ := Candidate.extractExclusive_ok h
  obtain ⟨before, rest, rfl, rfl, hrest⟩ := List.map_eq_append_iff.1 hsplit
  obtain ⟨f, others, rfl, rfl, rfl⟩ := List.map_eq_cons_iff.1 hrest
  have hunset : ∀ g ∈ before ++ others, (g.source properties).Unset := fun g hg =>
    hunset _ (by rw [← List.map_append]; exact List.mem_map_of_mem hg)
  exact ⟨before, f, others, rfl, by simp, hunset, hc⟩

/-- Reading exclusive fields takes up what one of them gives, and no other could be read. -/
theorem readExclusive_ok [Platform] {fields : List FieldSpec}
    (h : (readGroup files settings properties r (.exclusive fields)).outcome s = (.ok r', t)) :
    ∃ before f after slots value u, fields = before ++ f :: after ∧
      (∀ g ∈ before ++ after, (g.source properties).Unset) ∧
      (f.source properties).extract r.slots = .ok (slots, value) ∧
      (take files settings r f.property slots value).outcome u = (.ok r', t) := by
  obtain ⟨texts, u, htexts, h⟩ := Act.outcome_bind_ok.1 h
  obtain ⟨⟨slots, value, place⟩, u', hextract, h⟩ := Act.outcome_bind_ok.1 h
  obtain ⟨before, f, after, hfields, hplace, hunset, hf⟩ :=
    extractExclusive_fields (Act.outcome_ofExcept_ok.1 htexts).1 (Act.outcome_ofExcept_ok.1 hextract).1
  simp only [hplace] at h
  exact ⟨before, f, after, slots, value, u', hfields, hunset, hf, h⟩

/-- Reading exclusive fields is reading all of them, and just one of them could be read. -/
theorem extends_of_readExclusive [Platform] {fields : List FieldSpec}
    (h : (readGroup files settings properties r (.exclusive fields)).outcome s = (.ok r', t)) :
    Extends properties fields r r' ∧ Exclusive properties fields := by
  obtain ⟨before, f, after, slots, value, u, rfl, hunset, hc, htake⟩ := readExclusive_ok h
  have hself : deferred properties ([] ++ f :: []) = (f.waits? properties).toList :=
    deferred_of_unset f (by simp)
  have hdeferred : deferred properties (before ++ f :: after) = deferred properties [f] :=
    (deferred_of_unset f hunset).trans hself.symm
  obtain ⟨hslots, hkind⟩ := extends_of_take hc htake
  refine ⟨⟨by rw [hslots, hdeferred], hkind⟩, before, f, after, rfl, ?_, hunset⟩
  rw [Candidate.extract_eq_merge] at hc
  obtain ⟨outcome, houtcome, -⟩ := Except.map_ok_iff.1 hc
  exact ⟨outcome, houtcome⟩

/-- What reading one place of the order comes to. Of exclusive fields just one could be read. -/
theorem extends_of_readGroup [Platform] {group : FieldGroup}
    (h : (readGroup files settings properties r group).outcome s = (.ok r', t)) :
    Extends properties group.fields r r' ∧
      ∀ fields, group = .exclusive fields → Exclusive properties fields := by
  cases group with
  | single f =>
    obtain ⟨text, u, htext, h⟩ := Act.outcome_bind_ok.1 h
    obtain rfl := FieldSpec.textIn_ok (Act.outcome_ofExcept_ok.1 htext).1
    exact ⟨extends_of_readText h, fun _ heq => by cases heq⟩
  | optional f =>
    obtain ⟨text, u, htext, h⟩ := Act.outcome_bind_ok.1 h
    obtain rfl := FieldSpec.textIn_ok (Act.outcome_ofExcept_ok.1 htext).1
    refine ⟨?_, fun _ heq => by cases heq⟩
    split at h
    · rename_i hempty
      cases h
      have hnone : f.waits? properties = none := by rw [FieldSpec.waits?, hempty]; rfl
      exact ⟨by simp only [FieldGroup.fields, deferred, List.filterMap_cons, hnone]; rfl, rfl⟩
    · exact extends_of_readText h
  | exclusive fields =>
    obtain ⟨hextends, hexclusive⟩ := extends_of_readExclusive h
    exact ⟨hextends, fun _ heq => by cases heq; exact hexclusive⟩

theorem extends_of_readGroups [Platform] {groups : List FieldGroup}
    (h : (readGroups files settings properties r groups).outcome s = (.ok r', t)) :
    Extends properties (groups.flatMap FieldGroup.fields) r r' ∧
      ∀ fields, .exclusive fields ∈ groups → Exclusive properties fields := by
  induction groups generalizing r s with
  | nil => cases h; exact ⟨⟨rfl, rfl⟩, by simp⟩
  | cons group groups ih =>
    obtain ⟨between, u, hgroup, hrest⟩ := Act.outcome_bind_ok.1 h
    obtain ⟨hextends, hexclusive⟩ := extends_of_readGroup hgroup
    obtain ⟨hextends', hexclusive'⟩ := ih hrest
    refine ⟨hextends.append hextends', fun fields hmem => ?_⟩
    rcases List.mem_cons.1 hmem with heq | hmem
    · exact hexclusive fields heq.symm
    · exact hexclusive' fields hmem

theorem kind_finish {now : Calendar.Moment} {shape : Shape} (h : r.finish now = .ok shape) :
    shape.kind = r.shape.kind := by
  unfold finish at h
  split at h
  · rename_i heq _
    rw [heq]
    split at h <;> cases h
    rfl
  · cases h
    rfl

end Reading

namespace Component

/-- What a component that has been loaded waits for. -/
theorem load_ok [Platform] {files : FileTree} {settings : Settings} {now : Calendar.Moment} {kind : ShapeKind}
    {properties : Json} {c : Component} {s t : Session}
    (h : (load files settings now kind properties).outcome s = (.ok c, t)) :
    c.slots = SlotMap.addAll [] (deferred properties kind.fields) ∧ c.shape.kind = kind ∧
      c.settings = some settings ∧
      ∀ fields, .exclusive fields ∈ FieldGroup.ofKind kind → Exclusive properties fields := by
  unfold load at h
  split at h
  · obtain ⟨read, u, hread, h⟩ := Act.outcome_bind_ok.1 h
    obtain ⟨shape, u', hshape, h⟩ := Act.outcome_bind_ok.1 h
    cases h
    obtain ⟨⟨hslots, hkind⟩, hexclusive⟩ := Reading.extends_of_readGroups hread
    refine ⟨hslots, ?_, rfl, hexclusive⟩
    rw [Reading.kind_finish (Act.outcome_ofExcept_ok.1 hshape).1, hkind, Shape.kind_empty]
  · cases h

end Component

/-! ## Sound slots -/

/-- Slots of properties of a kind that write to different parts of a shape. -/
structure SlotMap.Sound (kind : ShapeKind) (slots : SlotMap) : Prop where
  distinct : slots.Distinct
  occupied : slots.Occupied
  known : ∀ name ∈ slots.properties, ∃ p ∈ kind.properties, p.name = name
  apart : (slots.properties.map Property.targetNamed).Nodup

namespace SlotMap.Sound

variable {kind : ShapeKind} {slots : SlotMap}

theorem nodup (h : slots.Sound kind) : slots.properties.Nodup := h.apart.of_map _

theorem sublist (h : slots.Sound kind) {fewer : SlotMap} (hsub : fewer.Sublist slots) :
    fewer.Sound kind := by
  have hproperties : fewer.properties.Sublist slots.properties := List.Sublist.flatMap hsub _
  refine ⟨h.distinct.sublist hsub, fun entry hmem => h.occupied entry (hsub.subset hmem), ?_, ?_⟩
  · exact fun name hmem => h.known name (hproperties.subset hmem)
  · exact h.apart.sublist (hproperties.map _)

end SlotMap.Sound

/-- One field at most waits at each place of the order. -/
theorem deferred_group {properties : Json} {group : FieldGroup}
    (h : ∀ fields, group = .exclusive fields → Exclusive properties fields) :
    ∃ f ∈ group.fields, deferred properties group.fields = (f.waits? properties).toList := by
  cases group with
  | single f | optional f =>
    refine ⟨f, List.mem_singleton_self f, ?_⟩
    simp only [FieldGroup.fields, deferred, List.filterMap_cons]
    cases f.waits? properties <;> rfl
  | exclusive fields =>
    obtain ⟨before, f, after, rfl, -, hunset⟩ := h fields rfl
    exact ⟨f, by simp [FieldGroup.fields], deferred_of_unset f hunset⟩

/-- The properties that wait write to parts of the places they were read at. -/
theorem deferred_targets_sublist {properties : Json} {groups : List FieldGroup}
    (htarget : ∀ group ∈ groups, ∀ f ∈ group.fields, some f.property.target = group.target)
    (hexclusive : ∀ fields, .exclusive fields ∈ groups → Exclusive properties fields) :
    ((deferred properties (groups.flatMap FieldGroup.fields)).map (Property.targetNamed ·.2)).Sublist
      (groups.map FieldGroup.target) := by
  induction groups with
  | nil => exact .slnil
  | cons group groups ih =>
    have hrest := ih (fun group hmem => htarget group (List.mem_cons_of_mem _ hmem)) fun fields hmem =>
      hexclusive fields (List.mem_cons_of_mem _ hmem)
    obtain ⟨f, hf, hdeferred⟩ := deferred_group fun fields heq =>
      hexclusive fields (heq ▸ List.mem_cons_self)
    rw [List.flatMap_cons, deferred_append, hdeferred, List.map_append, List.map_cons]
    cases hwaits : f.waits? properties with
    | none => exact hrest.cons _
    | some entry =>
      obtain ⟨v, name⟩ := entry
      obtain ⟨-, -, rfl⟩ := FieldSpec.waits?_eq_some_iff.1 hwaits
      have hgroup : Property.targetNamed f.property.name = group.target :=
        (Property.targetNamed_name _).trans (htarget group List.mem_cons_self f hf)
      simp only [Option.toList_some, List.map_cons, List.map_nil, List.singleton_append, hgroup]
      exact hrest.cons_cons _

namespace Component

variable {files : FileTree} {settings : Settings} {now : Calendar.Moment} {kind : ShapeKind}
  {properties : Json} {c : Component} {s t : Session}

theorem distinct_of_load [Platform] (h : (load files settings now kind properties).outcome s = (.ok c, t)) :
    c.slots.Distinct := by
  rw [(load_ok h).1]
  refine SlotMap.addAll_induct (P := fun slots => slots.Distinct) List.nodup_nil ?_
  exact fun slots awaited property _ hslots => hslots.insert awaited _

/-- Under every variable wait the properties of the fields that stand for it. -/
theorem mem_slots_of_load [Platform] (h : (load files settings now kind properties).outcome s = (.ok c, t))
    {v : String} {names : List String} (hmem : (v, names) ∈ c.slots) {name : String} (hname : name ∈ names) :
    IsVariable v ∧ ∃ f ∈ kind.fields, f.rawText properties = variableText v ∧ f.property.name = name := by
  have hnames := SlotMap.getD_get?_addAll [] (deferred properties kind.fields) v
  rw [← (load_ok h).1, Dictionary.get?_of_mem (distinct_of_load h) hmem] at hnames
  simp only [Option.getD_some, Dictionary.get?, Option.getD_none, List.nil_append] at hnames
  rw [hnames, List.mem_map] at hname
  obtain ⟨⟨w, name⟩, hfilter, rfl⟩ := hname
  obtain ⟨hentry, hw⟩ := List.mem_filter.1 hfilter
  obtain ⟨f, hf, hv, htext, hproperty⟩ := mem_deferred.1 hentry
  cases of_decide_eq_true hw
  exact ⟨hv, f, hf, htext, hproperty⟩

/-- The properties that wait in a component that has been loaded, by their fields. -/
theorem mem_properties_of_load [Platform] (h : (load files settings now kind properties).outcome s = (.ok c, t))
    {name : String} :
    name ∈ c.slots.properties ↔
      ∃ f ∈ kind.fields, f.property.name = name ∧
        ∃ v, IsVariable v ∧ f.rawText properties = variableText v := by
  obtain ⟨hslots, -⟩ := load_ok h
  rw [hslots, (SlotMap.properties_addAll_perm [] _).mem_iff]
  simp only [SlotMap.properties, List.flatMap_nil, List.nil_append, List.mem_map, Prod.exists,
    exists_eq_right, mem_deferred]
  constructor
  · rintro ⟨v, f, hf, hv, htext, hname⟩; exact ⟨f, hf, hname, v, hv, htext⟩
  · rintro ⟨f, hf, hname, v, hv, htext⟩; exact ⟨v, f, hf, hv, htext, hname⟩

theorem sound_of_load [Platform] (h : (load files settings now kind properties).outcome s = (.ok c, t)) :
    c.slots.Sound kind := by
  obtain ⟨hslots, -, -, hexclusive⟩ := load_ok h
  refine ⟨distinct_of_load h, ?_, fun name hname => ?_, ?_⟩
  · rw [hslots]
    refine SlotMap.addAll_induct (P := SlotMap.Occupied) (by simp [SlotMap.Occupied]) ?_
    exact fun slots awaited property _ hslots => hslots.add awaited property
  · obtain ⟨f, hf, rfl, -⟩ := (mem_properties_of_load h).1 hname
    exact ⟨f.property, List.mem_map_of_mem hf, rfl⟩
  · have hperm : c.slots.properties.Perm ((deferred properties kind.fields).map (·.2)) := by
      rw [hslots]
      exact SlotMap.properties_addAll_perm [] _
    rw [(hperm.map Property.targetNamed).nodup_iff, List.map_map]
    exact kind.target_nodup.sublist (deferred_targets_sublist kind.target_of_mem hexclusive)

end Component

end PageTemplate
