/-
Assignments and the table of fields. A conversion that fails refuses the value,
with few exceptions (`Value.asDecimal_fails`, `Value.asMoment_fails`), and so
does the assignment of a property that there is (`RectangleShape.assign_fails`
and those of the other shapes). Hence a shape has every property that its kind
reads (`avoids_assign`); and no assignment changes what a shape is
(`kind_assign`). Besides computing, an assignment asks for fonts and reads
files at most; so it has what properties these and all sequences have
(`assign_induct`).
-/
import PageTemplate.Component.Reading
import PageTemplate.Proofs.Result
import PageTemplate.Proofs.Session.Outcome

namespace PageTemplate

/-- The fields at one place of the order. -/
def FieldGroup.fields : FieldGroup → List FieldSpec
  | .single f => [f]
  | .exclusive fs => fs
  | .optional f => [f]

namespace ShapeKind

/-- The fields of a kind, in the order of reading. -/
def fields (kind : ShapeKind) : List FieldSpec := (FieldGroup.ofKind kind).flatMap FieldGroup.fields

/-- The properties of a kind, in the order of reading. -/
def properties (kind : ShapeKind) : List Property := kind.fields.map (·.property)

end ShapeKind

/-- The faults that refuse a property for being none of the shape's. -/
def Fault.RefusesProperty (fault : Fault) : Prop := ∃ name, fault = .setter (.unknownProperty name)

theorem FailsOnly.avoids {α : Type} {x : Except SetterFault α}
    (h : FailsOnly (fun e => ¬ (Fault.setter e).RefusesProperty) x) :
    Act.Avoids Fault.RefusesProperty (Act.ofExcept .setter x) := Act.avoids_ofExcept h

theorem avoids_ofComponent {α : Type} (x : Except ComponentFault α) :
    Act.Avoids Fault.RefusesProperty (Act.ofExcept .component x) :=
  Act.avoids_ofExcept fun _ _ ⟨_, hname⟩ => by cases hname

variable [Platform]

/-- A value that is refused is shown in the fault, or it cannot be shown. -/
theorem Value.refuseAs_error {α : Type} {fault : String → SetterFault} {v : Value} {e : SetterFault}
    (h : (v.refuseAs fault : Except SetterFault α) = .error e) :
    (∃ shown, e = fault shown) ∨ ∃ failure, v.shown = .error failure ∧ e = .unshown failure := by
  rcases Except.bind_error_iff.1 h with h | ⟨shown, -, h⟩
  · obtain ⟨failure, hshown, rfl⟩ := Except.mapError_error_iff.1 h
    exact .inr ⟨failure, hshown, rfl⟩
  · cases h
    exact .inl ⟨shown, rfl⟩

theorem Value.refuseAs_ne_ok {α : Type} {fault : String → SetterFault} {v : Value} {a : α} :
    v.refuseAs fault ≠ .ok a := by
  intro h
  obtain ⟨shown, -, h⟩ := Except.bind_ok_iff.1 h
  cases h

/-- The faults of a value that a conversion refuses: they blame the value, not the property, and the value
is shown if it can be. -/
def SetterFault.Refuses (v : Value) (e : SetterFault) : Prop :=
  (e.kind = .setter ∧ ∀ name, e ≠ .unknownProperty name) ∨
    ∃ failure, v.shown = .error failure ∧ e = .unshown failure

/-- The faults of a property that is given a value: the value is refused, or the property is not one of those
that there are. -/
def SetterFault.RefusesFor (properties : List Property) (p : Property) (v : Value) (e : SetterFault) : Prop :=
  e.Refuses v ∨ p ∉ properties ∧ e = .unknownProperty p.name

namespace Value

variable {α : Type} (v : Value)

theorem refuseAs_fails {fault : String → SetterFault}
    (hfault : ∀ shown, (fault shown).kind = .setter ∧ ∀ name, fault shown ≠ .unknownProperty name) :
    FailsOnly (SetterFault.Refuses v) (v.refuseAs fault : Except SetterFault α) := by
  intro e h
  obtain ⟨shown, rfl⟩ | hunshown := refuseAs_error h
  · exact .inl (hfault shown)
  · exact .inr hunshown

theorem refuse_fails (wanted : Wanted) :
    FailsOnly (SetterFault.Refuses v) (v.refuse wanted : Except SetterFault α) :=
  v.refuseAs_fails fun _ => ⟨rfl, fun _ h => by cases h⟩

theorem asText_fails : FailsOnly (SetterFault.Refuses v) v.asText := by
  unfold asText
  split
  · exact .ok _
  · exact v.refuse_fails .text

theorem asInteger_fails : FailsOnly (SetterFault.Refuses v) v.asInteger := by
  unfold asInteger
  split
  · exact .ok _
  · exact v.refuse_fails .integer

theorem asByte_fails : FailsOnly (SetterFault.Refuses v) v.asByte := by
  unfold asByte
  split
  · split
    · exact .ok _
    · exact v.refuse_fails .byte
  · exact v.refuse_fails .byte

theorem asDecimal_fails :
    FailsOnly (fun e => e.Refuses v ∨ ∃ failure, v.number? = some (.error failure) ∧ e = .number failure)
      v.asDecimal := by
  unfold asDecimal
  split
  · exact .ok _
  · rename_i failure hnumber
    intro e h
    cases h
    exact .inr ⟨failure, hnumber, rfl⟩
  · exact (v.refuse_fails .decimal).mono fun _ => .inl

theorem asSymbology_fails : FailsOnly (SetterFault.Refuses v) v.asSymbology := by
  unfold asSymbology
  split
  · exact .ok _
  · intro e h
    split at h <;> cases h
    exact .inl ⟨rfl, fun _ h => by cases h⟩
  · exact v.refuse_fails .symbology

theorem asAlignment_fails : FailsOnly (SetterFault.Refuses v) v.asAlignment := by
  unfold asAlignment
  split
  · exact .ok _
  · exact .ok _
  · exact v.refuseAs_fails fun _ => ⟨rfl, fun _ h => by cases h⟩

theorem asMoment_fails :
    FailsOnly (fun e => e.Refuses v ∨ ∃ layout text field, v.items? = some [.string layout, .string text] ∧
      Calendar.Moment.parse layout text = .error (.repeated field) ∧ e = .repeatedField field) v.asMoment := by
  unfold asMoment
  split
  · exact .ok _
  · split
    · rename_i layout text hitems
      intro e h
      split at h
      · cases h
      · cases h
        exact .inl (.inl ⟨rfl, fun _ h => by cases h⟩)
      · rename_i field hparse
        cases h
        exact .inr ⟨layout, text, field, hitems, hparse, rfl⟩
    · exact (v.refuse_fails .moment).mono fun _ => .inl

end Value

/-! ## The shapes one by one -/

section Shapes

variable {α : Type} {properties : List Property} {p : Property} {v : Value}

theorem FailsOnly.refusesFor {x : Except SetterFault α} (h : FailsOnly (SetterFault.Refuses v) x) :
    FailsOnly (SetterFault.RefusesFor properties p v) x := h.mono fun _ => .inl

theorem refuseProperty_fails (hp : p ∉ properties) :
    FailsOnly (SetterFault.RefusesFor properties p v) (refuseProperty p : Except SetterFault α) := by
  intro e h
  cases h
  exact .inr ⟨hp, rfl⟩

theorem RectangleShape.assign_fails (r : RectangleShape) (p : Property) (v : Value) :
    FailsOnly (SetterFault.RefusesFor ShapeKind.rectangle.properties p v) (r.assign p v) := by
  cases p with
  | topLeftX | topLeftY | width | height => exact (v.asInteger_fails.map _).refusesFor
  | colour => exact (v.asByte_fails.map _).refusesFor
  | barColour ch | backgroundColour ch => cases ch <;> exact refuseProperty_fails (by decide)
  | _ => exact refuseProperty_fails (by decide)

theorem CircleShape.assign_fails (c : CircleShape) (p : Property) (v : Value) :
    FailsOnly (SetterFault.RefusesFor ShapeKind.circle.properties p v) (c.assign p v) := by
  cases p with
  | centreX | centreY | radius => exact (v.asInteger_fails.map _).refusesFor
  | colour => exact (v.asByte_fails.map _).refusesFor
  | barColour ch | backgroundColour ch => cases ch <;> exact refuseProperty_fails (by decide)
  | _ => exact refuseProperty_fails (by decide)

theorem BarcodeShape.assign_fails (b : BarcodeShape) (p : Property) (v : Value) :
    FailsOnly (SetterFault.RefusesFor ShapeKind.barcode.properties p v) (b.assign p v) := by
  cases p with
  | content => exact (v.asText_fails.map _).refusesFor
  | barcodeType => exact (v.asSymbology_fails.map _).refusesFor
  | topLeftX | topLeftY | width | height => exact (v.asInteger_fails.map _).refusesFor
  | barColour | backgroundColour => exact (v.asByte_fails.map _).refusesFor
  | colour ch => cases ch <;> exact refuseProperty_fails (by decide)
  | _ => exact refuseProperty_fails (by decide)

/-- The properties of a line of text. -/
def FieldGroup.lineProperties : List Property :=
  FieldGroup.line.flatMap fun group => group.fields.map (·.property)

/-- The size of a line is the one plain property that is given a number. -/
theorem TextLine.assignPlain_fails (line : TextLine) (hsize : p ≠ .size) (hfont : p.fontRequest? = none) :
    FailsOnly (SetterFault.RefusesFor FieldGroup.lineProperties p v) (line.assignPlain p v) := by
  cases p with
  | startX | startY | maxWidth => exact (v.asInteger_fails.map _).refusesFor
  | size => exact absurd rfl hsize
  | alignment => exact (v.asAlignment_fails.map _).refusesFor
  | colour => exact (v.asByte_fails.map _).refusesFor
  | fontName | fontFile | fontAddress => cases hfont
  | barColour ch | backgroundColour ch => cases ch <;> exact refuseProperty_fails (by decide)
  | _ => exact refuseProperty_fails (by decide)

theorem ImageShape.assignPlain_fails (i : ImageShape) (hdata : p ≠ .data) (hfile : p ≠ .fileName) :
    FailsOnly (SetterFault.RefusesFor ShapeKind.image.properties p v) (i.assignPlain p v) := by
  cases p with
  | topLeftX | topLeftY | width | height => exact (v.asInteger_fails.map _).refusesFor
  | data => exact absurd rfl hdata
  | fileName => exact absurd rfl hfile
  | colour ch | barColour ch | backgroundColour ch => cases ch <;> exact refuseProperty_fails (by decide)
  | _ => exact refuseProperty_fails (by decide)

end Shapes

/-! ## Actions -/

theorem SetterFault.Refuses.not_refusesProperty {v : Value} {e : SetterFault} (h : e.Refuses v) :
    ¬ (Fault.setter e).RefusesProperty := by
  rintro ⟨name, hname⟩
  cases hname
  obtain ⟨-, hproperty⟩ | ⟨_, -, hunshown⟩ := h
  · exact hproperty name rfl
  · cases hunshown

section Fails

variable {α : Type} {properties : List Property} {p : Property} {v : Value} {x : Except SetterFault α}

theorem FailsOnly.avoids_of_refuses (h : FailsOnly (SetterFault.Refuses v) x) :
    Act.Avoids Fault.RefusesProperty (Act.ofExcept .setter x) :=
  (h.mono fun _ he => he.not_refusesProperty).avoids

/-- A property that is there is not refused. -/
theorem FailsOnly.avoids_of_mem (h : FailsOnly (SetterFault.RefusesFor properties p v) x)
    (hp : p ∈ properties) : Act.Avoids Fault.RefusesProperty (Act.ofExcept .setter x) := by
  refine FailsOnly.avoids (h.mono fun e he => ?_)
  obtain he | ⟨hnot, -⟩ := he
  · exact he.not_refusesProperty
  · exact absurd hp hnot

end Fails

theorem avoids_font (files : FileTree) (settings : Settings) (request : Font.Request) (text : String) :
    Act.Avoids Fault.RefusesProperty (Act.font files settings request text) := by
  intro s fault t h
  rw [Act.outcome_font] at h
  split at h
  · cases h
    rintro ⟨name, hname⟩
    cases hname
  · cases h

theorem avoids_pictureOfValue (v : Value) : Act.Avoids Fault.RefusesProperty (pictureOfValue v) := by
  unfold pictureOfValue
  split
  · exact avoids_ofComponent _
  · exact avoids_ofComponent _
  · refine Act.avoids_bind ?_ fun bytes => avoids_ofComponent _
    intro s fault t h
    unfold Act.readOnce at h
    obtain h | ⟨session, u, -, h⟩ := Act.outcome_bind_error.1 h
    · cases h
    · split at h <;> cases h
  · exact (v.refuse_fails .picture).avoids_of_refuses

theorem TextLine.avoids_assign (files : FileTree) (settings : Settings) (line : TextLine) {p : Property}
    (v : Value) (hp : p ∈ FieldGroup.lineProperties) :
    Act.Avoids Fault.RefusesProperty (line.assign files settings p v) := by
  unfold TextLine.assign
  split
  · refine Act.avoids_bind v.asText_fails.avoids_of_refuses fun text => ?_
    exact Act.avoids_bind (avoids_font files settings _ text) fun font => Act.avoids_pure _
  · rename_i hfont
    by_cases hsize : p = .size
    · subst hsize
      refine FailsOnly.avoids ((v.asDecimal_fails.map _).mono fun e he => ?_)
      obtain he | ⟨failure, -, rfl⟩ := he
      · exact he.not_refusesProperty
      · rintro ⟨name, hname⟩
        cases hname
    · exact (line.assignPlain_fails hsize hfont).avoids_of_mem hp

theorem ImageShape.avoids_assign (files : FileTree) (settings : Settings) (i : ImageShape) {p : Property}
    (v : Value) (hp : p ∈ ShapeKind.image.properties) :
    Act.Avoids Fault.RefusesProperty (i.assign files settings p v) := by
  unfold ImageShape.assign
  split
  · exact Act.avoids_bind (avoids_pictureOfValue v) fun picture => Act.avoids_pure _
  · refine Act.avoids_bind v.asText_fails.avoids_of_refuses fun path => ?_
    exact Act.avoids_bind (avoids_ofComponent _) fun picture => Act.avoids_pure _
  · rename_i hdata hfile
    exact (i.assignPlain_fails hdata hfile).avoids_of_mem hp

theorem TextShape.avoids_assign (files : FileTree) (settings : Settings) (t : TextShape) {p : Property}
    (v : Value) (hp : p ∈ ShapeKind.text.properties) :
    Act.Avoids Fault.RefusesProperty (t.assign files settings p v) := by
  unfold TextShape.assign
  split
  · exact (v.asText_fails.map _).avoids_of_refuses
  · rename_i hcontent
    refine Act.avoids_bind (t.line.avoids_assign files settings v ?_) fun line => Act.avoids_pure _
    rcases List.mem_cons.1 hp with rfl | hline
    · exact absurd rfl hcontent
    · exact hline

theorem MomentShape.avoids_assign (files : FileTree) (settings : Settings) (d : MomentShape) {p : Property}
    (v : Value) (hp : p ∈ ShapeKind.datetime.properties) :
    Act.Avoids Fault.RefusesProperty (d.assign files settings p v) := by
  unfold MomentShape.assign
  split
  · refine FailsOnly.avoids ((v.asMoment_fails.map _).mono fun e he => ?_)
    obtain he | ⟨layout, text, field, -, -, rfl⟩ := he
    · exact he.not_refusesProperty
    · rintro ⟨name, hname⟩
      cases hname
  · exact (v.asText_fails.map _).avoids_of_refuses
  · rename_i htime hformat
    refine Act.avoids_bind (d.line.avoids_assign files settings v ?_) fun line => Act.avoids_pure _
    rcases List.mem_cons.1 hp with rfl | hp
    · exact absurd rfl htime
    · rcases List.mem_cons.1 hp with rfl | hline
      · exact absurd rfl hformat
      · exact hline

namespace Shape

/-- A shape has every property that its kind reads. -/
theorem avoids_assign (files : FileTree) (settings : Settings) (shape : Shape) {p : Property} (v : Value)
    (hp : p ∈ shape.kind.properties) :
    Act.Avoids Fault.RefusesProperty (shape.assign files settings p v) := by
  cases shape with
  | rectangle r => exact ((r.assign_fails p v).map _).avoids_of_mem hp
  | circle c => exact ((c.assign_fails p v).map _).avoids_of_mem hp
  | barcode b => exact ((b.assign_fails p v).map _).avoids_of_mem hp
  | text t => exact Act.avoids_bind (t.avoids_assign files settings v hp) fun _ => Act.avoids_pure _
  | datetime d => exact Act.avoids_bind (d.avoids_assign files settings v hp) fun _ => Act.avoids_pure _
  | image i => exact Act.avoids_bind (i.avoids_assign files settings v hp) fun _ => Act.avoids_pure _

theorem avoids_assignNamed (files : FileTree) (settings : Settings) (shape : Shape) {p : Property}
    (v : Value) (hp : p ∈ shape.kind.properties) :
    Act.Avoids Fault.RefusesProperty (shape.assignNamed files settings p.name v) := by
  rw [assignNamed, Property.ofName?_name]
  exact avoids_assign files settings shape v hp

/-- A shape refuses every other property. -/
theorem assign_of_not_mem (files : FileTree) (settings : Settings) (shape : Shape) {p : Property} (v : Value)
    (hp : p ∉ shape.kind.properties) (s : Session) :
    (shape.assign files settings p v).outcome s = (.error (.setter (.unknownProperty p.name)), s) := by
  cases shape <;> simp only [kind] at hp <;> cases p <;>
    first
    | rfl
    | exact absurd (by decide) hp
    | rename_i channel
      exact absurd (by cases channel <;> decide) hp

/-- No assignment changes what a shape is. -/
theorem kind_assign {files : FileTree} {settings : Settings} {shape shape' : Shape} {p : Property}
    {v : Value} {s t : Session} (h : (shape.assign files settings p v).outcome s = (.ok shape', t)) :
    shape'.kind = shape.kind := by
  cases shape with
  | rectangle | circle | barcode =>
    obtain ⟨h, -⟩ := Act.outcome_ofExcept_ok.1 h
    obtain ⟨_, -, rfl⟩ := Except.map_ok_iff.1 h
    rfl
  | text | datetime | image =>
    obtain ⟨_, u, -, h⟩ := Act.outcome_bind_ok.1 h
    cases h
    rfl

theorem kind_assignNamed {files : FileTree} {settings : Settings} {shape shape' : Shape} {name : String}
    {v : Value} {s t : Session}
    (h : (shape.assignNamed files settings name v).outcome s = (.ok shape', t)) :
    shape'.kind = shape.kind := by
  unfold assignNamed at h
  split at h
  · exact kind_assign h
  · cases h

end Shape

/-! ## Properties of all assignments -/

theorem Value.eq_text_of_asText {v : Value} {text : String} (h : v.asText = .ok text) : v = .text text := by
  unfold asText at h
  split at h
  · rename_i s hs
    cases h
    unfold text? at hs
    split at hs <;> cases hs
    rfl
  · exact absurd h refuseAs_ne_ok

section Sequential

variable {files : FileTree} {settings : Settings} {P : {α : Type} → Act α → Prop} (hP : Act.Sequential P)
  {p : Property} {v : Value}
include hP

theorem TextLine.assign_induct (line : TextLine)
    (font : ∀ request text, p.fontRequest? = some request → v = .text text →
      P (Act.font files settings request text)) : P (line.assign files settings p v) := by
  unfold TextLine.assign
  split
  · rename_i request hrequest
    cases htext : v.asText with
    | error fault => exact hP.throw (.setter fault)
    | ok text =>
      rw [Act.ofExcept, pure_bind]
      have hfont := font request text hrequest (Value.eq_text_of_asText htext)
      exact hP.bind hfont fun font => hP.pure { line with font := font }
  · exact hP.ofExcept _

theorem ImageShape.assign_induct (i : ImageShape)
    (readOnce : ∀ number content, v = .file number content → P (Act.readOnce number content)) :
    P (i.assign files settings p v) := by
  unfold ImageShape.assign
  split
  · refine hP.bind ?_ fun picture => hP.pure _
    unfold pictureOfValue
    split
    · exact hP.ofExcept _
    · exact hP.ofExcept _
    · exact hP.bind (readOnce _ _ rfl) fun bytes => hP.ofExcept _
    · exact hP.ofExcept _
  · refine hP.bind (hP.ofExcept _) fun path => ?_
    exact hP.bind (hP.ofExcept _) fun picture => hP.pure _
  · exact hP.ofExcept _

/-- An assignment has every property of sequences that asking for the font of a property, and reading the
file that is its value, have. -/
theorem Shape.assign_induct (shape : Shape)
    (font : ∀ request text, p.fontRequest? = some request → v = .text text →
      P (Act.font files settings request text))
    (readOnce : ∀ number content, v = .file number content → P (Act.readOnce number content)) :
    P (shape.assign files settings p v) := by
  cases shape with
  | rectangle | circle | barcode => exact hP.ofExcept _
  | text t =>
    refine hP.bind ?_ fun t => hP.pure (Shape.text t)
    unfold TextShape.assign
    split
    · exact hP.ofExcept _
    · exact hP.bind (t.line.assign_induct hP font) fun line => hP.pure _
  | datetime d =>
    refine hP.bind ?_ fun d => hP.pure (Shape.datetime d)
    unfold MomentShape.assign
    split
    · exact hP.ofExcept _
    · exact hP.ofExcept _
    · exact hP.bind (d.line.assign_induct hP font) fun line => hP.pure _
  | image i => exact hP.bind (i.assign_induct hP readOnce) fun i => hP.pure (Shape.image i)

end Sequential

end PageTemplate
