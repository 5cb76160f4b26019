/-
The content of texts and barcodes. No assignment but its own changes it
(`Shape.content_assign_other`), and what is painted holds it
(`Shape.Paints.content`). A content that is written as a literal is there from
loading on, and no value that is supplied later changes it
(`content_of_reached`).

Its dollars are doubled in the text of the field, and nothing takes that back:
they are drawn doubled (`literal_dollars_doubled`).
-/
import PageTemplate.Platform.Plain
import PageTemplate.Proofs.Component.Completeness
import PageTemplate.Proofs.Component.Painting
import PageTemplate.Proofs.Field.Escaping

namespace PageTemplate

/-- The text that a shape shows or encodes as it is, for the kinds that have one. -/
def Shape.content? : Shape → Option String
  | .text t => some t.content
  | .barcode b => some b.content
  | .rectangle _ | .circle _ | .datetime _ | .image _ => none

/-- The text that an operation puts on the page. -/
def Operation.content? : Operation → Option String
  | .text _ _ _ content _ => some content
  | .barcode _ symbol _ => some symbol.content
  | .rectangle .. | .circle .. | .image .. => none

/-- The kinds that have a content. -/
def ShapeKind.hasContent (kind : ShapeKind) : Bool := kind.properties.contains .content

/-! ## Assignments -/

section Assign

variable [Platform] {files : FileTree} {settings : Settings} {p : Property} {v : Value} {s t : Session}
  {shape shape' : Shape}

theorem BarcodeShape.content_assign_other {b b' : BarcodeShape} (hp : p ≠ .content) (h : b.assign p v = .ok b') :
    b'.content = b.content := by
  cases p with
  | content => exact absurd rfl hp
  | barcodeType | topLeftX | topLeftY | width | height | barColour | backgroundColour =>
    obtain ⟨_, -, rfl⟩ := Except.map_ok_iff.1 h
    rfl
  | _ => cases h

theorem TextShape.content_assign_other {d d' : TextShape} (hp : p ≠ .content)
    (h : (d.assign files settings p v).outcome s = (.ok d', t)) : d'.content = d.content := by
  unfold assign at h
  split at h
  · exact absurd rfl hp
  · obtain ⟨line, u, -, h⟩ := Act.outcome_bind_ok.1 h
    cases h
    rfl

/-- An assignment to another property leaves the content as it is. -/
theorem Shape.content_assign_other (hp : p ≠ .content)
    (h : (shape.assign files settings p v).outcome s = (.ok shape', t)) : shape'.content? = shape.content? := by
  cases shape with
  | rectangle | circle =>
    obtain ⟨_, -, rfl⟩ := Except.map_ok_iff.1 (Act.outcome_ofExcept_ok.1 h).1
    rfl
  | barcode b =>
    obtain ⟨b', hb, rfl⟩ := Except.map_ok_iff.1 (Act.outcome_ofExcept_ok.1 h).1
    exact congrArg some (BarcodeShape.content_assign_other hp hb)
  | text d =>
    obtain ⟨d', u, hd, h⟩ := Act.outcome_bind_ok.1 h
    cases h
    exact congrArg some (TextShape.content_assign_other hp hd)
  | datetime | image =>
    obtain ⟨_, u, -, h⟩ := Act.outcome_bind_ok.1 h
    cases h
    rfl

theorem Shape.content_assign_self {text : String}
    (h : (shape.assign files settings .content (.text text)).outcome s = (.ok shape', t)) :
    shape'.content? = some text := by
  cases shape with
  | text | barcode => cases h; rfl
  | rectangle | circle | datetime | image => cases h

end Assign

/-! ## Loading -/

namespace Reading

theorem content_finish {r : Reading} {now : Calendar.Moment} {shape : Shape} (h : r.finish now = .ok shape) :
    shape.content? = r.shape.content? := by
  unfold finish at h
  split at h
  · rename_i d offset hd hoffset
    rw [hd]
    split at h <;> cases h
    rfl
  · cases h; rfl

variable [Platform] {files : FileTree} {settings : Settings} {properties : Json} {r r' : Reading} {s t : Session}

theorem content_assign_other {p : Property} {literal : Literal} (hp : p ≠ .content)
    (h : (assign files settings r p literal).outcome s = (.ok r', t)) : r'.shape.content? = r.shape.content? := by
  unfold assign at h
  split at h
  · cases h; rfl
  · obtain ⟨symbology, u, -, h⟩ := Act.outcome_bind_ok.1 h
    obtain ⟨shape, u', hshape, h⟩ := Act.outcome_bind_ok.1 h
    cases h
    exact Shape.content_assign_other hp hshape
  · obtain ⟨shape, u, hshape, h⟩ := Act.outcome_bind_ok.1 h
    cases h
    exact Shape.content_assign_other hp hshape

/-- A place of the order at which the content is not read leaves it as it is. -/
theorem content_of_readGroup_other {group : FieldGroup} (hgroup : ∀ f ∈ group.fields, f.property ≠ .content)
    (h : (readGroup files settings properties r group).outcome s = (.ok r', t)) :
    r'.shape.content? = r.shape.content? := by
  cases groupRead_of_readGroup h with
  | @assigned f slots literal u u' hf _ hassign =>
    have hkept := content_assign_other (hgroup f hf) hassign
    exact hkept
  | waits _ hread => subst hread; rfl
  | skipped _ hread => subst hread; rfl

/-- At its own place a literal content is read as it stands. -/
theorem content_of_readGroup_self {text : String} (htext : (FieldSpec.plain .content).rawText properties = text)
    (hliteral : ∃ literal ≠ "", text = Segments.literalText literal)
    (h : (readGroup files settings properties r (.plain .content)).outcome s = (.ok r', t)) :
    r'.shape.content? = some text := by
  obtain ⟨raw, u, hraw, h⟩ := Act.outcome_bind_ok.1 h
  obtain rfl := FieldSpec.textIn_ok (Act.outcome_ofExcept_ok.1 hraw).1
  rw [htext] at h
  obtain ⟨⟨slots, value⟩, u', hextract, h⟩ := Act.outcome_bind_ok.1 h
  have hvalue : (FieldSpec.candidate (.plain .content) text).extract r.slots = .ok (r.slots, some (.text text)) :=
    Candidate.extract_text_iff.2 ⟨rfl, rfl, hliteral⟩
  obtain ⟨hextract, -⟩ := Act.outcome_ofExcept_ok.1 hextract
  rw [hvalue] at hextract
  cases hextract
  obtain ⟨shape, u, hshape, h⟩ := Act.outcome_bind_ok.1 h
  cases h
  exact Shape.content_assign_self hshape

theorem content_of_readGroups {text : String} {groups : List FieldGroup}
    (htext : (FieldSpec.plain .content).rawText properties = text)
    (hliteral : ∃ literal ≠ "", text = Segments.literalText literal)
    (hgroups : ∀ group ∈ groups, group = .plain .content ∨ ∀ f ∈ group.fields, f.property ≠ .content)
    (h : (readGroups files settings properties r groups).outcome s = (.ok r', t)) :
    r'.shape.content? = if .plain .content ∈ groups then some text else r.shape.content? := by
  induction groups generalizing r s with
  | nil => cases h; rfl
  | cons group groups ih =>
    obtain ⟨between, u, hgroup, hrest⟩ := Act.outcome_bind_ok.1 h
    obtain ⟨hfirst, hothers⟩ := List.forall_mem_cons.1 hgroups
    rw [ih hothers hrest]
    obtain rfl | hother := hfirst
    · rw [if_pos List.mem_cons_self, content_of_readGroup_self htext hliteral hgroup, ite_self]
    · have hne : FieldGroup.plain .content ≠ group := by
        rintro rfl
        exact hother _ (List.mem_singleton_self _) rfl
      rw [content_of_readGroup_other hother hgroup]
      simp only [List.mem_cons, hne, false_or]

end Reading

/-- The content is read at a place of its own. -/
theorem ShapeKind.content_apart (kind : ShapeKind) : ∀ group ∈ FieldGroup.ofKind kind,
    group = .plain .content ∨ ∀ f ∈ group.fields, f.property ≠ .content := by
  cases kind <;> decide

theorem ShapeKind.mem_of_hasContent {kind : ShapeKind} (h : kind.hasContent = true) :
    FieldGroup.plain .content ∈ FieldGroup.ofKind kind := by
  revert h
  cases kind <;> decide

namespace Component

variable [Platform] {files : FileTree} {settings : Settings} {now : Calendar.Moment} {kind : ShapeKind}
  {properties : Json} {c d : Component} {s t : Session} {text : String}

theorem content_of_load (hkind : kind.hasContent = true)
    (htext : (FieldSpec.plain .content).rawText properties = text)
    (hliteral : ∃ literal ≠ "", text = Segments.literalText literal)
    (h : (load files settings now kind properties).outcome s = (.ok c, t)) : c.shape.content? = some text := by
  unfold load at h
  split at h
  · obtain ⟨read, u, hread, h⟩ := Act.outcome_bind_ok.1 h
    obtain ⟨shape, u', hshape, h⟩ := Act.outcome_bind_ok.1 h
    cases h
    have hcontent := Reading.content_of_readGroups htext hliteral kind.content_apart hread
    rw [Reading.content_finish (Act.outcome_ofExcept_ok.1 hshape).1, hcontent,
      if_pos (ShapeKind.mem_of_hasContent hkind)]
  · cases h

/-- A content that is written as a literal waits for nothing. -/
theorem content_not_waiting (htext : (FieldSpec.plain .content).rawText properties = text)
    (hliteral : ∃ literal ≠ "", text = Segments.literalText literal)
    (h : (load files settings now kind properties).outcome s = (.ok c, t)) :
    Property.content.name ∉ c.slots.properties := by
  intro hmem
  obtain ⟨f, hf, hname, v, hv, hvariable⟩ := (mem_properties_of_load h).1 hmem
  obtain rfl : f = .plain .content := by
    obtain ⟨group, hgroup, hf⟩ := List.mem_flatMap.1 hf
    obtain rfl | hother := kind.content_apart group hgroup
    · exact List.mem_singleton.1 hf
    · have hproperty : f.property = .content := by
        have hsame := Property.ofName?_name f.property
        rw [hname, Property.ofName?_name] at hsame
        exact (Option.some.inj hsame).symm
      exact absurd hproperty (hother f hf)
  obtain ⟨literal, hne, rfl⟩ := hliteral
  have hawaited := awaited?_eq_some_iff.2 ⟨hv, hvariable⟩
  rw [htext, awaited?_literalText hne] at hawaited
  cases hawaited

end Component

/-! ## Supplying -/

theorem Shape.Written.content [Platform] {settings : Settings} {shape last : Shape} {writes : List (String × Value)}
    (h : Written settings shape writes last) (hwrites : ∀ write ∈ writes, write.1 ≠ Property.content.name) :
    last.content? = shape.content? := by
  induction h with
  | nil => rfl
  | @cons shape next last files s t name value writes hassign _ ih =>
    obtain ⟨hname, hrest⟩ := List.forall_mem_cons.1 hwrites
    rw [ih hrest]
    unfold assignNamed at hassign
    split at hassign
    · rename_i p hp
      refine content_assign_other ?_ hassign
      rintro rfl
      have hfound := List.find?_some hp
      exact hname (beq_iff_eq.1 hfound).symm
    · cases hassign

namespace Component

variable [Platform] {files : FileTree} {settings : Settings} {now : Calendar.Moment} {kind : ShapeKind}
  {properties : Json} {c d : Component} {s t : Session} {text : String}

/-- Supplying values changes no content that does not wait. -/
theorem content_of_supply {values : Dictionary Value} (hsound : c.slots.Sound kind)
    (hcontent : Property.content.name ∉ c.slots.properties)
    (h : (c.supply files values).outcome s = (.ok d, t)) :
    d.shape.content? = c.shape.content? ∧ Property.content.name ∉ d.slots.properties := by
  have hperm := SlotMap.handed_perm hsound.distinct hsound.occupied values
  have hslots : d.slots = c.slots.without values := (supply_ok hsound.occupied h).1
  refine ⟨(written_of_supply hsound.occupied h).content fun write hwrite hname => hcontent ?_, fun hmem => hcontent ?_⟩
  · rw [← hname]
    exact hperm.subset (List.mem_append_left _ (List.mem_map_of_mem hwrite))
  · rw [hslots] at hmem
    exact hperm.subset (List.mem_append_right _ hmem)

/-- A content that is written as a literal is the text of its field, now and after every supply of values. -/
theorem content_of_reached (hload : (load files settings now kind properties).outcome s = (.ok c, t))
    (hkind : kind.hasContent = true) (htext : (FieldSpec.plain .content).rawText properties = text)
    (hliteral : ∃ literal ≠ "", text = Segments.literalText literal) (hd : Reached c d) :
    d.shape.content? = some text ∧ Property.content.name ∉ d.slots.properties := by
  have hsound := sound_of_load hload
  have hsame := (load_ok hload).2.1
  induction hd with
  | start => exact ⟨content_of_load hkind htext hliteral hload, content_not_waiting htext hliteral hload⟩
  | supply hreached hsupply ih =>
    obtain ⟨hcontent, hwaiting⟩ := content_of_supply (hreached.sound hsound hsame).1 ih.2 hsupply
    exact ⟨hcontent.trans ih.1, hwaiting⟩

end Component

/-! ## Drawing -/

/-- What is painted for a shape with a content holds that content. -/
theorem Shape.Paints.content [Platform] {shape : Shape} {text : String} {page : Canvas} {operation : Operation}
    (h : shape.Paints page operation) (hcontent : shape.content? = some text) : operation.content? = some text := by
  cases h with
  | rectangle | circle | image => cases hcontent
  | barcode => exact hcontent
  | text hwrites =>
    cases shape with
    | text d =>
      cases hwrites
      exact hcontent
    | datetime => cases hcontent
    | rectangle | circle | image | barcode => cases hwrites

/-! ## Doubled dollars -/

theorem FieldSpec.candidate_of_text {f : FieldSpec} (h : f.property.fieldType = .text) (text : String) :
    f.candidate text = .ofText f.property.name text := by
  rw [candidate, h]
  rfl

namespace Component

open Segments

/-- A literal that is written with its dollars doubled is taken apart into itself. But every field of type
text takes it with its dollars doubled, so only a literal without dollars is taken as it was meant, and a
text is the value of some literal field just if its dollars are all doubled. The content of a text or a
barcode has its dollars doubled ever after, and is drawn so. -/
theorem literal_dollars_doubled [Platform] {t : String} (ht : t ≠ "") :
    parse (literalText t) = .ok ⟨t.toList, []⟩ ∧
    (∀ name slots,
      (Candidate.ofText name (literalText t)).extract slots = .ok (slots, some (.text (literalText t)))) ∧
    (∀ f : FieldSpec, f.property.fieldType = .text → ∀ slots,
      (f.candidate (literalText t)).extract slots = .ok (slots, some (.text (literalText t)))) ∧
    (literalText t = t ↔ '$' ∉ t.toList) ∧
    (∀ name, (∃ raw slots after, (Candidate.ofText name raw).extract slots = .ok (after, some (.text t))) ↔
      ∃ u, t = literalText u) ∧
    ∀ files settings now kind properties c s s', ShapeKind.hasContent kind = true →
      (load files settings now kind properties).outcome s = (.ok c, s') →
      (FieldSpec.plain .content).rawText properties = literalText t → ∀ d, Reached c d →
        d.shape.content? = some (literalText t) ∧
        ∀ canvas page, (d.draw canvas).2 = .ok page →
          ∃ operation, d.shape.Paints canvas operation ∧ operation.content? = some (literalText t) ∧
            page = { canvas with operations := canvas.operations ++ [operation] } := by
  refine ⟨parse_literalText ht, fun name slots => Candidate.extract_literalText ht name slots,
    fun f hf slots => ?_, literalText_eq_self_iff, fun name => ⟨?_, ?_⟩, ?_⟩
  · rw [FieldSpec.candidate_of_text hf]
    exact Candidate.extract_literalText ht _ slots
  · rintro ⟨raw, slots, after, hextract⟩
    obtain ⟨-, hvalue, u, -, hraw⟩ := Candidate.extract_text_iff.1 hextract
    cases hvalue
    exact ⟨u, hraw⟩
  · rintro ⟨u, rfl⟩
    have hu : u ≠ "" := mt literalText_eq_empty_iff.2 ht
    exact ⟨literalText u, [], [], Candidate.extract_literalText hu name []⟩
  · intro files settings now kind properties c s s' hkind hload htext d hd
    obtain ⟨hcontent, -⟩ := content_of_reached hload hkind htext ⟨t, ht, rfl⟩ hd
    refine ⟨hcontent, fun canvas page hpage => ?_⟩
    obtain ⟨-, operation, hpaints, hadded⟩ := draw_ok_iff.1 hpage
    exact ⟨operation, hpaints, hpaints.content hcontent, hadded.symm⟩

/-- A price, written as a literal. -/
def priceProperties : Json :=
  .object [("content", .string "price $$5"), ("font", .object [("fontName", .string "Helvetica")]),
    ("startX", .string "0"), ("startY", .string "20"), ("maxWidth", .string "90"), ("size", .string "12"),
    ("colour", .object [("R", .string "0"), ("G", .string "0"), ("B", .string "0"), ("A", .string "255")])]

def priceSheet : Canvas :=
  { width := 100, height := 80, resolution := Binary64.ofRatio false 72 1, positive := by decide }

open scoped Plain in
theorem literal_dollars_doubled_price :
    parse "price $$5" = .ok ⟨"price $5".toList, []⟩ ∧
    (Candidate.ofText "content" "price $$5").extract [] = .ok ([], some (.text "price $$5")) ∧
    ∃ c s page operation, (load {} {} default .text priceProperties).outcome {} = (.ok c, s) ∧
      (c.draw priceSheet).2 = .ok page ∧ operation.content? = some "price $$5" ∧
      page.operations = [operation] := by
  have hrun : Act.passes (fun c => (c.draw priceSheet).2.toOption.isSome)
      ((load {} {} default .text priceProperties).outcome {}) = true := by decide +kernel
  obtain ⟨c, s, hload, hdrawn⟩ := Act.exists_of_passes hrun
  have hprice : literalText "price $5" = "price $$5" := by decide +kernel
  obtain ⟨hparse, hextract, -, -, -, hcontent⟩ := literal_dollars_doubled (t := "price $5") (by decide)
  rw [hprice] at hparse hextract hcontent
  obtain ⟨-, hdraw⟩ := hcontent {} {} default .text priceProperties c {} s rfl hload (by decide +kernel) c .start
  cases hpage : (c.draw priceSheet).2 with
  | error fault => rw [hpage] at hdrawn; cases hdrawn
  | ok page =>
    obtain ⟨operation, -, hoperation, rfl⟩ := hdraw priceSheet page hpage
    exact ⟨hparse, hextract "content" [], c, s, _, operation, hload, hpage, hoperation, rfl⟩

/-- The price is not taken as it was meant. -/
theorem price_not_taken : ¬ ∀ t : String, t ≠ "" → ∀ name slots,
    (Candidate.ofText name (literalText t)).extract slots = .ok (slots, some (.text t)) := by
  intro h
  have hprice := h "price $5" (by decide) "content" []
  obtain ⟨-, hvalue, -⟩ := Candidate.extract_text_iff.1 hprice
  have hsame : literalText "price $5" = "price $5" := (Literal.text.inj hvalue).symm
  exact literalText_eq_self_iff.1 hsame (by decide)

end Component

end PageTemplate
