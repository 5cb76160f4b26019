/-
Assignments to different parts of a shape commute (`Shape.commute_assign`): no
matter which of the two properties gets its value first, the shape is the same
in the end, or one of them refuses its value.

Among them are properties that share a field of the shape, such as the
coordinates of a point and the channels of a colour. All sources of a font
write to the same part, and so do both sources of a picture.
-/
import PageTemplate.Proofs.Commuting
import PageTemplate.Proofs.Component.Waiting
import PageTemplate.Proofs.Session.Steady

namespace PageTemplate

theorem Colour.withChannel_comm {channel other : Channel} (hne : channel ≠ other) (c : Colour) (i j : Int) :
    (c.withChannel channel i).withChannel other j = (c.withChannel other j).withChannel channel i := by
  cases channel <;> cases other <;> first | rfl | exact absurd rfl hne

theorem Except.toOption_map {ε α β : Type} (x : Except ε α) (f : α → β) :
    (x.map f).toOption = x.toOption.map f := by
  cases x <;> rfl

theorem Property.target_of_fontRequest? {p : Property} {request : Font.Request}
    (h : p.fontRequest? = some request) : p.target = .fontName := by
  cases p with
  | fontName | fontFile | fontAddress => rfl
  | _ => cases h

variable [Platform]

/-! ## Plain assignments -/

section Plain

variable {p q : Property} (v w : Value)

theorem RectangleShape.commute_assign (hne : p ≠ q) :
    Commute (fun r : RectangleShape => (r.assign p v).toOption) fun r => (r.assign q w).toOption := by
  cases p with
  | topLeftX | topLeftY | width | height =>
    cases q with
    | topLeftX | topLeftY | width | height | colour =>
      first
      | exact absurd rfl hne
      | exact Commute.of_writes fun _ _ _ => rfl
    | _ => exact Commute.none_right
  | colour channel =>
    cases q with
    | topLeftX | topLeftY | width | height => exact Commute.of_writes fun _ _ _ => rfl
    | colour other =>
      have hother : channel ≠ other := fun h => hne (congrArg Property.colour h)
      exact Commute.of_writes fun r i j => by
        rw [Colour.withChannel_comm hother]
    | _ => exact Commute.none_right
  | _ => exact Commute.none_left

theorem CircleShape.commute_assign (hne : p ≠ q) :
    Commute (fun c : CircleShape => (c.assign p v).toOption) fun c => (c.assign q w).toOption := by
  cases p with
  | centreX | centreY | radius =>
    cases q with
    | centreX | centreY | radius | colour =>
      first
      | exact absurd rfl hne
      | exact Commute.of_writes fun _ _ _ => rfl
    | _ => exact Commute.none_right
  | colour channel =>
    cases q with
    | centreX | centreY | radius => exact Commute.of_writes fun _ _ _ => rfl
    | colour other =>
      have hother : channel ≠ other := fun h => hne (congrArg Property.colour h)
      exact Commute.of_writes fun c i j => by
        rw [Colour.withChannel_comm hother]
    | _ => exact Commute.none_right
  | _ => exact Commute.none_left

theorem BarcodeShape.commute_assign (hne : p ≠ q) :
    Commute (fun b : BarcodeShape => (b.assign p v).toOption) fun b => (b.assign q w).toOption := by
  cases p with
  | content | barcodeType | topLeftX | topLeftY | width | height =>
    cases q with
    | content | barcodeType | topLeftX | topLeftY | width | height | barColour | backgroundColour =>
      first
      | exact absurd rfl hne
      | exact Commute.of_writes fun _ _ _ => rfl
    | _ => exact Commute.none_right
  | barColour channel =>
    cases q with
    | content | barcodeType | topLeftX | topLeftY | width | height | backgroundColour =>
      exact Commute.of_writes fun _ _ _ => rfl
    | barColour other =>
      have hother : channel ≠ other := fun h => hne (congrArg Property.barColour h)
      exact Commute.of_writes fun b i j => by
        rw [Colour.withChannel_comm hother]
    | _ => exact Commute.none_right
  | backgroundColour channel =>
    cases q with
    | content | barcodeType | topLeftX | topLeftY | width | height | barColour =>
      exact Commute.of_writes fun _ _ _ => rfl
    | backgroundColour other =>
      have hother : channel ≠ other := fun h => hne (congrArg Property.backgroundColour h)
      exact Commute.of_writes fun b i j => by
        rw [Colour.withChannel_comm hother]
    | _ => exact Commute.none_right
  | _ => exact Commute.none_left

theorem TextLine.commute_assignPlain (hne : p ≠ q) :
    Commute (fun line : TextLine => (line.assignPlain p v).toOption) fun line =>
      (line.assignPlain q w).toOption := by
  cases p with
  | startX | startY | maxWidth | size | alignment =>
    cases q with
    | startX | startY | maxWidth | size | alignment | colour =>
      first
      | exact absurd rfl hne
      | exact Commute.of_writes fun _ _ _ => rfl
    | _ => exact Commute.none_right
  | colour channel =>
    cases q with
    | startX | startY | maxWidth | size | alignment => exact Commute.of_writes fun _ _ _ => rfl
    | colour other =>
      have hother : channel ≠ other := fun h => hne (congrArg Property.colour h)
      exact Commute.of_writes fun line i j => by
        rw [Colour.withChannel_comm hother]
    | _ => exact Commute.none_right
  | _ => exact Commute.none_left

theorem ImageShape.commute_assignPlain (hne : p ≠ q) :
    Commute (fun i : ImageShape => (i.assignPlain p v).toOption) fun i => (i.assignPlain q w).toOption := by
  cases p with
  | topLeftX | topLeftY | width | height =>
    cases q with
    | topLeftX | topLeftY | width | height =>
      first
      | exact absurd rfl hne
      | exact Commute.of_writes fun _ _ _ => rfl
    | _ => exact Commute.none_right
  | _ => exact Commute.none_left

end Plain

/-! ## Assignments that are actions -/

section Actions

variable (files : FileTree) (settings : Settings) (s : Session) {p q : Property} (v w : Value)

/-- The font that a value asks for. -/
def fontFor (request : Font.Request) (v : Value) : Act String := do
  let text ← Act.ofExcept .setter v.asText
  Act.font files settings request text

/-- The picture in the file that a value names. -/
def pictureNamed (v : Value) : Act Picture := do
  let path ← Act.ofExcept .setter v.asText
  Act.ofExcept .component (pictureOfFile files (settings.resolve path))

namespace TextLine

variable (line : TextLine)

theorem assign_font {request : Font.Request} (hp : p.fontRequest? = some request) :
    line.assign files settings p v = do
      let font ← fontFor files settings request v
      return { line with font := font } := by
  rw [assign, hp, fontFor, bind_assoc]

theorem result_assign_font {request : Font.Request} (hp : p.fontRequest? = some request) :
    (line.assign files settings p v).result s =
      ((fontFor files settings request v).result s).map fun font => { line with font := font } := by
  rw [assign_font files settings v line hp, Act.result_map]

theorem result_assign_plain (hp : p.fontRequest? = none) :
    (line.assign files settings p v).result s = (line.assignPlain p v).toOption := by
  rw [assign, hp]
  exact Act.result_ofExcept _ s

/-- No other property sees the font. -/
theorem assignPlain_with_font (font : String) :
    assignPlain { line with font := font } p v =
      (line.assignPlain p v).map fun line => { line with font := font } := by
  cases p with
  | startX | startY | maxWidth => cases hv : v.asInteger <;> simp [assignPlain, hv, Except.map]
  | size => cases hv : v.asDecimal <;> simp [assignPlain, hv, Except.map]
  | alignment => cases hv : v.asAlignment <;> simp [assignPlain, hv, Except.map]
  | colour => cases hv : v.asByte <;> simp [assignPlain, hv, Except.map]
  | _ => rfl

/-- The font and any other property of a line. -/
theorem commute_font {request : Font.Request} (hp : p.fontRequest? = some request)
    (hq : q.fontRequest? = none) :
    Commute (fun line : TextLine => (line.assign files settings p v).result s) fun line =>
      (line.assign files settings q w).result s := by
  simp only [result_assign_font files settings s v _ hp, result_assign_plain files settings s w _ hq]
  exact Commute.of_frame fun line font => by rw [assignPlain_with_font, Except.toOption_map]

theorem commute_assign (hne : p.target ≠ q.target) :
    Commute (fun line : TextLine => (line.assign files settings p v).result s) fun line =>
      (line.assign files settings q w).result s := by
  cases hp : p.fontRequest? with
  | some request =>
    cases hq : q.fontRequest? with
    | some other =>
      rw [Property.target_of_fontRequest? hp, Property.target_of_fontRequest? hq] at hne
      exact absurd rfl hne
    | none => exact commute_font files settings s v w hp hq
  | none =>
    cases hq : q.fontRequest? with
    | some other => exact (commute_font files settings s w v hq hp).symm
    | none =>
      simp only [result_assign_plain files settings s v _ hp, result_assign_plain files settings s w _ hq]
      exact commute_assignPlain v w fun h => hne (congrArg Property.target h)

end TextLine

namespace ImageShape

variable (i : ImageShape)

/-- Both sources of a picture give the picture, whatever the image is. -/
theorem result_assign_picture (hp : p.target = .fileName) :
    ∃ picture : Option Picture, ∀ i : ImageShape,
      (i.assign files settings p v).result s =
        picture.map fun picture => { i with picture := some picture } := by
  cases p with
  | data => exact ⟨(pictureOfValue v).result s, fun i => Act.result_map _ _ s⟩
  | fileName =>
    refine ⟨(pictureNamed files settings v).result s, fun i => ?_⟩
    have hassign : i.assign files settings .fileName v =
        pictureNamed files settings v >>= fun picture => pure { i with picture := some picture } := by
      rw [pictureNamed, bind_assoc]
      rfl
    rw [hassign, Act.result_map]
  | _ => cases hp

theorem result_assign_plain (hp : p.target ≠ .fileName) (i : ImageShape) :
    (i.assign files settings p v).result s = (i.assignPlain p v).toOption := by
  rw [assign]
  · exact Act.result_ofExcept _ s
  · rintro rfl; exact hp rfl
  · rintro rfl; exact hp rfl

/-- No other property sees the picture. -/
theorem assignPlain_with_picture (picture : Option Picture) (i : ImageShape) :
    assignPlain { i with picture := picture } p v =
      (i.assignPlain p v).map fun i => { i with picture := picture } := by
  cases p with
  | topLeftX | topLeftY | width | height => cases hv : v.asInteger <;> simp [assignPlain, hv, Except.map]
  | _ => rfl

theorem commute_picture (hp : p.target = .fileName) (hq : q.target ≠ .fileName) :
    Commute (fun i : ImageShape => (i.assign files settings p v).result s) fun i =>
      (i.assign files settings q w).result s := by
  obtain ⟨picture, hpicture⟩ := result_assign_picture files settings s v hp
  simp only [hpicture, result_assign_plain files settings s w hq]
  exact Commute.of_frame fun i picture => by rw [assignPlain_with_picture, Except.toOption_map]

theorem commute_assign (hne : p.target ≠ q.target) :
    Commute (fun i : ImageShape => (i.assign files settings p v).result s) fun i =>
      (i.assign files settings q w).result s := by
  by_cases hp : p.target = .fileName
  · exact commute_picture files settings s v w hp fun hq => hne (hp.trans hq.symm)
  · by_cases hq : q.target = .fileName
    · exact (commute_picture files settings s w v hq hp).symm
    · simp only [result_assign_plain files settings s v hp, result_assign_plain files settings s w hq]
      exact commute_assignPlain v w fun h => hne (congrArg Property.target h)

end ImageShape

namespace TextShape

theorem result_assign_content (t : TextShape) :
    (t.assign files settings .content v).result s =
      v.asText.toOption.map fun content => { t with content := content } :=
  (Act.result_ofExcept _ s).trans (Except.toOption_map _ _)

theorem result_assign_line (hp : p ≠ .content) (t : TextShape) :
    (t.assign files settings p v).result s =
      ((t.line.assign files settings p v).result s).map fun line => { t with line := line } := by
  rw [assign]
  · exact Act.result_map _ _ s
  · exact hp

theorem commute_content (hq : q ≠ .content) :
    Commute (fun t : TextShape => (t.assign files settings .content v).result s) fun t =>
      (t.assign files settings q w).result s := by
  simp only [result_assign_content, result_assign_line files settings s w hq]
  exact Commute.of_frame fun t content => by rw [Option.map_map]; rfl

theorem commute_assign (hne : p.target ≠ q.target) :
    Commute (fun t : TextShape => (t.assign files settings p v).result s) fun t =>
      (t.assign files settings q w).result s := by
  by_cases hp : p = .content
  · subst hp
    exact commute_content files settings s v w fun hq => hne (congrArg Property.target hq.symm)
  · by_cases hq : q = .content
    · subst hq
      exact (commute_content files settings s w v hp).symm
    · intro t
      have hline := TextLine.commute_assign files settings s v w hne
      exact hline.lift (fun t => (assign files settings t p v).result s)
        (fun t => (assign files settings t q w).result s) (fun line => { t with line := line })
        (fun line => result_assign_line files settings s v hp { t with line := line })
        (fun line => result_assign_line files settings s w hq { t with line := line }) t.line

end TextShape

namespace MomentShape

theorem result_assign_time (d : MomentShape) :
    (d.assign files settings .time v).result s =
      v.asMoment.toOption.map fun moment => { d with moment := some moment } :=
  (Act.result_ofExcept _ s).trans (Except.toOption_map _ _)

theorem result_assign_timeFormat (d : MomentShape) :
    (d.assign files settings .timeFormat v).result s =
      v.asText.toOption.map fun layout => { d with layout := layout } :=
  (Act.result_ofExcept _ s).trans (Except.toOption_map _ _)

theorem result_assign_line (htime : p ≠ .time) (hformat : p ≠ .timeFormat) (d : MomentShape) :
    (d.assign files settings p v).result s =
      ((d.line.assign files settings p v).result s).map fun line => { d with line := line } := by
  rw [assign]
  · exact Act.result_map _ _ s
  · exact htime
  · exact hformat

theorem commute_time (hq : q ≠ .time) :
    Commute (fun d : MomentShape => (d.assign files settings .time v).result s) fun d =>
      (d.assign files settings q w).result s := by
  simp only [result_assign_time]
  by_cases hformat : q = .timeFormat
  · subst hformat
    simp only [result_assign_timeFormat]
    exact Commute.of_frame fun d moment => by rw [Option.map_map]; rfl
  · simp only [result_assign_line files settings s w hq hformat]
    exact Commute.of_frame fun d moment => by rw [Option.map_map]; rfl

theorem commute_timeFormat (htime : q ≠ .time) (hformat : q ≠ .timeFormat) :
    Commute (fun d : MomentShape => (d.assign files settings .timeFormat v).result s) fun d =>
      (d.assign files settings q w).result s := by
  simp only [result_assign_timeFormat, result_assign_line files settings s w htime hformat]
  exact Commute.of_frame fun d layout => by rw [Option.map_map]; rfl

theorem commute_assign (hne : p.target ≠ q.target) :
    Commute (fun d : MomentShape => (d.assign files settings p v).result s) fun d =>
      (d.assign files settings q w).result s := by
  have hpq : p ≠ q := fun h => hne (congrArg Property.target h)
  by_cases hp : p = .time
  · subst hp
    exact commute_time files settings s v w hpq.symm
  by_cases hq : q = .time
  · subst hq
    exact (commute_time files settings s w v hp).symm
  by_cases hp' : p = .timeFormat
  · subst hp'
    exact commute_timeFormat files settings s v w hq hpq.symm
  by_cases hq' : q = .timeFormat
  · subst hq'
    exact (commute_timeFormat files settings s w v hp hp').symm
  · intro d
    have hline := TextLine.commute_assign files settings s v w hne
    exact hline.lift (fun d => (assign files settings d p v).result s)
      (fun d => (assign files settings d q w).result s) (fun line => { d with line := line })
      (fun line => result_assign_line files settings s v hp hp' { d with line := line })
      (fun line => result_assign_line files settings s w hq hq' { d with line := line }) d.line

end MomentShape

namespace Shape

/-- Assignments to different parts commute, whatever the shape is. -/
theorem commute_assign (hne : p.target ≠ q.target) :
    Commute (fun shape : Shape => (shape.assign files settings p v).result s) fun shape =>
      (shape.assign files settings q w).result s := by
  have hpq : p ≠ q := fun h => hne (congrArg Property.target h)
  have hpure : ∀ {σ : Type} (x : Except SetterFault σ) (inside : σ → Shape),
      (Act.ofExcept .setter (x.map inside)).result s = x.toOption.map inside := fun x inside =>
    (Act.result_ofExcept _ s).trans (Except.toOption_map x inside)
  let first := fun shape : Shape => (shape.assign files settings p v).result s
  let second := fun shape : Shape => (shape.assign files settings q w).result s
  intro shape
  cases shape with
  | rectangle r =>
    have h := RectangleShape.commute_assign v w hpq
    exact h.lift first second Shape.rectangle (fun _ => hpure _ _) (fun _ => hpure _ _) r
  | circle c =>
    have h := CircleShape.commute_assign v w hpq
    exact h.lift first second Shape.circle (fun _ => hpure _ _) (fun _ => hpure _ _) c
  | barcode b =>
    have h := BarcodeShape.commute_assign v w hpq
    exact h.lift first second Shape.barcode (fun _ => hpure _ _) (fun _ => hpure _ _) b
  | text t =>
    have h := TextShape.commute_assign files settings s v w hne
    exact h.lift first second Shape.text (fun _ => Act.result_map _ _ s) (fun _ => Act.result_map _ _ s) t
  | datetime d =>
    have h := MomentShape.commute_assign files settings s v w hne
    exact h.lift first second Shape.datetime (fun _ => Act.result_map _ _ s) (fun _ => Act.result_map _ _ s) d
  | image i =>
    have h := ImageShape.commute_assign files settings s v w hne
    exact h.lift first second Shape.image (fun _ => Act.result_map _ _ s) (fun _ => Act.result_map _ _ s) i

/-- Assignments by name commute if the names stand for properties of different parts. -/
theorem commute_assignNamed {name other : String}
    (hne : Property.targetNamed name ≠ Property.targetNamed other) :
    Commute (fun shape : Shape => (shape.assignNamed files settings name v).result s) fun shape =>
      (shape.assignNamed files settings other w).result s := by
  unfold assignNamed
  cases hp : Property.ofName? name with
  | none => exact Commute.none_left
  | some p =>
    cases hq : Property.ofName? other with
    | none => exact Commute.none_right
    | some q =>
      refine commute_assign files settings s v w fun h => hne ?_
      rw [Property.targetNamed, Property.targetNamed, hp, hq, Option.map_some, Option.map_some, h]

end Shape

end Actions

end PageTemplate
