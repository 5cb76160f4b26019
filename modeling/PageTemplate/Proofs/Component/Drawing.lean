/-
What a component adds to a canvas: one operation at the end, or nothing at all
if it cannot be drawn (`Component.adds_draw`). Which operation it is, and what
the journal tells of it, depends on the component and on the sheet, its size
and its resolution, but not on what has been drawn before.
-/
import PageTemplate.Component.Basic

namespace PageTemplate

/-- Whether two canvases are of the same size and resolution, whatever has been drawn on them. -/
structure Canvas.SameSheet (page other : Canvas) : Prop where
  width : page.width = other.width
  height : page.height = other.height
  resolution : page.resolution = other.resolution

/-- The page with several more operations. -/
def Canvas.drawAll (page : Canvas) (operations : List Operation) : Canvas :=
  { page with operations := page.operations ++ operations }

/-- Whether a way of drawing adds one operation or fails, and does the same on every canvas of one
sheet. -/
def Canvas.Adds {ε : Type} (draw : Canvas → Except ε Canvas) : Prop :=
  ∀ page other : Canvas, page.SameSheet other →
    ∃ operation : Except ε Operation,
      draw page = operation.map page.draw ∧ draw other = operation.map other.draw

namespace Canvas

variable {page other : Canvas}

theorem SameSheet.refl (page : Canvas) : page.SameSheet page := ⟨rfl, rfl, rfl⟩

theorem SameSheet.flip (h : page.SameSheet other) (y : Int) : page.flip y = other.flip y := by
  rw [Canvas.flip, Canvas.flip, h.height]

theorem SameSheet.box (h : page.SameSheet other) (topLeft : Point) (width height : Int) :
    page.box topLeft width height = other.box topLeft width height := by
  rw [Canvas.box, Canvas.box, h.flip]

theorem drawAll_nil (page : Canvas) : page.drawAll [] = page := by
  simp [drawAll]

theorem drawAll_cons (page : Canvas) (operation : Operation) (operations : List Operation) :
    page.drawAll (operation :: operations) = (page.draw operation).drawAll operations := by
  simp [drawAll, draw]

/-! ## The ways of drawing -/

/-- What is drawn after a check that does not look at the canvas adds what it adds. -/
theorem Adds.bind {ε α : Type} (x : Except ε α) {draw : α → Canvas → Except ε Canvas}
    (h : ∀ a, Adds (draw a)) : Adds fun page => x >>= fun a => draw a page := by
  intro page other hsame
  cases x with
  | error e => exact ⟨.error e, rfl, rfl⟩
  | ok a => exact h a page other hsame

theorem adds_error {ε : Type} (e : ε) : Adds fun _ => .error e := fun _ _ _ => ⟨.error e, rfl, rfl⟩

/-- An operation that is placed by the sheet alone is added to it. -/
theorem adds_operation {ε : Type} {operation : Canvas → Operation}
    (h : ∀ page other : Canvas, page.SameSheet other → operation page = operation other) :
    Adds fun page => (.ok (page.draw (operation page)) : Except ε Canvas) := by
  intro page other hsame
  refine ⟨.ok (operation page), rfl, ?_⟩
  rw [h page other hsame]
  rfl

theorem adds_rectangle (topLeft : Point) (width height : Int) (colour : Colour) :
    Adds fun page => page.rectangle topLeft width height colour := by
  refine .bind (checkSize width height) fun _ => .bind colour.fill fun fill => ?_
  exact adds_operation fun page other hsame => by rw [hsame.box]

theorem adds_circle (centre : Point) (radius : Int) (colour : Colour) :
    Adds fun page => page.circle centre radius colour := by
  unfold circle
  by_cases hradius : radius ≤ 0
  · simp only [if_pos hradius]
    exact adds_error CanvasFault.noRadius
  · simp only [if_neg hradius]
    refine .bind colour.fill fun fill => ?_
    exact adds_operation fun page other hsame => by rw [hsame.flip]

theorem adds_text [Platform] (content : String) (start : Point) (face : FontFace) (colour : Colour)
    (maxWidth : Int) : Adds fun page => page.text content start face colour maxWidth := by
  unfold text
  by_cases hwidth : maxWidth ≤ 0
  · simp only [if_pos hwidth]
    exact adds_error CanvasFault.noTextWidth
  · simp only [if_neg hwidth]
    rcases measureText content face maxWidth with e | ⟨_ | _, width⟩
    · exact adds_error (CanvasFault.number e)
    · exact adds_error CanvasFault.textTooWide
    · cases colour.fill with
      | error fault => exact adds_error fault
      | ok fill => exact adds_operation fun page other hsame => by rw [hsame.flip]

theorem adds_image (topLeft : Point) (picture : Option Picture) (width height : Int) :
    Adds fun page => page.image topLeft picture width height := by
  refine .bind (checkSize width height) fun _ => ?_
  exact adds_operation fun page other hsame => by rw [hsame.box]

theorem adds_barcode [Platform] (symbology : Symbology) (content : String) (topLeft : Point) (width height : Int)
    (barColour background : Colour) :
    Adds fun page => page.barcode symbology content topLeft width height barColour background := by
  refine .bind (checkSize width height) fun _ => ?_
  cases symbology.code? with
  | none => exact adds_error _
  | some code =>
    refine .bind barColour.fill fun bars => ?_
    refine .bind (checkSymbol symbology ⟨code, content, width, height, bars⟩) fun _ => ?_
    refine .bind background.fill fun ground => ?_
    exact adds_operation fun page other hsame => by rw [hsame.box]

end Canvas

/-! ## Components -/

/-- Whether a drawing adds one operation or fails, and does and tells the same on every canvas of one
sheet. -/
def Drawn.Adds (draw : Canvas → Drawn) : Prop :=
  ∀ page other : Canvas, page.SameSheet other → ∃ entries, ∃ operation : Except Fault Operation,
    draw page = (entries, operation.map page.draw) ∧ draw other = (entries, operation.map other.draw)

theorem Drawn.adds_error (fault : Fault) : Adds fun _ => ([], .error fault) :=
  fun _ _ _ => ⟨[], .error fault, rfl, rfl⟩

theorem Drawn.adds_ofExcept {draw : Canvas → Except CanvasFault Canvas} (h : Canvas.Adds draw) :
    Adds fun page => .ofExcept (draw page) := by
  intro page other hsame
  obtain ⟨operation, hpage, hother⟩ := h page other hsame
  refine ⟨[], operation.mapError .canvas, ?_, ?_⟩
  · simp only [hpage]; cases operation <;> rfl
  · simp only [hother]; cases operation <;> rfl

/-- The search for a size looks at the resolution only, so it ends alike on every canvas of one sheet. -/
theorem TextLine.adds_draw [Platform] (line : TextLine) (content : String) : Drawn.Adds (line.draw content) := by
  intro page other hsame
  simp only [draw, hsame.resolution]
  rcases Fit.fit content line.size line.maxWidth
    (fun _ size => measureText content ⟨line.font, size⟩ line.maxWidth) line.alignment other.resolution with
    ⟨tries, fault | found⟩
  · exact ⟨Fit.entries content 1 tries, .error (.fit fault), rfl, rfl⟩
  · obtain ⟨operation, hpage, hother⟩ := Canvas.adds_text content
      ⟨line.start.x + found.offset, line.start.y⟩ ⟨line.font, found.size⟩ line.colour line.maxWidth
      page other hsame
    refine ⟨Fit.entries content 1 tries, operation.mapError .canvas, ?_, ?_⟩
    · simp only [hpage]; cases operation <;> rfl
    · simp only [hother]; cases operation <;> rfl

theorem Shape.adds_draw [Platform] (shape : Shape) : Drawn.Adds shape.draw := by
  cases shape with
  | rectangle r => exact Drawn.adds_ofExcept (Canvas.adds_rectangle r.topLeft r.width r.height r.colour)
  | circle c => exact Drawn.adds_ofExcept (Canvas.adds_circle c.centre c.radius c.colour)
  | text t => exact t.line.adds_draw t.content
  | datetime d => exact d.line.adds_draw d.written
  | image i => exact Drawn.adds_ofExcept (Canvas.adds_image i.topLeft i.picture i.width i.height)
  | barcode b =>
    obtain ⟨content, symbology, topLeft, width, height, barColour, background⟩ := b
    cases symbology with
    | none => exact Drawn.adds_error (.component .noSymbology)
    | some symbology =>
      exact Drawn.adds_ofExcept
        (Canvas.adds_barcode symbology content topLeft width height barColour background)

/-- A component adds one operation to a canvas or fails, and does the same on every canvas of one
sheet. -/
theorem Component.adds_draw [Platform] (c : Component) : Drawn.Adds c.draw := by
  unfold draw
  cases c.slots.isEmpty with
  | true => exact c.shape.adds_draw
  | false => exact Drawn.adds_error _

end PageTemplate
