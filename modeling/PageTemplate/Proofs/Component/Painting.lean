/-
What a shape paints. A shape that is drawn adds one operation to the page, and
the operation has the shape's own data: its colours in parts of one, its place
seen from the bottom of the page, its picture, its text at the size that was
found for it, or its symbol (`Shape.Paints`). A shape is drawn just if it
paints something, and nothing else of the page changes (`Shape.draw_ok_iff`).
-/
import PageTemplate.Proofs.Drawing.Placing

namespace PageTemplate

/-- The text that a shape writes, and the line it is written along. -/
def Shape.writes? : Shape → Option (TextLine × String)
  | .text t => some (t.line, t.content)
  | .datetime d => some (d.line, d.written)
  | .rectangle _ | .circle _ | .image _ | .barcode _ => none

/-! ## The canvas -/

theorem checkSize_ok_iff {width height : Int} : checkSize width height = .ok () ↔ 0 < width ∧ 0 < height := by
  unfold checkSize
  split
  · simp only [reduceCtorEq, false_iff]
    omega
  · split
    · simp only [reduceCtorEq, false_iff]
      omega
    · split
      · simp only [reduceCtorEq, false_iff]
        omega
      · simp only [true_iff]
        omega

namespace Canvas

variable {page after : Canvas} {topLeft centre : Point} {width height radius : Int} {colour ground : Colour}
  {symbology : Symbology} {content : String}

theorem rectangle_ok_iff : page.rectangle topLeft width height colour = .ok after ↔
    (0 < width ∧ 0 < height) ∧ ∃ fill, colour.fill = .ok fill ∧
      page.draw (.rectangle (page.box topLeft width height) fill) = after := by
  rw [rectangle, Except.bind_ok_iff]
  simp only [Except.bind_ok_iff, pure, Except.pure, Except.ok.injEq, ← checkSize_ok_iff]
  exact ⟨fun ⟨_, hsize, h⟩ => ⟨hsize, h⟩, fun ⟨hsize, h⟩ => ⟨(), hsize, h⟩⟩

theorem circle_ok_iff : page.circle centre radius colour = .ok after ↔
    0 < radius ∧ ∃ fill, colour.fill = .ok fill ∧
      page.draw (.circle centre.x (page.flip centre.y) radius fill) = after := by
  unfold circle
  by_cases hradius : radius ≤ 0
  · rw [if_pos hradius]
    refine iff_of_false (fun h => by cases h) fun h => ?_
    omega
  · have hpos : 0 < radius := by omega
    rw [if_neg hradius]
    simp only [hpos, true_and]
    exact Except.bind_ok_iff.trans (by simp only [pure, Except.pure, Except.ok.injEq])

theorem image_ok_iff {picture : Option Picture} : page.image topLeft picture width height = .ok after ↔
    (0 < width ∧ 0 < height) ∧ page.draw (.image (page.box topLeft width height) picture) = after := by
  rw [image, Except.bind_ok_iff]
  simp only [pure, Except.pure, Except.ok.injEq, ← checkSize_ok_iff]
  exact ⟨fun ⟨_, hsize, h⟩ => ⟨hsize, h⟩, fun ⟨hsize, h⟩ => ⟨(), hsize, h⟩⟩

theorem draw_injective {operation other : Operation} (h : page.draw operation = page.draw other) :
    operation = other := by
  have hoperations : page.operations ++ [operation] = page.operations ++ [other] := congrArg Canvas.operations h
  simpa using hoperations

theorem checkSymbol_ok_iff [Platform] {symbol : Symbol} :
    checkSymbol symbology symbol = .ok () ↔ Platform.makeSymbol symbol = .ok () := by
  unfold checkSymbol
  split <;> simp [*]

theorem barcode_ok_iff [Platform] : page.barcode symbology content topLeft width height colour ground = .ok after ↔
    (0 < width ∧ 0 < height) ∧ ∃ code bars fill, symbology.code? = some code ∧ colour.fill = .ok bars ∧
      Platform.makeSymbol ⟨code, content, width, height, bars⟩ = .ok () ∧ ground.fill = .ok fill ∧
      page.draw (.barcode (page.box topLeft width height) ⟨code, content, width, height, bars⟩ fill) = after := by
  rw [barcode, Except.bind_ok_iff, ← checkSize_ok_iff]
  constructor
  · rintro ⟨_, hsize, h⟩
    refine ⟨hsize, ?_⟩
    split at h
    · cases h
    · rename_i code hcode
      obtain ⟨bars, hbars, h⟩ := Except.bind_ok_iff.1 h
      obtain ⟨_, hsymbol, h⟩ := Except.bind_ok_iff.1 h
      obtain ⟨fill, hfill, h⟩ := Except.bind_ok_iff.1 h
      exact ⟨code, bars, fill, hcode, hbars, checkSymbol_ok_iff.1 hsymbol, hfill, Except.ok.inj h⟩
  · rintro ⟨hsize, code, bars, fill, hcode, hbars, hsymbol, hfill, rfl⟩
    refine ⟨(), hsize, ?_⟩
    simp only [hcode, hbars, checkSymbol_ok_iff.2 hsymbol, hfill, Except.ok_bind]
    rfl

end Canvas

theorem Drawn.ofExcept_ok_iff {x : Except CanvasFault Canvas} {page : Canvas} :
    (ofExcept x).2 = .ok page ↔ x = .ok page := by
  cases x <;> simp [ofExcept]

/-! ## Shapes -/

variable [Platform]

/-- The operation that a shape paints on a page. -/
inductive Shape.Paints (page : Canvas) : Shape → Operation → Prop
  | rectangle {r : RectangleShape} {fill : Fill} : 0 < r.width ∧ 0 < r.height → r.colour.fill = .ok fill →
      Paints page (.rectangle r)
        (.rectangle ⟨r.topLeft.x, page.height - (r.topLeft.y + r.height), r.width, r.height⟩ fill)
  | circle {c : CircleShape} {fill : Fill} : 0 < c.radius → c.colour.fill = .ok fill →
      Paints page (.circle c) (.circle c.centre.x (page.height - c.centre.y) c.radius fill)
  | text {shape : Shape} {line : TextLine} {content : String} {found : Fit Binary64} {fill : Fill} :
      shape.writes? = some (line, content) → (line.fit content page.resolution).2 = .ok found →
        line.colour.fill = .ok fill →
          Paints page shape (.text (line.start.x + found.offset) (page.height - line.start.y)
            ⟨line.font, found.size⟩ content fill)
  | image {i : ImageShape} : 0 < i.width ∧ 0 < i.height →
      Paints page (.image i)
        (.image ⟨i.topLeft.x, page.height - (i.topLeft.y + i.height), i.width, i.height⟩ i.picture)
  | barcode {b : BarcodeShape} {symbology : Symbology} {code : String} {bars ground : Fill} :
      0 < b.width ∧ 0 < b.height → b.symbology = some symbology → symbology.code? = some code →
        b.barColour.fill = .ok bars → Platform.makeSymbol ⟨code, b.content, b.width, b.height, bars⟩ = .ok () →
          b.background.fill = .ok ground →
            Paints page (.barcode b)
              (.barcode ⟨b.topLeft.x, page.height - (b.topLeft.y + b.height), b.width, b.height⟩
                ⟨code, b.content, b.width, b.height, bars⟩ ground)

/-- A line of text is drawn just if a size is found for it and its colour can be filled with. -/
theorem TextLine.draw_ok_iff {line : TextLine} {content : String} {page after : Canvas} :
    (line.draw content page).2 = .ok after ↔
      ∃ found fill, (line.fit content page.resolution).2 = .ok found ∧ line.colour.fill = .ok fill ∧
        page.draw (.text (line.start.x + found.offset) (page.flip line.start.y) ⟨line.font, found.size⟩ content
          fill) = after := by
  constructor
  · intro h
    cases hfit : (line.fit content page.resolution).2 with
    | error fault =>
      have hfit : (Fit.fit content line.size line.maxWidth
          (fun _ size => measureText content ⟨line.font, size⟩ line.maxWidth) line.alignment page.resolution).2 =
            .error fault := hfit
      unfold draw at h
      simp only [hfit] at h
      cases h
    | ok found =>
      rw [draw_of_found hfit] at h
      cases hfill : line.colour.fill with
      | error fault => rw [hfill] at h; cases h
      | ok fill =>
        rw [hfill] at h
        exact ⟨found, fill, rfl, rfl, Except.ok.inj h⟩
  · rintro ⟨found, fill, hfit, hfill, rfl⟩
    rw [draw_of_found hfit, hfill]
    rfl

namespace Shape

variable {shape : Shape} {page after : Canvas}

/-- Nothing but an image paints a picture, and that is its own. -/
theorem Paints.of_image {box : Box} {picture : Option Picture} (h : shape.Paints page (.image box picture)) :
    ∃ i, shape = .image i ∧ i.picture = picture := by
  cases h
  exact ⟨_, rfl, rfl⟩

/-- A shape that writes a text is drawn as the text is. -/
theorem draw_of_writes {line : TextLine} {content : String} (h : shape.writes? = some (line, content)) :
    shape.draw page = line.draw content page := by
  cases shape <;> cases h <;> rfl

/-- A shape is drawn just if it paints an operation, and that is what the page gains. -/
theorem draw_ok_iff : (shape.draw page).2 = .ok after ↔
    ∃ operation, shape.Paints page operation ∧ page.draw operation = after := by
  constructor
  · intro h
    cases hwrites : shape.writes? with
    | some written =>
      rw [draw_of_writes hwrites] at h
      obtain ⟨found, fill, hfit, hfill, hafter⟩ := TextLine.draw_ok_iff.1 h
      exact ⟨_, .text hwrites hfit hfill, hafter⟩
    | none =>
      cases shape with
      | rectangle r =>
        obtain ⟨hsize, fill, hfill, hafter⟩ := Canvas.rectangle_ok_iff.1 (Drawn.ofExcept_ok_iff.1 h)
        exact ⟨_, .rectangle hsize hfill, hafter⟩
      | circle c =>
        obtain ⟨hradius, fill, hfill, hafter⟩ := Canvas.circle_ok_iff.1 (Drawn.ofExcept_ok_iff.1 h)
        exact ⟨_, .circle hradius hfill, hafter⟩
      | image i =>
        obtain ⟨hsize, hafter⟩ := Canvas.image_ok_iff.1 (Drawn.ofExcept_ok_iff.1 h)
        exact ⟨_, .image hsize, hafter⟩
      | barcode b =>
        unfold draw at h
        simp only at h
        split at h
        · cases h
        · rename_i symbology hsymbology
          obtain ⟨hsize, code, bars, ground, hcode, hbars, hsymbol, hground, hafter⟩ :=
            Canvas.barcode_ok_iff.1 (Drawn.ofExcept_ok_iff.1 h)
          exact ⟨_, .barcode hsize hsymbology hcode hbars hsymbol hground, hafter⟩
      | text | datetime => cases hwrites
  · rintro ⟨operation, hpaints, rfl⟩
    cases hpaints with
    | rectangle hsize hfill => exact Drawn.ofExcept_ok_iff.2 (Canvas.rectangle_ok_iff.2 ⟨hsize, _, hfill, rfl⟩)
    | circle hradius hfill => exact Drawn.ofExcept_ok_iff.2 (Canvas.circle_ok_iff.2 ⟨hradius, _, hfill, rfl⟩)
    | text hwrites hfit hfill =>
      rw [draw_of_writes hwrites]
      exact TextLine.draw_ok_iff.2 ⟨_, _, hfit, hfill, rfl⟩
    | image hsize => exact Drawn.ofExcept_ok_iff.2 (Canvas.image_ok_iff.2 ⟨hsize, rfl⟩)
    | barcode hsize hsymbology hcode hbars hsymbol hground =>
      unfold draw
      simp only [hsymbology]
      exact Drawn.ofExcept_ok_iff.2
        (Canvas.barcode_ok_iff.2 ⟨hsize, _, _, _, hcode, hbars, hsymbol, hground, rfl⟩)

end Shape

/-- A component is drawn just if nothing waits and its shape paints an operation. -/
theorem Component.draw_ok_iff {c : Component} {page after : Canvas} : (c.draw page).2 = .ok after ↔
    c.slots = [] ∧ ∃ operation, c.shape.Paints page operation ∧ page.draw operation = after := by
  unfold draw
  split
  · rename_i hslots
    rw [Shape.draw_ok_iff, and_iff_right (List.isEmpty_iff.1 hslots)]
  · rename_i hslots
    refine iff_of_false (by simp) fun h => hslots ?_
    rw [h.1]
    rfl

/-- The operation that a component adds is what its shape paints. -/
theorem Component.draw_adds_iff {c : Component} {page : Canvas} {operation : Operation} :
    (c.draw page).2 = .ok (page.draw operation) ↔ c.slots = [] ∧ c.shape.Paints page operation := by
  rw [draw_ok_iff]
  refine and_congr_right fun _ => ⟨?_, fun hpaints => ⟨operation, hpaints, rfl⟩⟩
  rintro ⟨other, hpaints, hsame⟩
  exact Canvas.draw_injective hsame ▸ hpaints

end PageTemplate
