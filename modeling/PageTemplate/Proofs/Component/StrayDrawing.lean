/-
The stray faults of drawing. A component whose colours are in range strays
where its line of text does, and a barcode where its symbol fails to be made in
a way that the canvas does not explain (`Component.draw_stray`).
-/
import PageTemplate.Proofs.Component.Completeness

namespace PageTemplate

namespace Shape

theorem not_isStray_of_canvas {x : Except CanvasFault Canvas} {fault : Fault}
    (hx : ∀ e, x = .error e → e.kind = .canvas) (h : (Drawn.ofExcept x).2 = .error fault) : ¬ fault.IsStray := by
  intro hstray
  cases x with
  | ok page => cases h
  | error e =>
    cases h
    have hkind := hx e rfl
    simp [Fault.IsStray, Fault.kind, hkind, FaultKind.isTemplate] at hstray

variable [Platform]

/-- The stray faults of drawing a shape on a page of some resolution. -/
inductive Strays (shape : Shape) (resolution : Binary64) : Fault → Prop
  | text {line : TextLine} {content : String} {e : ArithmeticError} : shape.writes? = some (line, content) →
    line.Strays content resolution e → Strays shape resolution (.fit (.number e))
  | symbol {b : BarcodeShape} {symbology : Symbology} {code : String} {bars : Fill} {fault : ForeignFault} :
    shape = .barcode b → b.symbology = some symbology → symbology.code? = some code →
      b.barColour.fill = .ok bars →
        Platform.makeSymbol ⟨code, b.content, b.width, b.height, bars⟩ = .error (.escaped fault) →
          fault.kind.isTemplate = false → Strays shape resolution (.canvas (.symbol fault))

variable {shape : Shape} {resolution : Binary64} {canvas : Canvas} {fault : Fault}

theorem Strays.isStray (h : shape.Strays resolution fault) : fault.IsStray := by
  cases h with
  | @text _ _ e => cases e <;> rfl
  | symbol _ _ _ _ _ hkind => exact hkind

/-- Drawing a shape of colours in range strays only in these ways. -/
theorem draw_stray (hcoloured : shape.Coloured) (h : (shape.draw canvas).2 = .error fault)
    (hstray : fault.IsStray) : shape.Strays canvas.resolution fault := by
  cases shape with
  | rectangle r => exact absurd hstray (not_isStray_of_canvas (fun e he => Canvas.rectangle_error hcoloured he) h)
  | circle c => exact absurd hstray (not_isStray_of_canvas (fun e he => Canvas.circle_error hcoloured he) h)
  | image i => exact absurd hstray (not_isStray_of_canvas (fun e he => Canvas.image_error he) h)
  | text t =>
    obtain ⟨e, rfl, hline⟩ := TextLine.draw_stray hcoloured h hstray
    exact .text rfl hline
  | datetime d =>
    obtain ⟨e, rfl, hline⟩ := TextLine.draw_stray hcoloured h hstray
    exact .text rfl hline
  | barcode b =>
    cases hsymbology : b.symbology with
    | none =>
      simp only [draw, hsymbology] at h
      cases h
      cases hstray
    | some symbology =>
      simp only [draw, hsymbology] at h
      generalize hdraw : canvas.barcode _ _ _ _ _ _ _ = drawn at h
      cases drawn with
      | ok page => cases h
      | error e =>
        cases h
        rcases Canvas.barcode_error hcoloured.1 hcoloured.2 hdraw with
          hkind | ⟨code, bars, fault, hcode, hbars, hsymbol, rfl⟩
        · simp [Fault.IsStray, Fault.kind, hkind, FaultKind.isTemplate] at hstray
        · exact .symbol rfl hsymbology hcode hbars hsymbol hstray

end Shape

namespace Component

variable [Platform]

/-- The stray faults of drawing a component: while something waits there are none. -/
structure DrawStrays (c : Component) (resolution : Binary64) (fault : Fault) : Prop where
  resolved : c.slots = []
  shape : c.shape.Strays resolution fault

theorem draw_stray {c : Component} {canvas : Canvas} {fault : Fault} (hcoloured : c.shape.Coloured)
    (h : (c.draw canvas).2 = .error fault) (hstray : fault.IsStray) : c.DrawStrays canvas.resolution fault := by
  unfold draw at h
  split at h
  · rename_i hslots
    exact ⟨List.isEmpty_iff.1 hslots, Shape.draw_stray hcoloured h hstray⟩
  · cases h
    cases hstray

end Component

end PageTemplate
