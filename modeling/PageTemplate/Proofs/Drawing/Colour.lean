/-
Colours whose channels are from 0 to 255. Such a colour can always be filled
with (`Colour.InRange.fill_ok`), for the parts of one that its channels are
taken for are well inside binary64. So plain shapes of such colours, and
pictures, fail to be drawn only in ways that the canvas explains.
-/
import PageTemplate.Component.Shape
import PageTemplate.Proofs.Binary64.Range
import PageTemplate.Proofs.Result

namespace PageTemplate

/-- A channel of a colour. -/
def Colour.channel (c : Colour) : Channel → Int
  | .red => c.red
  | .green => c.green
  | .blue => c.blue
  | .alpha => c.alpha

/-- Whether every channel is from 0 to 255. -/
def Colour.InRange (c : Colour) : Prop := ∀ channel, 0 ≤ c.channel channel ∧ c.channel channel ≤ 255

theorem Colour.inRange_default : Colour.InRange {} := by
  rintro (_ | _ | _ | _) <;> decide

theorem Colour.InRange.withChannel {c : Colour} (h : c.InRange) (channel : Channel) {value : Int}
    (hvalue : 0 ≤ value ∧ value ≤ 255) : (c.withChannel channel value).InRange := by
  intro other
  have hother := h other
  cases channel <;> cases other <;> first | exact hvalue | exact hother

/-- A byte in parts of one is a number. -/
theorem Colour.part_ok {i : Int} (h : 0 ≤ i ∧ i ≤ 255) : ∃ x, part i = .ok x := by
  cases hx : Binary64.ofQuotient i 255 with
  | ok x => exact ⟨x, by rw [part, hx]; rfl⟩
  | error e =>
    obtain ⟨hzero, -⟩ | ⟨-, -, hlarge⟩ := Binary64.ofQuotient_error_iff.1 hx
    · cases hzero
    · have hbound := Binary64.overflowBound_pos
      have hdivisor : (255 : Int).natAbs = 255 := rfl
      rw [hdivisor] at hlarge
      omega

/-- A colour in range can be filled with. -/
theorem Colour.InRange.fill_ok {c : Colour} (h : c.InRange) : ∃ fill, c.fill = .ok fill := by
  obtain ⟨red, hred⟩ := part_ok (h .red)
  obtain ⟨green, hgreen⟩ := part_ok (h .green)
  obtain ⟨blue, hblue⟩ := part_ok (h .blue)
  obtain ⟨alpha, halpha⟩ := part_ok (h .alpha)
  simp only [channel] at hred hgreen hblue halpha
  exact ⟨⟨red, green, blue, alpha⟩, by rw [fill, hred, hgreen, hblue, halpha]; rfl⟩

/-! ## What the canvas explains -/

namespace Canvas

variable {page : Canvas} {colour : Colour} {e : CanvasFault}

theorem checkSize_error {width height : Int} (h : checkSize width height = .error e) : e.kind = .canvas := by
  unfold checkSize at h
  split at h
  · cases h; rfl
  · split at h
    · cases h; rfl
    · split at h <;> cases h
      rfl

theorem blank_error {width height : Int} {resolution : Binary64} (h : blank width height resolution = .error e) :
    e.kind = .canvas := by
  unfold blank at h
  split at h
  · cases h
  · split at h
    · rename_i fault hsize
      cases h
      exact checkSize_error hsize
    · cases h; rfl

theorem rectangle_error {topLeft : Point} {width height : Int} (hcolour : colour.InRange)
    (h : page.rectangle topLeft width height colour = .error e) : e.kind = .canvas := by
  obtain ⟨fill, hfill⟩ := hcolour.fill_ok
  rcases Except.bind_error_iff.1 h with h | ⟨_, -, h⟩
  · exact checkSize_error h
  · rw [hfill] at h
    cases h

theorem circle_error {centre : Point} {radius : Int} (hcolour : colour.InRange)
    (h : page.circle centre radius colour = .error e) : e.kind = .canvas := by
  obtain ⟨fill, hfill⟩ := hcolour.fill_ok
  unfold circle at h
  split at h
  · cases h; rfl
  · rw [hfill] at h
    cases h

theorem image_error {topLeft : Point} {picture : Option Picture} {width height : Int}
    (h : page.image topLeft picture width height = .error e) : e.kind = .canvas := by
  rcases Except.bind_error_iff.1 h with h | ⟨_, -, h⟩
  · exact checkSize_error h
  · cases h

theorem checkSymbol_error [Platform] {symbology : Symbology} {symbol : Symbol}
    (h : checkSymbol symbology symbol = .error e) :
    e.kind = .canvas ∨ ∃ fault, Platform.makeSymbol symbol = .error (.escaped fault) ∧ e = .symbol fault := by
  unfold checkSymbol at h
  split at h
  · cases h
  · cases h
    exact .inl rfl
  · rename_i fault hfault
    cases h
    exact .inr ⟨fault, hfault, rfl⟩

/-- A barcode may also fail in the library that makes symbols. -/
theorem barcode_error [Platform] {symbology : Symbology} {content : String} {topLeft : Point}
    {width height : Int} {background : Colour} (hcolour : colour.InRange) (hbackground : background.InRange)
    (h : page.barcode symbology content topLeft width height colour background = .error e) :
    e.kind = .canvas ∨
      ∃ code bars fault, symbology.code? = some code ∧ colour.fill = .ok bars ∧
        Platform.makeSymbol ⟨code, content, width, height, bars⟩ = .error (.escaped fault) ∧ e = .symbol fault := by
  obtain ⟨bars, hbars⟩ := hcolour.fill_ok
  obtain ⟨ground, hground⟩ := hbackground.fill_ok
  unfold barcode at h
  rcases Except.bind_error_iff.1 h with h | ⟨_, -, h⟩
  · exact .inl (checkSize_error h)
  · split at h
    · cases h
      exact .inl rfl
    · rename_i code hcode
      rw [hbars, Except.ok_bind, hground] at h
      rcases Except.bind_error_iff.1 h with h | ⟨_, -, h⟩
      · exact (checkSymbol_error h).imp id fun ⟨fault, hfault, he⟩ => ⟨code, bars, fault, hcode, hbars, hfault, he⟩
      · cases h

end Canvas

end PageTemplate
