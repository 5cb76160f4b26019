/-
Where a fitted text is drawn. The canvas measures a text again before it draws
it, and refuses it where it is too wide. A search that ends well ends with the
size it measured last, so the canvas finds the text as wide as the search did
and takes it; and the text is moved by a part of the width that this measure
left free, so it stays inside its width (`TextLine.draw_fitted`). The only thing
that may still go wrong is the colour, whose channels have to be numbers when
they are taken in parts of one.
-/
import PageTemplate.Platform.Plain
import PageTemplate.Proofs.Component.Drawing
import PageTemplate.Proofs.Drawing.Fitting

namespace PageTemplate

theorem Colour.part_error {i : Int} {fault : CanvasFault} (h : part i = .error fault) : ∃ e, fault = .number e := by
  obtain ⟨e, -, rfl⟩ := Except.mapError_error_iff.1 h
  exact ⟨e, rfl⟩

/-- A colour that cannot be filled with has a channel that is not taken for a number. -/
theorem Colour.fill_error {colour : Colour} {fault : CanvasFault} (h : colour.fill = .error fault) :
    ∃ e, fault = .number e := by
  rcases Except.bind_error_iff.1 h with h | ⟨_, -, h⟩
  · exact part_error h
  · rcases Except.bind_error_iff.1 h with h | ⟨_, -, h⟩
    · exact part_error h
    · rcases Except.bind_error_iff.1 h with h | ⟨_, -, h⟩
      · exact part_error h
      · rcases Except.bind_error_iff.1 h with h | ⟨_, -, h⟩
        · exact part_error h
        · cases h

namespace TextLine

section

variable [Platform]

/-- The point at which a text that was fitted starts. -/
def startAt (line : TextLine) (found : Fit Binary64) : Point := ⟨line.start.x + found.offset, line.start.y⟩

theorem draw_of_fit {line : TextLine} {content : String} {canvas : Canvas} {found : Fit Binary64}
    (h : (line.fit content canvas.resolution).2 = .ok found) :
    (line.draw content canvas).2 = (canvas.text content (line.startAt found) ⟨line.font, found.size⟩ line.colour
      line.maxWidth).mapError .canvas := by
  have hfit : (Fit.fit content line.size line.maxWidth
      (fun _ size => measureText content ⟨line.font, size⟩ line.maxWidth) line.alignment canvas.resolution).2 =
        .ok found := h
  unfold draw startAt
  simp only [hfit]
  split
  · rename_i page htext
    rw [htext]
    rfl
  · rename_i fault htext
    rw [htext]
    rfl

theorem fit_of_nonpos {line : TextLine} (h : line.maxWidth ≤ 0) (content : String) (resolution : Binary64)
    (found : Fit Binary64) : (line.fit content resolution).2 ≠ .ok found := by
  intro hfound
  obtain ⟨hpos, -⟩ := measure_found hfound
  omega

/-- A text that was fitted is drawn where it starts, if its colour can be filled with. -/
theorem draw_of_found {line : TextLine} {content : String} {canvas : Canvas} {found : Fit Binary64}
    (h : (line.fit content canvas.resolution).2 = .ok found) :
    (line.draw content canvas).2 = (line.colour.fill.map fun fill => canvas.draw
      (.text (line.start.x + found.offset) (canvas.flip line.start.y) ⟨line.font, found.size⟩ content fill)).mapError
        .canvas := by
  obtain ⟨hpos, hmeasure⟩ := measure_found h
  rw [draw_of_fit h, Canvas.text_of_fits hpos hmeasure]
  rfl

/-- A fitted text is never refused for its width. Drawing it adds one operation to those there are, a text at
the size that was found, with its start moved by a part of the width that is left free there; if it fails, it
does so over a colour that is out of range. And in no width at all, no text is fitted. -/
theorem draw_fitted (line : TextLine) (content : String) (canvas : Canvas) :
    (∀ found, (line.fit content canvas.resolution).2 = .ok found →
      (Platform.textWidth content line.font found.size).ceil = .ok found.width ∧
      0 ≤ found.offset ∧ found.offset + found.width ≤ line.maxWidth ∧
      (∀ start colour fault, canvas.text content start ⟨line.font, found.size⟩ colour line.maxWidth = .error fault →
        fault ≠ .noTextWidth ∧ fault ≠ .textTooWide) ∧
      (∀ after, (line.draw content canvas).2 = .ok after →
        ∃ fill, line.colour.fill = .ok fill ∧ canvas.SameSheet after ∧
          after.operations = canvas.operations ++ [.text (line.start.x + found.offset) (canvas.height - line.start.y)
            ⟨line.font, found.size⟩ content fill]) ∧
      (∀ fault, (line.draw content canvas).2 = .error fault →
        ¬ line.colour.InRange ∧ ∃ e, fault = .canvas (.number e))) ∧
    (line.maxWidth ≤ 0 → ∀ found, (line.fit content canvas.resolution).2 ≠ .ok found) := by
  refine ⟨fun found h => ?_, fun h => fit_of_nonpos h content _⟩
  obtain ⟨hpos, hmeasure⟩ := measure_found h
  obtain ⟨hnonneg, hle⟩ := offset_found h
  refine ⟨ceil_of_measureText hmeasure hpos, hnonneg, hle, fun start colour fault hfault => ?_,
    fun after hafter => ?_, fun fault hfault => ?_⟩
  · rw [Canvas.text_of_fits hpos hmeasure] at hfault
    obtain ⟨e, rfl⟩ := Colour.fill_error (Except.map_error_iff.1 hfault)
    exact ⟨by simp, by simp⟩
  · rw [draw_of_found h] at hafter
    cases hfill : line.colour.fill with
    | error e => rw [hfill] at hafter; cases hafter
    | ok fill =>
      rw [hfill] at hafter
      cases hafter
      exact ⟨fill, rfl, ⟨rfl, rfl, rfl⟩, rfl⟩
  · rw [draw_of_found h] at hfault
    cases hfill : line.colour.fill with
    | ok fill => rw [hfill] at hfault; cases hfault
    | error failure =>
      rw [hfill] at hfault
      cases hfault
      refine ⟨fun hcolour => ?_, ?_⟩
      · obtain ⟨fill, hok⟩ := hcolour.fill_ok
        rw [hfill] at hok
        cases hok
      · obtain ⟨e, rfl⟩ := Colour.fill_error hfill
        exact ⟨e, rfl⟩

end

/-! A title of two letters, in the middle of a line that is 12 units longer than it. -/

def titleLine : TextLine :=
  { start := ⟨4, 20⟩, size := Binary64.ofRatio false 50 1, maxWidth := 60, alignment := .centre,
    font := "Helvetica", colour := ⟨0, 0, 0, 255⟩ }

def titleSheet : Canvas :=
  { width := 90, height := 50, resolution := Binary64.ofRatio false 72 1, positive := by decide }

open scoped Plain in
theorem draw_fitted_title : ∃ found fill after, (titleLine.fit "Hi" titleSheet.resolution).2 = .ok found ∧
    found.offset = 6 ∧ found.width = 48 ∧ (titleLine.draw "Hi" titleSheet).2 = .ok after ∧
    after.operations = [.text 10 30 ⟨"Helvetica", found.size⟩ "Hi" fill] := by
  have hplace : (titleLine.fit "Hi" titleSheet.resolution).2.toOption.map (fun found => (found.offset, found.width)) =
      some (6, 48) := by decide +kernel
  have hcolour : titleLine.colour.InRange := by rintro (_ | _ | _ | _) <;> decide
  rcases hfit : (titleLine.fit "Hi" titleSheet.resolution).2 with fault | found
  · rw [hfit] at hplace
    cases hplace
  · rw [hfit] at hplace
    obtain ⟨hoffset, hwidth⟩ := Prod.ext_iff.1 (Option.some.inj hplace)
    obtain ⟨-, -, -, -, hdrawn, hfails⟩ := (draw_fitted titleLine "Hi" titleSheet).1 found hfit
    rcases hdraw : (titleLine.draw "Hi" titleSheet).2 with fault | after
    · exact absurd hcolour (hfails fault hdraw).1
    · obtain ⟨fill, -, -, hoperations⟩ := hdrawn after hdraw
      simp only at hoffset
      rw [hoffset] at hoperations
      exact ⟨found, fill, after, rfl, hoffset, hwidth, rfl, hoperations⟩

end TextLine

end PageTemplate
