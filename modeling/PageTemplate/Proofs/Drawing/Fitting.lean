/-
Where fitting a text fails in its arithmetic. The search ends so at a try whose
measure fails, or whose answer cannot be used to adjust the size or the offset
(`Fit.search_arithmetic`). In binary64 the width of a try may not be finite, and
the width that is allowed may be out of range; nothing else can fail
(`TextLine.draw_stray`).
-/
import PageTemplate.Component.Basic
import PageTemplate.Proofs.Binary64.Rounding
import PageTemplate.Proofs.Drawing.Colour
import PageTemplate.Proofs.Result
import PageTemplate.Proofs.Session.Stray

namespace PageTemplate

namespace Fit

/-! ## The search -/

section Search

variable {Size Failure : Type} {arithmetic : FitArithmetic Size Failure}
  {measure : Nat → Size → Except Failure (Bool × Int)} {allowed : Int}

/-- A search that fails in its arithmetic made a try whose measure failed, or whose width could not be
used. -/
theorem search_arithmetic {remaining used : Nat} {size : Size} {offset : Int} {tries : List (FitTry Size)}
    {e : Failure} (h : search arithmetic measure allowed remaining used size offset = (tries, .error (.arithmetic e))) :
    ∃ place, ∃ attempt ∈ tries, measure place attempt.size = .error e ∨
      ∃ fits width offset, measure place attempt.size = .ok (fits, width) ∧
        adjust arithmetic allowed width attempt.size offset = .error e := by
  induction remaining generalizing used size offset tries with
  | zero => cases h
  | succ remaining ih =>
    unfold search at h
    split at h
    · rename_i failure hmeasure
      cases h
      exact ⟨used, ⟨size, none⟩, List.mem_singleton_self _, .inl hmeasure⟩
    · rename_i fits width hmeasure
      simp only at h
      split at h
      · rename_i failure hadjust
        cases h
        exact ⟨used, _, List.mem_singleton_self _, .inr ⟨fits, width, offset, hmeasure, hadjust⟩⟩
      · rename_i next offset' hadjust
        split at h
        · cases h
        · generalize hrest : search arithmetic measure allowed remaining (used + 1) next offset' = rest at h
          obtain ⟨tries', result⟩ := rest
          cases h
          obtain ⟨place, attempt, hattempt, hfails⟩ := ih hrest
          exact ⟨place, attempt, List.mem_cons_of_mem _ hattempt, hfails⟩

/-- A search that finds a size finds it at the first try, or goes on from there and finds it later. -/
theorem search_succ_ok {remaining used : Nat} {size : Size} {offset : Int} {tries : List (FitTry Size)}
    {found : Fit Size} (h : search arithmetic measure allowed (remaining + 1) used size offset = (tries, .ok found)) :
    ∃ fits width next moved, measure used size = .ok (fits, width) ∧
      adjust arithmetic allowed width size offset = .ok (next, moved) ∧
      (fits = true ∧ tries = [⟨size, some (fits, width)⟩] ∧ found = ⟨next, moved, width, used + 1⟩ ∨
        fits = false ∧ ∃ more, tries = ⟨size, some (fits, width)⟩ :: more ∧
          search arithmetic measure allowed remaining (used + 1) next moved = (more, .ok found)) := by
  unfold search at h
  split at h
  · cases h
  · rename_i fits width hmeasure
    simp only at h
    split at h
    · cases h
    · rename_i next moved hadjust
      refine ⟨fits, width, next, moved, hmeasure, hadjust, ?_⟩
      split at h
      · rename_i hfits
        cases h
        exact .inl ⟨hfits, rfl, rfl⟩
      · rename_i hfits
        generalize hrest : search arithmetic measure allowed remaining (used + 1) next moved = rest at h
        obtain ⟨more, result⟩ := rest
        cases h
        exact .inr ⟨by simpa using hfits, more, rfl, rfl⟩

/-- A search that finds a size was told at its last try that the text fits, and adjusted the size of that
try. If the tries that did not fit were all too wide, they left the offset as it was. -/
theorem search_found {remaining used : Nat} {size : Size} {offset : Int} {tries : List (FitTry Size)}
    {found : Fit Size} (h : search arithmetic measure allowed remaining used size offset = (tries, .ok found)) :
    ∃ place size before, measure place size = .ok (true, found.width) ∧
      adjust arithmetic allowed found.width size before = .ok (found.size, found.offset) ∧
      ((∀ place size width, measure place size = .ok (false, width) → allowed < width) → before = offset) := by
  induction remaining generalizing used size offset tries with
  | zero => cases h
  | succ remaining ih =>
    obtain ⟨fits, width, next, moved, hmeasure, hadjust, ⟨rfl, rfl, rfl⟩ | ⟨rfl, more, rfl, hrest⟩⟩ := search_succ_ok h
    · exact ⟨used, size, offset, hmeasure, hadjust, fun _ => rfl⟩
    · obtain ⟨place, last, before, hlast, hfound, hkept⟩ := ih hrest
      refine ⟨place, last, before, hlast, hfound, fun hwide => (hkept hwide).trans ?_⟩
      -- A try that is too wide scales the size alone.
      rw [adjust, if_pos (hwide used size width hmeasure)] at hadjust
      obtain ⟨_, -, hpair⟩ := Except.map_ok_iff.1 hadjust
      exact (Prod.ext_iff.1 hpair).2.symm

/-- A text that is not too wide keeps its size, and is moved only where it leaves some of the width free. -/
theorem adjust_of_le {width offset offset' : Int} {size size' : Size}
    (h : adjust arithmetic allowed width size offset = .ok (size', offset')) (hle : width ≤ allowed) :
    size' = size ∧ (width = allowed ∧ offset' = offset ∨
      width < allowed ∧ arithmetic.shift (allowed - width) = .ok offset') := by
  unfold adjust at h
  rw [if_neg (by omega)] at h
  split at h
  · rename_i hlt
    obtain ⟨_, hshift, hpair⟩ := Except.map_ok_iff.1 h
    cases hpair
    exact ⟨rfl, .inr ⟨hlt, hshift⟩⟩
  · cases h
    exact ⟨rfl, .inl ⟨by omega, rfl⟩⟩

end Search

end Fit

/-- A text is moved into its free width, at most to the end of it. -/
theorem Alignment.offset_within {alignment : Alignment} {free n : Int} (hfree : 0 ≤ free)
    (h : alignment.offset free = .ok n) : 0 ≤ n ∧ n ≤ free := by
  cases alignment with
  | left => cases h; omega
  | right => cases h; omega
  | centre =>
    obtain ⟨half, hhalf, hcut⟩ := Except.bind_ok_iff.1 h
    exact Binary64.truncate_ofQuotient_le hfree (by decide) hhalf hcut

/-- A text cannot be moved only to the middle of a width whose half is out of range. -/
theorem Alignment.offset_error {alignment : Alignment} {free : Int} {e : ArithmeticError}
    (h : alignment.offset free = .error e) :
    alignment = .centre ∧ e = .quotientTooLarge ∧ Binary64.overflowBound * 2 ≤ free.natAbs := by
  unfold Alignment.offset at h
  split at h
  · cases h
  · cases h
  · rcases Except.bind_error_iff.1 h with h | ⟨half, hhalf, h⟩
    · obtain ⟨hzero, -⟩ | ⟨-, he, hlarge⟩ := Binary64.ofQuotient_error_iff.1 h
      · cases hzero
      · have hdivisor : (2 : Int).natAbs = 2 := rfl
        rw [hdivisor] at hlarge
        exact ⟨rfl, he, hlarge⟩
    · have hfinite := Binary64.isFinite_of_ofQuotient hhalf
      rw [Binary64.toIntBy_error_iff.1 ⟨e, h⟩] at hfinite
      cases hfinite

theorem Fit.scale_error {alignment : Alignment} {allowed measured : Int} {size : Binary64} {e : ArithmeticError}
    (h : (binary64Arithmetic alignment).scale size allowed measured = .error e) :
    measured = 0 ∨ e = .quotientTooLarge ∧ Binary64.overflowBound * measured.natAbs ≤ allowed.natAbs := by
  obtain ⟨hzero, -⟩ | ⟨-, he, hlarge⟩ := Binary64.ofQuotient_error_iff.1 (Except.map_error_iff.1 h)
  · exact .inl hzero
  · exact .inr ⟨he, hlarge⟩

theorem Fit.shift_error {alignment : Alignment} {free : Int} {e : ArithmeticError}
    (h : (binary64Arithmetic alignment).shift free = .error e) :
    alignment = .centre ∧ e = .quotientTooLarge ∧ Binary64.overflowBound * 2 ≤ free.natAbs :=
  Alignment.offset_error h

variable [Platform]

/-! ## Measuring -/

theorem measureText_of_nonpos {content : String} {face : FontFace} {maxWidth : Int} (h : maxWidth ≤ 0) :
    measureText content face maxWidth = .ok (false, -1) := if_pos h

theorem measureText_error {content : String} {face : FontFace} {maxWidth : Int} {e : ArithmeticError}
    (h : measureText content face maxWidth = .error e) :
    0 < maxWidth ∧ (Platform.textWidth content face.name face.size).ceil = .error e := by
  unfold measureText at h
  split at h
  · cases h
  · exact ⟨by omega, Except.map_error_iff.1 h⟩

theorem measureText_ok {content : String} {face : FontFace} {maxWidth width : Int} {fits : Bool}
    (h : measureText content face maxWidth = .ok (fits, width)) (hpos : 0 < maxWidth) :
    fits = decide (width ≤ maxWidth) := by
  unfold measureText at h
  rw [if_neg (by omega)] at h
  obtain ⟨measured, -, hpair⟩ := Except.map_ok_iff.1 h
  cases hpair
  rfl

/-- The width of a text is that of the font, rounded up. -/
theorem ceil_of_measureText {content : String} {face : FontFace} {maxWidth width : Int} {fits : Bool}
    (h : measureText content face maxWidth = .ok (fits, width)) (hpos : 0 < maxWidth) :
    (Platform.textWidth content face.name face.size).ceil = .ok width := by
  unfold measureText at h
  rw [if_neg (by omega)] at h
  obtain ⟨measured, hmeasured, hpair⟩ := Except.map_ok_iff.1 h
  cases hpair
  exact hmeasured

/-- A text that fits is drawn, if its colour can be filled with. -/
theorem Canvas.text_of_fits {canvas : Canvas} {content : String} {start : Point} {face : FontFace} {colour : Colour}
    {maxWidth width : Int} (hpos : 0 < maxWidth) (hmeasure : measureText content face maxWidth = .ok (true, width)) :
    canvas.text content start face colour maxWidth =
      colour.fill.map fun fill => canvas.draw (.text start.x (canvas.flip start.y) face content fill) := by
  unfold text
  rw [if_neg (by omega), hmeasure]

/-! ## A line of text -/

namespace TextLine

variable {line : TextLine} {content : String} {resolution : Binary64}

/-- The search for a size of a line: the tries, and what comes of it. -/
def fit (line : TextLine) (content : String) (resolution : Binary64) :
    List (FitTry Binary64) × Except FitFault (Fit Binary64) :=
  Fit.fit content line.size line.maxWidth
    (fun _ size => measureText content ⟨line.font, size⟩ line.maxWidth) line.alignment resolution

/-- The stray faults of drawing a line: at one of the tries the text is so wide that its width is no
integer, or the width that is allowed is so far below zero or above the width of the text that their
quotient or half their difference is out of range. -/
inductive Strays (line : TextLine) (content : String) (resolution : Binary64) : ArithmeticError → Prop
  | unmeasured {attempt : FitTry Binary64} {e : ArithmeticError} : attempt ∈ (line.fit content resolution).1 →
    0 < line.maxWidth → (Platform.textWidth content line.font attempt.size).ceil = .error e →
      Strays line content resolution e
  | negative : line.maxWidth < 0 → Binary64.overflowBound ≤ line.maxWidth.natAbs →
    Strays line content resolution .quotientTooLarge
  | centred {attempt : FitTry Binary64} {fits : Bool} {width : Int} :
    attempt ∈ (line.fit content resolution).1 →
      measureText content ⟨line.font, attempt.size⟩ line.maxWidth = .ok (fits, width) →
        line.alignment = .centre → width < line.maxWidth →
          Binary64.overflowBound * 2 ≤ (line.maxWidth - width).natAbs →
            Strays line content resolution .quotientTooLarge

/-- A size cannot be scaled only where the width that is allowed is far below zero. -/
theorem negative_of_scale_error {attempt : FitTry Binary64} {fits : Bool} {width : Int} {e : ArithmeticError}
    (hmeasure : measureText content ⟨line.font, attempt.size⟩ line.maxWidth = .ok (fits, width))
    (hlt : line.maxWidth < width)
    (h : (Fit.binary64Arithmetic line.alignment).scale attempt.size line.maxWidth width = .error e) :
    line.Strays content resolution e := by
  obtain hzero | ⟨rfl, hlarge⟩ := Fit.scale_error h
  · by_cases hpos : 0 < line.maxWidth
    · omega
    · rw [measureText_of_nonpos (by omega)] at hmeasure
      cases hmeasure
      omega
  · by_cases hpos : 0 < line.maxWidth
    · -- A quotient of a width by a larger one is below one.
      have hbound := Binary64.overflowBound_pos
      have hle : width.natAbs ≤ Binary64.overflowBound * width.natAbs := Nat.le_mul_of_pos_left _ (by omega)
      omega
    · rw [measureText_of_nonpos (by omega)] at hmeasure
      cases hmeasure
      have hunit : (-1 : Int).natAbs = 1 := rfl
      rw [hunit, Nat.mul_one] at hlarge
      exact .negative (by omega) hlarge

theorem fit_number {e : ArithmeticError} (h : (line.fit content resolution).2 = .error (.number e)) :
    line.Strays content resolution e := by
  unfold fit Fit.fit at h
  generalize hsearch : Fit.search _ _ _ _ _ _ _ = search at h
  have htries : (line.fit content resolution).1 = search.1 := by rw [← hsearch]; rfl
  obtain ⟨tries, result⟩ := search
  have hresult : result = .error (.arithmetic e) := by
    rcases result with (_ | _) | _ <;> cases h
    rfl
  rw [hresult] at hsearch
  obtain ⟨place, attempt, hattempt, hmeasure | ⟨fits, width, offset, hmeasure, hadjust⟩⟩ :=
    Fit.search_arithmetic hsearch
  · obtain ⟨hpos, hceil⟩ := measureText_error hmeasure
    exact .unmeasured (htries ▸ hattempt) hpos hceil
  · unfold Fit.adjust at hadjust
    split at hadjust
    · rename_i hlt
      exact negative_of_scale_error hmeasure hlt (Except.map_error_iff.1 hadjust)
    · split at hadjust
      · rename_i hlt
        obtain ⟨hcentre, rfl, hlarge⟩ := Fit.shift_error (Except.map_error_iff.1 hadjust)
        exact .centred (htries ▸ hattempt) hmeasure hcentre hlt hlarge
      · cases hadjust

theorem search_of_fit {found : Fit Binary64} (h : (line.fit content resolution).2 = .ok found) :
    ∃ tries, Fit.search (Fit.binary64Arithmetic line.alignment)
      (fun _ size => measureText content ⟨line.font, size⟩ line.maxWidth) line.maxWidth fitTries 0
      (Fit.pixelSize line.size resolution) 0 = (tries, .ok found) := by
  unfold fit Fit.fit at h
  generalize Fit.search _ _ _ _ _ _ _ = search at h ⊢
  obtain ⟨tries, result⟩ := search
  rcases result with (_ | _) | _ <;> cases h
  exact ⟨tries, rfl⟩

/-- The size that is found is one at which the text fits. -/
theorem measure_found {found : Fit Binary64} (h : (line.fit content resolution).2 = .ok found) :
    0 < line.maxWidth ∧
      measureText content ⟨line.font, found.size⟩ line.maxWidth = .ok (true, found.width) := by
  obtain ⟨tries, hsearch⟩ := search_of_fit h
  obtain ⟨place, size, offset, hmeasure, hadjust, -⟩ := Fit.search_found hsearch
  have hpos : 0 < line.maxWidth := by
    by_contra hnot
    rw [measureText_of_nonpos (by omega)] at hmeasure
    cases hmeasure
  have hle : found.width ≤ line.maxWidth := by simpa using measureText_ok hmeasure hpos
  obtain ⟨hsize, -⟩ := Fit.adjust_of_le hadjust hle
  exact ⟨hpos, hsize ▸ hmeasure⟩

/-- The text that is found stays inside its width. -/
theorem offset_found {found : Fit Binary64} (h : (line.fit content resolution).2 = .ok found) :
    0 ≤ found.offset ∧ found.offset + found.width ≤ line.maxWidth := by
  obtain ⟨hpos, hfound⟩ := measure_found h
  have hle : found.width ≤ line.maxWidth := by simpa using measureText_ok hfound hpos
  obtain ⟨tries, hsearch⟩ := search_of_fit h
  obtain ⟨place, size, before, -, hadjust, hkept⟩ := Fit.search_found hsearch
  -- In a positive width what does not fit is too wide, so no try before the last moved the text.
  obtain rfl : before = 0 := hkept fun place size width hmisfit => by
    simpa using measureText_ok hmisfit hpos
  obtain ⟨-, hfull | ⟨hfree, hshift⟩⟩ := Fit.adjust_of_le hadjust hle
  · omega
  · have hwithin := Alignment.offset_within (by omega) hshift
    omega

/-- Drawing a line strays only where its search for a size does: a size that is found is one that can be
drawn. -/
theorem draw_stray {canvas : Canvas} {fault : Fault} (hcolour : line.colour.InRange)
    (h : (line.draw content canvas).2 = .error fault) (hstray : fault.IsStray) :
    ∃ e, fault = .fit (.number e) ∧ line.Strays content canvas.resolution e := by
  unfold draw at h
  simp only at h
  split at h
  · rename_i e hfit
    cases h
    cases e with
    | exhausted => cases hstray
    | number e => exact ⟨e, rfl, fit_number hfit⟩
  · rename_i found hfit
    obtain ⟨hpos, hmeasure⟩ := measure_found hfit
    obtain ⟨fill, hfill⟩ := hcolour.fill_ok
    rw [Canvas.text_of_fits hpos hmeasure, hfill] at h
    cases h

end TextLine

end PageTemplate
