/-
How a picture is scaled to a page. It fills the page one way, and the other way it
stays inside it, though the length that way is rounded twice, to binary64 and to
an integer: no rounding steps over a side of the page, nor further than to the next
integer, so the proportions are kept but for less than one (`fitSize_within`). What
is scaled has a positive size, so the page never refuses to draw a base image.
-/
import PageTemplate.Platform.Plain
import PageTemplate.Proofs.Binary64.Rounding
import PageTemplate.Proofs.Template.StrayBackground

namespace PageTemplate

/-! ## What the canvas draws -/

namespace Canvas

variable {page : Canvas} {width height : Int}

theorem checkSize_of_pos (hwidth : 0 < width) (hheight : 0 < height) : checkSize width height = .ok () := by
  unfold checkSize
  rw [if_neg (by omega), if_neg (by omega), if_neg (by omega)]

theorem image_of_pos (topLeft : Point) (picture : Option Picture) (hwidth : 0 < width) (hheight : 0 < height) :
    page.image topLeft picture width height = .ok (page.draw (.image (page.box topLeft width height) picture)) := by
  rw [image, checkSize_of_pos hwidth hheight]
  rfl

theorem rectangle_of_pos (topLeft : Point) {colour : Colour} (hcolour : colour.InRange) (hwidth : 0 < width)
    (hheight : 0 < height) : ∃ after, page.rectangle topLeft width height colour = .ok after := by
  obtain ⟨fill, hfill⟩ := hcolour.fill_ok
  rw [rectangle, checkSize_of_pos hwidth hheight, hfill]
  exact ⟨_, rfl⟩

end Canvas

namespace Background

variable {source target : Int × Int} {picture : Picture} {page : Canvas} {resolution : Binary64}

/-! ## Sizes -/

/-- Whether a size is as wide or as high as another, and the other way less than one off the proportions of a
third. -/
def IsProportional (source target size : Int × Int) : Prop :=
  size.1 = target.1 ∧ |size.2 * source.1 - source.2 * size.1| < source.1 ∨
    size.2 = target.2 ∧ |size.1 * source.2 - source.1 * size.2| < source.2

/-- Whether both sides of a size are from one to `2^53`, and so can be written in 53 bits. -/
def Exact (size : Int × Int) : Prop :=
  (1 ≤ size.1 ∧ size.1 ≤ 9007199254740992) ∧ 1 ≤ size.2 ∧ size.2 ≤ 9007199254740992

theorem one_le_scaled {length num den n : Int} (h : scaled length num den = .ok n) : 1 ≤ n := by
  obtain ⟨exact, -, h⟩ := Except.bind_ok_iff.1 h
  obtain ⟨rounded, -, h⟩ := Except.bind_ok_iff.1 h
  cases h
  unfold atLeastOne
  split <;> omega

/-- A length that is scaled to less than a side of the page stays inside it, and is less than one off. -/
theorem scaled_within {length num den side : Int} (hlength : 1 ≤ length) (hnum : 1 ≤ num) (hden : 1 ≤ den)
    (hside : 1 ≤ side) (hexact : side ≤ 9007199254740992) (h : length * num < side * den) :
    ∃ n, scaled length num den = .ok n ∧ 1 ≤ n ∧ n ≤ side ∧ |n * den - length * num| < den := by
  lift length to Nat using by omega
  lift num to Nat using by omega
  lift den to Nat using by omega
  lift side to Nat using by omega
  have hpos : 0 < length * num := Nat.mul_pos (by omega) (by omega)
  have hless : length * num < side * den := by exact_mod_cast h
  have hrange : length * num < 9007199254740992 * den := hless.trans_le (Nat.mul_le_mul_right den (by omega))
  obtain ⟨x, n, hquotient, hround, habove, hbelow⟩ := Binary64.round_ofQuotient (by omega) hrange
  have hscaled : scaled length num den = .ok (atLeastOne n) := by
    rw [scaled, ← Int.natCast_mul, hquotient, Except.ok_bind, hround]
    rfl
  have hwithin := habove side hless.le
  -- The integer is one of the two around the quotient, and the quotient itself if that is one.
  have hnear : n * den < length * num + den ∧ length * num < n * den + den := by
    have hquotient := Nat.div_add_mod' (length * num) den
    have hrest := Nat.mod_lt (length * num) (show 0 < den by omega)
    have hfloor := hbelow (length * num / den) (Nat.div_mul_le_self _ _)
    have hceil : n ≤ length * num / den ∨ n ≤ length * num / den + 1 ∧ 0 < length * num % den := by
      rcases Nat.eq_zero_or_pos (length * num % den) with hzero | hsome
      · exact .inl (habove _ (by omega))
      · exact .inr ⟨habove _ (by rw [Nat.succ_mul]; omega), hsome⟩
    generalize length * num / den = whole at *
    obtain rfl | ⟨rfl, hsome⟩ : n = whole ∨ n = whole + 1 ∧ 0 < length * num % den := by omega
    · omega
    · rw [Nat.succ_mul]
      omega
  refine ⟨atLeastOne n, hscaled, one_le_scaled hscaled, ?_, ?_⟩
  · unfold atLeastOne
    split <;> omega
  · rw [abs_lt]
    unfold atLeastOne
    split
    · obtain rfl : n = 0 := by omega
      rw [Nat.zero_mul] at hnear
      omega
    · omega

/-- Turning the picture and the page turns the size. -/
theorem fitSize_swap (source target : Int × Int) :
    fitSize source.swap target.swap = (fitSize source target).map Prod.swap := by
  obtain ⟨sourceWidth, sourceHeight⟩ := source
  obtain ⟨targetWidth, targetHeight⟩ := target
  simp only [fitSize, Prod.swap_prod_mk, Int.mul_comm sourceHeight, Int.mul_comm targetHeight]
  rcases Int.lt_trichotomy (sourceWidth * targetHeight) (targetWidth * sourceHeight) with hlt | heq | hgt
  · rw [if_neg hlt.ne', if_pos hlt, if_neg hlt.ne, if_neg (by omega)]
    cases scaled sourceWidth targetHeight sourceHeight <;> rfl
  · rw [if_pos heq.symm, if_pos heq]
    rfl
  · rw [if_neg hgt.ne, if_neg (by omega), if_neg hgt.ne', if_pos hgt]
    cases scaled sourceHeight targetWidth sourceWidth <;> rfl

/-- Whatever the sizes are, a size that is found is positive. -/
theorem fitSize_pos {size : Int × Int} (hpage : 0 < target.1 ∧ 0 < target.2) (h : fitSize source target = .ok size) :
    0 < size.1 ∧ 0 < size.2 := by
  unfold fitSize at h
  simp only at h
  split at h
  · cases h
    exact hpage
  · split at h
    · obtain ⟨height, hheight, rfl⟩ := Except.map_ok_iff.1 h
      exact ⟨hpage.1, one_le_scaled hheight⟩
    · obtain ⟨width, hwidth, rfl⟩ := Except.map_ok_iff.1 h
      exact ⟨one_le_scaled hwidth, hpage.2⟩

/-- A size that is found fills the page one way and stays inside it the other way, and it is in proportion. -/
theorem fitSize_ok (hsource : Exact source) (htarget : Exact target) :
    ∃ width height, fitSize source target = .ok (width, height) ∧ 1 ≤ width ∧ width ≤ target.1 ∧ 1 ≤ height ∧
      height ≤ target.2 ∧ IsProportional source target (width, height) := by
  obtain ⟨sourceWidth, sourceHeight⟩ := source
  obtain ⟨targetWidth, targetHeight⟩ := target
  obtain ⟨⟨hsw, hsw'⟩, hsh, hsh'⟩ := hsource
  obtain ⟨⟨htw, htw'⟩, hth, hth'⟩ := htarget
  simp only at *
  unfold fitSize
  simp only
  rcases Int.lt_trichotomy (sourceWidth * targetHeight) (targetWidth * sourceHeight) with hlt | heq | hgt
  · obtain ⟨width, hwidth, hpos, hle, hnear⟩ := scaled_within hsw hth hsh htw htw' hlt
    refine ⟨width, targetHeight, ?_, hpos, hle, hth, Int.le_refl _, .inr ⟨rfl, hnear⟩⟩
    rw [if_neg hlt.ne, if_neg (by omega), hwidth]
    rfl
  · refine ⟨targetWidth, targetHeight, if_pos heq, htw, Int.le_refl _, hth, Int.le_refl _, .inl ⟨rfl, ?_⟩⟩
    have hzero : targetHeight * sourceWidth - sourceHeight * targetWidth = 0 := by
      rw [Int.mul_comm targetHeight, heq, Int.mul_comm sourceHeight, Int.sub_self]
    rw [hzero, abs_zero]
    exact hsw
  · obtain ⟨height, hheight, hpos, hle, hnear⟩ := scaled_within hsh htw hsw hth hth'
      (by rw [Int.mul_comm sourceHeight, Int.mul_comm targetHeight]; exact hgt)
    refine ⟨targetWidth, height, ?_, htw, Int.le_refl _, hpos, hle, .inl ⟨rfl, hnear⟩⟩
    rw [if_neg hgt.ne', if_pos hgt, hheight]
    rfl

/-! ## A base image on a page -/

/-- A picture is drawn on a page at the size it is fitted to. -/
theorem withPicture_of_fitSize {width height : Int}
    (h : fitSize (picture.width, picture.height) (page.width, page.height) = .ok (width, height)) :
    withPicture picture resolution (some page) =
      .ok (some ((page.withResolution resolution).draw (.image (page.box {} width height) (some picture))),
        [.debug "background" ("drawing base image at " ++ sizeText width height)]) := by
  obtain ⟨hwidth, hheight⟩ := fitSize_pos page.positive h
  have hdraw := (page.withResolution resolution).image_of_pos {} (some picture) hwidth hheight
  unfold withPicture
  refine Except.bind_ok_iff.2 ⟨(width, height), ?_, ?_⟩
  · change ofNumber (fitSize (picture.width, picture.height) (page.width, page.height)) = _
    rw [h]
    rfl
  · refine Except.bind_ok_iff.2 ⟨(page.withResolution resolution, width, height), rfl, ?_⟩
    refine Except.bind_ok_iff.2 ⟨_, ?_, rfl⟩
    simp only [hdraw]
    rfl

/-- Whether a result does not fail for what the canvas refuses. -/
abbrev Unrefused {α : Type} (x : Except BackgroundFault α) : Prop := FailsOnly (fun fault => ∀ e, fault ≠ .canvas e) x

theorem unrefused_throw {α : Type} {fault : BackgroundFault} (h : ∀ e, fault ≠ .canvas e) :
    Unrefused (throw fault : Except BackgroundFault α) := fun _ he => by cases he; exact h

theorem unrefused_ofNumber {α : Type} (x : Except ArithmeticError α) : Unrefused (ofNumber x) := by
  intro fault h e
  cases x <;> cases h
  simp

theorem unrefused_ofPicture (x : Except ComponentFault Picture) : Unrefused (ofPicture x) := by
  intro fault h e
  cases x <;> cases h
  simp

theorem unrefused_givenFields (baseImage : Json) : Unrefused (givenFields baseImage) := by
  intro fault h e
  unfold givenFields at h
  split at h
  · cases h
  · split at h <;> cases h
    simp

theorem unrefused_fieldText (fields : Dictionary Json) (key : String) : Unrefused (fieldText fields key) := by
  intro fault h e
  unfold fieldText at h
  split at h <;> cases h
  simp

theorem unrefused_readSource (fields : Dictionary Json) : Unrefused (readSource fields) := by
  refine (unrefused_fieldText _ _).bind fun file _ => (unrefused_fieldText _ _).bind fun data _ => ?_
  split
  all_goals first | exact FailsOnly.ok _ | exact unrefused_throw (by simp)

theorem unrefused_readChannel (channels : Dictionary Json) (channel : Channel) :
    Unrefused (readChannel channels channel) := by
  refine (unrefused_fieldText _ _).bind fun text _ => ?_
  split
  · exact FailsOnly.ok _
  · exact unrefused_throw (by simp)

theorem unrefused_readColour (channels : Dictionary Json) : Unrefused (readColour channels) :=
  (unrefused_readChannel _ _).bind fun _ _ => (unrefused_readChannel _ _).bind fun _ _ =>
    (unrefused_readChannel _ _).bind fun _ _ => (unrefused_readChannel _ _).bind fun _ _ => FailsOnly.ok _

theorem unrefused_withColour (fields channels : Dictionary Json) (resolution : Binary64) (page : Canvas) :
    Unrefused (withColour fields channels resolution (some page)) := by
  refine (unrefused_readColour channels).bind fun colour hcolour => ?_
  obtain ⟨after, hafter⟩ := (page.withResolution resolution).rectangle_of_pos {}
    (readColour_ok hcolour) page.positive.1 page.positive.2
  change Unrefused (ofCanvas ((page.withResolution resolution).rectangle {} page.width page.height colour))
  rw [hafter]
  exact FailsOnly.ok after

theorem unrefused_withPicture (picture : Picture) (resolution : Binary64) (page : Canvas) :
    Unrefused (withPicture picture resolution (some page)) := by
  cases hfit : fitSize (picture.width, picture.height) (page.width, page.height) with
  | ok size =>
    rw [withPicture_of_fitSize hfit]
    exact FailsOnly.ok _
  | error failure =>
    have hfails : withPicture picture resolution (some page) = .error (.number failure) := by
      refine Except.bind_error_iff.2 (.inl ?_)
      change ofNumber (fitSize (picture.width, picture.height) (page.width, page.height)) = _
      rw [hfit]
      rfl
    rw [hfails]
    exact unrefused_throw (by simp)

/-- A page never refuses a base image, whatever the image and the page are. -/
theorem unrefused_apply [Platform] (files : FileTree) (settings : Settings) (page : Canvas) (baseImage : Json) :
    Unrefused (apply files settings (some page) baseImage) := by
  refine (unrefused_givenFields baseImage).bind fun fields _ => ?_
  refine (unrefused_readSource fields).bind fun source _ => (unrefused_ofNumber _).bind fun resolution _ => ?_
  cases source with
  | none => exact FailsOnly.ok _
  | colour channels => exact (unrefused_withColour fields channels resolution page).bind fun _ _ => FailsOnly.ok _
  | file name => exact (unrefused_ofPicture _).bind fun picture _ => unrefused_withPicture picture resolution page
  | data text => exact (unrefused_ofPicture _).bind fun picture _ => unrefused_withPicture picture resolution page

/-- A picture is fitted inside a page and fills it one way, in proportion, and turning both turns the size. It is
drawn at this size, inside the page, and no base image is refused by a page. -/
theorem fitSize_within [Platform] (hsource : Exact source) (htarget : Exact target) :
    (∃ width height, fitSize source target = .ok (width, height) ∧ 1 ≤ width ∧ width ≤ target.1 ∧ 1 ≤ height ∧
      height ≤ target.2 ∧ (width = target.1 ∨ height = target.2) ∧ IsProportional source target (width, height) ∧
      fitSize source.swap target.swap = .ok (height, width) ∧
      ∀ (picture : Picture) (page : Canvas) (resolution : Binary64),
        ((picture.width : Int), (picture.height : Int)) = source → (page.width, page.height) = target →
          ∃ journal, withPicture picture resolution (some page) =
            .ok (some ((page.withResolution resolution).draw (.image (page.box {} width height) (some picture))),
              journal)) ∧
    ∀ files settings page baseImage fault, apply files settings (some page) baseImage ≠ .error (.canvas fault) := by
  obtain ⟨width, height, hfit, hwidth, hwithin, hheight, hwithin', hproportional⟩ := fitSize_ok hsource htarget
  refine ⟨⟨width, height, hfit, hwidth, hwithin, hheight, hwithin', ?_, hproportional, ?_, ?_⟩, ?_⟩
  · exact hproportional.imp And.left And.left
  · rw [fitSize_swap, hfit]
    rfl
  · rintro picture page resolution rfl rfl
    exact ⟨_, withPicture_of_fitSize hfit⟩
  · intro files settings page baseImage fault h
    exact unrefused_apply files settings page baseImage _ h fault rfl

/-! A page of the largest odd sides that 53 bits can write, and a picture that is wider by one. -/

def largePage : Canvas :=
  { width := 9007199254740991, height := 9007199254740991, resolution := Binary64.ofRatio false 72 1,
    positive := by decide }

def widerPicture : Picture := ⟨[], 9007199254740992, 9007199254740991⟩

open scoped Plain in
theorem fitSize_within_wider :
    Exact (9007199254740992, 9007199254740991) ∧ Exact (9007199254740991, 9007199254740991) ∧
      fitSize (9007199254740992, 9007199254740991) (9007199254740991, 9007199254740991) =
        .ok (9007199254740991, 9007199254740990) ∧
      ∃ journal, withPicture widerPicture (Binary64.ofRatio false 72 1) (some largePage) =
        .ok (some (largePage.draw (.image ⟨0, 1, 9007199254740991, 9007199254740990⟩ (some widerPicture))),
          journal) := by
  have hsource : Exact (9007199254740992, 9007199254740991) := by unfold Exact; decide
  have htarget : Exact (9007199254740991, 9007199254740991) := by unfold Exact; decide
  have hvalue : fitSize (9007199254740992, 9007199254740991) (9007199254740991, 9007199254740991) =
    .ok (9007199254740991, 9007199254740990) := by decide +kernel
  obtain ⟨⟨width, height, hfit, -, -, -, -, -, -, -, hdraws⟩, -⟩ := fitSize_within hsource htarget
  obtain ⟨rfl, rfl⟩ : width = 9007199254740991 ∧ height = 9007199254740990 := by
    rw [hvalue] at hfit
    cases hfit
    exact ⟨rfl, rfl⟩
  exact ⟨hsource, htarget, hvalue, hdraws widerPicture largePage _ rfl rfl⟩

end Background

end PageTemplate
