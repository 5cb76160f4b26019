/-
The stray faults of a base image (`Background.straysOnly_apply`). They are an
integer beyond binary64 for the resolution, too many digits for a side of the
page, a picture's path with a zero character or its text outside ASCII, and a
page so large that a picture cannot be scaled to it.
-/
import PageTemplate.Proofs.Component.StrayLoading
import PageTemplate.Proofs.Drawing.Colour
import PageTemplate.Template.Background

namespace PageTemplate.Background

/-! ## Results that stray -/

section StraysOnly

variable {α β : Type} {strays : BackgroundFault → Prop}

/-- Whether a result has no stray faults but some. -/
abbrev StraysOnly (strays : BackgroundFault → Prop) (x : Except BackgroundFault α) : Prop :=
  FailsOnly (fun fault => (Fault.background fault).IsStray → strays fault) x

theorem straysOnly_throw {fault : BackgroundFault} (h : ¬ (Fault.background fault).IsStray) :
    StraysOnly strays (throw fault : Except BackgroundFault α) :=
  fun _ he hstray => by cases he; exact absurd hstray h

/-- What the canvas explains the base image answers for. -/
theorem straysOnly_ofCanvas {x : Except CanvasFault α} (h : ∀ e, x = .error e → e.kind = .canvas) :
    StraysOnly strays (ofCanvas x) := by
  intro fault hfault hstray
  cases x with
  | ok a => cases hfault
  | error e =>
    cases hfault
    have hkind := h e rfl
    simp [Fault.IsStray, Fault.kind, BackgroundFault.kind, BackgroundFault.adopt, hkind,
      FaultKind.isTemplate] at hstray

end StraysOnly

/-! ## What strays -/

/-- The picture that a base image asks for. -/
inductive Shows [Platform] (files : FileTree) (settings : Settings) (fields : Dictionary Json) : Picture → Prop
  | file {name : String} {picture : Picture} : fields.get? "fileName" = some (.string name) →
      pictureOfFile files (settings.resolve name) = .ok picture → Shows files settings fields picture
  | data {text : String} {picture : Picture} : fields.get? "data" = some (.string text) →
      pictureOfBase64 text = .ok picture → Shows files settings fields picture

/-- The stray faults of a base image over the page there is. -/
inductive Strays [Platform] (files : FileTree) (settings : Settings) (canvas : Option Canvas)
    (fields : Dictionary Json) : BackgroundFault → Prop
  | resolution {i : Int} : fields.get? "ppi" = some (.int i) → Binary64.overflowBound ≤ i.natAbs →
      Strays files settings canvas fields (.number .integerTooLarge)
  | side {channels : Dictionary Json} {key text : String} {count : Nat} : canvas = none →
      colourChannels? fields = some channels → key = "width" ∨ key = "height" →
        fields.get? key = some (.string text) → Literal.TooLong text count →
          Strays files settings canvas fields (.field (.tooManyDigits count))
  | path {name : String} : fields.get? "fileName" = some (.string name) →
      '\x00' ∈ (settings.resolve name).text.toList →
        Strays files settings canvas fields
          (.component (.pictureUnreadable (settings.resolve name).text .nulInPath))
  | base64 {text : String} : fields.get? "data" = some (.string text) →
      (∃ c ∈ text.toList, 128 ≤ c.toNat) → Strays files settings canvas fields (.component (.base64 .notAscii))
  | scale {page : Canvas} {picture : Picture} : canvas = some page → Shows files settings fields picture →
      fitSize (picture.width, picture.height) (page.width, page.height) = .error .quotientTooLarge →
        Binary64.overflowBound < page.width.natAbs ∨ Binary64.overflowBound < page.height.natAbs →
          Strays files settings canvas fields (.number .quotientTooLarge)

variable {files : FileTree} {settings : Settings} {canvas : Option Canvas} {fields channels : Dictionary Json}

theorem Strays.isStray [Platform] {fault : BackgroundFault} (h : Strays files settings canvas fields fault) :
    (Fault.background fault).IsStray := by
  cases h <;> rfl

/-! ## Fields -/

theorem fieldText_ok {key text : String} (h : fieldText fields key = .ok text) (htext : text ≠ "") :
    fields.get? key = some (.string text) := by
  unfold fieldText at h
  split at h
  · cases h
    exact absurd rfl htext
  · rename_i s hs
    cases h
    exact hs
  · cases h

theorem straysOnly_fieldText {strays : BackgroundFault → Prop} (key : String) :
    StraysOnly strays (fieldText fields key) := by
  intro fault h hstray
  unfold fieldText at h
  split at h <;> cases h
  cases hstray

theorem straysOnly_readSource {strays : BackgroundFault → Prop} : StraysOnly strays (readSource fields) := by
  refine (straysOnly_fieldText _).bind fun file _ => (straysOnly_fieldText _).bind fun data _ => ?_
  split
  · exact FailsOnly.ok _
  · exact FailsOnly.ok _
  · exact FailsOnly.ok _
  · exact FailsOnly.ok _
  · exact straysOnly_throw (by decide)

/-- The source is the one that the fields give. -/
theorem readSource_ok {source : Source} (h : readSource fields = .ok source) :
    match source with
    | .none => True
    | .colour channels => colourChannels? fields = some channels
    | .file name => fields.get? "fileName" = some (.string name)
    | .data text => fields.get? "data" = some (.string text) := by
  obtain ⟨file, hfile, h⟩ := Except.bind_ok_iff.1 h
  obtain ⟨data, hdata, h⟩ := Except.bind_ok_iff.1 h
  split at h
  · cases h
    trivial
  · rename_i hchannels _ _
    cases h
    exact hchannels
  · rename_i hne _
    cases h
    exact fieldText_ok hfile (by simpa using hne)
  · rename_i _ hne
    cases h
    exact fieldText_ok hdata (by simpa using hne)
  · cases h

/-! ## A colour -/

theorem straysOnly_readChannel {strays : BackgroundFault → Prop} (channel : Channel) :
    StraysOnly strays (readChannel channels channel) := by
  refine (straysOnly_fieldText _).bind fun text _ => ?_
  split
  · exact FailsOnly.ok _
  · rename_i fault hread
    unfold Literal.readByte at hread
    split at hread
    · split at hread <;> cases hread
      exact straysOnly_throw (by simp [Fault.IsStray, Fault.kind, BackgroundFault.kind, FieldFault.kind,
        BackgroundFault.adopt, FaultKind.isTemplate])
    · cases hread
      exact straysOnly_throw (by simp [Fault.IsStray, Fault.kind, BackgroundFault.kind, FieldFault.kind,
        BackgroundFault.adopt, FaultKind.isTemplate])

theorem readChannel_ok {channel : Channel} {i : Int} (h : readChannel channels channel = .ok i) :
    0 ≤ i ∧ i ≤ 255 := by
  obtain ⟨text, -, h⟩ := Except.bind_ok_iff.1 h
  split at h
  · rename_i n hread
    cases h
    unfold Literal.readByte at hread
    split at hread
    · split at hread <;> cases hread
      omega
    · cases hread
  · cases h

theorem straysOnly_readColour {strays : BackgroundFault → Prop} : StraysOnly strays (readColour channels) :=
  (straysOnly_readChannel _).bind fun _ _ => (straysOnly_readChannel _).bind fun _ _ =>
    (straysOnly_readChannel _).bind fun _ _ => (straysOnly_readChannel _).bind fun _ _ => FailsOnly.ok _

theorem readColour_ok {colour : Colour} (h : readColour channels = .ok colour) : colour.InRange := by
  obtain ⟨red, hred, h⟩ := Except.bind_ok_iff.1 h
  obtain ⟨green, hgreen, h⟩ := Except.bind_ok_iff.1 h
  obtain ⟨blue, hblue, h⟩ := Except.bind_ok_iff.1 h
  obtain ⟨alpha, halpha, h⟩ := Except.bind_ok_iff.1 h
  cases h
  rintro (_ | _ | _ | _)
  · exact readChannel_ok hred
  · exact readChannel_ok hgreen
  · exact readChannel_ok hblue
  · exact readChannel_ok halpha

theorem straysOnly_readSize [Platform] (hchannels : colourChannels? fields = some channels) {key : String}
    (hkey : key = "width" ∨ key = "height") : StraysOnly (Strays files settings none fields) (readSize fields key) := by
  refine (straysOnly_fieldText _).bind fun text htext => ?_
  split
  · exact FailsOnly.ok _
  · rename_i fault hread
    intro e h hstray
    cases h
    by_cases hfield : (Fault.field fault).IsStray
    · obtain ⟨count, rfl, hlong⟩ := Literal.readInteger_error hread hfield
      have hne : text ≠ "" := by
        rintro rfl
        obtain ⟨_, _, hdigits, -⟩ := hlong
        cases hdigits
      exact .side rfl hchannels hkey (fieldText_ok htext hne) hlong
    · cases fault with
      | tooManyDigits => exact absurd rfl hfield
      | _ => cases hstray

theorem straysOnly_withColour [Platform] (hchannels : colourChannels? fields = some channels) (resolution : Binary64) :
    StraysOnly (Strays files settings canvas fields) (withColour fields channels resolution canvas) := by
  refine straysOnly_readColour.bind fun colour hcolour => ?_
  have hfill : ∀ page : Canvas, StraysOnly (Strays files settings canvas fields)
      (ofCanvas (page.rectangle {} page.width page.height colour)) :=
    fun page => straysOnly_ofCanvas fun e h => Canvas.rectangle_error (readColour_ok hcolour) h
  cases canvas with
  | some page => exact hfill _
  | none =>
    refine (straysOnly_readSize hchannels (.inl rfl)).bind fun width _ => ?_
    refine (straysOnly_readSize hchannels (.inr rfl)).bind fun height _ => ?_
    exact (straysOnly_ofCanvas fun e h => Canvas.blank_error h).bind fun page _ => hfill page

/-! ## A picture -/

/-- A length can be scaled unless the result leaves binary64. -/
theorem scaled_error {length num den : Int} (hden : 0 < den) {e : ArithmeticError}
    (h : scaled length num den = .error e) :
    e = .quotientTooLarge ∧ Binary64.overflowBound * den.natAbs ≤ (length * num).natAbs := by
  rcases Except.bind_error_iff.1 h with h | ⟨x, hx, h⟩
  · obtain ⟨hzero, -⟩ | ⟨-, he, hlarge⟩ := Binary64.ofQuotient_error_iff.1 h
    · omega
    · exact ⟨he, hlarge⟩
  · rcases Except.bind_error_iff.1 h with h | ⟨_, -, h⟩
    · have hfinite := Binary64.isFinite_of_ofQuotient hx
      rw [Binary64.toIntBy_error_iff.1 ⟨e, h⟩] at hfinite
      cases hfinite
    · cases h

/-- A picture can be scaled to a page unless a side of the page is beyond binary64. -/
theorem fitSize_error {page : Canvas} {picture : Picture} {e : ArithmeticError}
    (h : fitSize (picture.width, picture.height) (page.width, page.height) = .error e) :
    e = .quotientTooLarge ∧
      (Binary64.overflowBound < page.width.natAbs ∨ Binary64.overflowBound < page.height.natAbs) := by
  obtain ⟨hwidth, hheight⟩ := page.positive
  obtain ⟨width, hw⟩ := Int.eq_ofNat_of_zero_le hwidth.le
  obtain ⟨height, hh⟩ := Int.eq_ofNat_of_zero_le hheight.le
  simp only [fitSize, hw, hh, Int.natAbs_natCast, ← Int.natCast_mul, Int.natCast_inj, Int.ofNat_lt] at h ⊢
  split at h
  · cases h
  · rename_i hne
    split at h
    · rename_i hlt
      have hpos : 0 < picture.width := Nat.pos_of_ne_zero fun hzero => by simp [hzero] at hlt
      obtain ⟨he, hlarge⟩ := scaled_error (by omega) (Except.map_error_iff.1 h)
      simp only [← Int.natCast_mul, Int.natAbs_natCast] at hlarge
      refine ⟨he, .inr (Nat.lt_of_mul_lt_mul_left (a := picture.width) ?_)⟩
      calc picture.width * Binary64.overflowBound = Binary64.overflowBound * picture.width := Nat.mul_comm _ _
        _ ≤ picture.height * width := hlarge
        _ = width * picture.height := Nat.mul_comm _ _
        _ < picture.width * height := hlt
    · rename_i hle
      have hlt : picture.width * height < width * picture.height := by omega
      have hpos : 0 < picture.height := Nat.pos_of_ne_zero fun hzero => by simp [hzero] at hlt
      obtain ⟨he, hlarge⟩ := scaled_error (by omega) (Except.map_error_iff.1 h)
      simp only [← Int.natCast_mul, Int.natAbs_natCast] at hlarge
      refine ⟨he, .inl (Nat.lt_of_mul_lt_mul_left (a := picture.height) ?_)⟩
      calc picture.height * Binary64.overflowBound = Binary64.overflowBound * picture.height := Nat.mul_comm _ _
        _ ≤ picture.width * height := hlarge
        _ < width * picture.height := hlt
        _ = picture.height * width := Nat.mul_comm _ _

theorem straysOnly_withPicture [Platform] {picture : Picture} (hshows : Shows files settings fields picture)
    (resolution : Binary64) :
    StraysOnly (Strays files settings canvas fields) (withPicture picture resolution canvas) := by
  have hdraw : ∀ (page : Canvas) (width height : Int), StraysOnly (Strays files settings canvas fields)
      (ofCanvas (page.image {} (some picture) width height)) :=
    fun page width height => straysOnly_ofCanvas fun e h => Canvas.image_error h
  cases canvas with
  | some page =>
    refine FailsOnly.bind ?_ fun size _ => (hdraw _ _ _).bind fun _ _ => FailsOnly.ok _
    intro fault h hstray
    generalize hfit : fitSize _ _ = fit at h
    cases fit with
    | ok size => cases h
    | error e =>
      cases h
      obtain ⟨rfl, hlarge⟩ := fitSize_error hfit
      exact .scale rfl hshows hfit hlarge
  | none =>
    refine (straysOnly_ofCanvas fun e h => Canvas.blank_error h).bind fun page _ => ?_
    exact (hdraw _ _ _).bind fun _ _ => FailsOnly.ok _

theorem straysOnly_ofPicture {strays : BackgroundFault → Prop} {x : Except ComponentFault Picture}
    (h : ∀ fault, x = .error fault → (Fault.component fault).IsStray → strays (.component fault)) :
    StraysOnly strays (ofPicture x) := by
  intro e he hstray
  cases x with
  | ok picture => cases he
  | error fault =>
    cases he
    refine h fault rfl ?_
    by_contra hanswered
    have hkind : fault.kind.isTemplate = true := by simpa [Fault.IsStray, Fault.kind] using hanswered
    simp only [Fault.IsStray, Fault.kind, BackgroundFault.kind, BackgroundFault.adopt] at hstray
    split at hstray
    · cases hstray
    · rw [hkind] at hstray
      cases hstray

theorem ofPicture_ok_iff {x : Except ComponentFault Picture} {picture : Picture} :
    ofPicture x = .ok picture ↔ x = .ok picture := by
  cases x <;> simp [ofPicture]

/-! ## The base image -/

theorem straysOnly_resolution [Platform] (default : Binary64) :
    StraysOnly (Strays files settings canvas fields)
      (ofNumber (resolution ((fields.get? "ppi").getD (.string "")) default)) := by
  intro fault h hstray
  generalize hvalue : (fields.get? "ppi").getD (.string "") = value at h
  generalize hread : resolution value default = read at h
  cases read with
  | ok x => cases h
  | error e =>
    cases h
    have hnumber := Except.map_error_iff.1 hread
    unfold numberOf? at hnumber
    split at hnumber
    · cases hnumber
    · cases hnumber
    · rename_i i
      obtain ⟨rfl, hlarge⟩ := Binary64.ofInt_error_iff.1 (Except.map_error_iff.1 hnumber)
      cases hppi : fields.get? "ppi" with
      | none => simp [hppi] at hvalue
      | some given =>
        rw [hppi, Option.getD_some] at hvalue
        exact .resolution (hvalue ▸ hppi) hlarge
    · cases hnumber
    · cases hnumber

theorem straysOnly_withoutSource {strays : BackgroundFault → Prop} (resolution : Binary64) :
    StraysOnly strays (withoutSource settings resolution canvas) := by
  unfold withoutSource
  split
  · exact FailsOnly.ok _
  · split
    · exact (straysOnly_ofCanvas fun e h => Canvas.blank_error h).map _
    · exact FailsOnly.ok _

/-- A base image strays only in the ways of its fields. -/
theorem apply_stray [Platform] {baseImage : Json} {fault : BackgroundFault}
    (h : apply files settings canvas baseImage = .error fault) (hstray : (Fault.background fault).IsStray) :
    ∃ fields, baseImage = .object fields ∧ Strays files settings canvas fields fault := by
  rcases Except.bind_error_iff.1 h with h | ⟨fields, hfields, h⟩
  · unfold givenFields at h
    split at h
    · cases h
    · split at h <;> cases h
      cases hstray
  have hstrays : Strays files settings canvas fields fault := by
    refine (straysOnly_readSource.bind fun source hsource => ?_) fault h hstray
    refine (straysOnly_resolution _).bind fun resolution _ => ?_
    have hsource := readSource_ok hsource
    cases source with
    | none => exact straysOnly_withoutSource resolution
    | colour channels => exact (straysOnly_withColour hsource resolution).bind fun _ _ => FailsOnly.ok _
    | file name =>
      refine (straysOnly_ofPicture fun fault hpicture hstray => ?_).bind fun picture hpicture => ?_
      · obtain ⟨rfl, hnul⟩ := pictureOfFile_isStray hpicture hstray
        exact .path hsource hnul
      · refine straysOnly_withPicture (.file hsource ?_) resolution
        exact ofPicture_ok_iff.1 hpicture
    | data text =>
      refine (straysOnly_ofPicture fun fault hpicture hstray => ?_).bind fun picture hpicture => ?_
      · obtain ⟨rfl, hforeign⟩ := pictureOfBase64_isStray hpicture hstray
        exact .base64 hsource hforeign
      · refine straysOnly_withPicture (.data hsource ?_) resolution
        exact ofPicture_ok_iff.1 hpicture
  unfold givenFields at hfields
  split at hfields
  · -- Blank fields ask for nothing.
    cases hfields
    cases hstrays with
    | resolution hvalue | path hvalue | base64 hvalue => cases hvalue
    | side _ hchannels => cases hchannels
    | scale _ hshows => cases hshows with
      | file hname | data hname => cases hname
  · split at hfields <;> cases hfields
    exact ⟨fields, rfl, hstrays⟩

end PageTemplate.Background
