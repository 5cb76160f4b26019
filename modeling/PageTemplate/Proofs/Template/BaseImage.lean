/-
What is drawn of a base image. If one of its sources is given and it can be
applied, that source is the only one given, and it adds one operation to the
page.

There is one exception, against what the sources are for. A base colour is only
seen if it is an object whose red channel is given. Any other base colour is
passed over as if it were not there (`apply_erase`), so nothing is drawn, or a
source of another kind (`drawnOnce_iff`).
-/
import PageTemplate.Platform.Plain
import PageTemplate.Proofs.Template.StrayBackground

namespace PageTemplate

/-! ## What the canvas draws -/

namespace Canvas

variable {page after : Canvas} {topLeft : Point} {width height : Int}

theorem rectangle_ok {colour : Colour} (h : page.rectangle topLeft width height colour = .ok after) :
    ∃ fill, colour.fill = .ok fill ∧ after = page.draw (.rectangle (page.box topLeft width height) fill) := by
  obtain ⟨_, -, h⟩ := Except.bind_ok_iff.1 h
  obtain ⟨fill, hfill, h⟩ := Except.bind_ok_iff.1 h
  cases h
  exact ⟨fill, hfill, rfl⟩

theorem image_ok {picture : Option Picture} (h : page.image topLeft picture width height = .ok after) :
    after = page.draw (.image (page.box topLeft width height) picture) := by
  obtain ⟨_, -, h⟩ := Except.bind_ok_iff.1 h
  cases h
  rfl

theorem blank_ok {resolution : Binary64} (h : blank width height resolution = .ok after) :
    after.operations = [] := by
  unfold blank at h
  split at h
  · cases h
    rfl
  · split at h <;> cases h

end Canvas

namespace Background

variable {files : FileTree} {settings : Settings} {canvas after : Option Canvas}
  {fields channels : Dictionary Json} {source : Source} {key : String}

/-! ## What is given -/

/-- The fields that a base image is taken from. -/
def sourceKeys : List String := ["fileName", "data", "baseColour"]

/-- Whether a field is there and not blank. -/
def Given (fields : Dictionary Json) (key : String) : Prop :=
  ∃ value, fields.get? key = some value ∧ value.isBlank = false

/-- Whether a base colour is given, but not as an object with its red channel. -/
def Overlooked (fields : Dictionary Json) : Prop :=
  Given fields "baseColour" ∧
    ¬ ∃ channels, fields.get? "baseColour" = some (.object channels) ∧ Given channels "R"

theorem given_iff_of_fieldText {text : String} (h : fieldText fields key = .ok text) :
    Given fields key ↔ text ≠ "" := by
  unfold fieldText at h
  unfold Given
  split at h
  · rename_i hnone
    cases h
    simp [hnone]
  · rename_i s hs
    cases h
    simp [hs, Json.isBlank]
  · cases h

theorem colourChannels?_eq_some_iff :
    colourChannels? fields = some channels ↔
      fields.get? "baseColour" = some (.object channels) ∧ Given channels "R" := by
  constructor
  · intro h
    unfold colourChannels? at h
    split at h
    · rename_i given hgiven
      split at h
      · rename_i red hred
        split at h <;> cases h
        rename_i hblank
        exact ⟨hgiven, red, hred, by simpa using hblank⟩
      · cases h
    · cases h
  · rintro ⟨hobject, red, hred, hblank⟩
    simp [colourChannels?, hobject, hred, hblank]

theorem given_of_colourChannels? (h : colourChannels? fields = some channels) : Given fields "baseColour" := by
  obtain ⟨hobject, red, hred, -⟩ := colourChannels?_eq_some_iff.1 h
  refine ⟨_, hobject, ?_⟩
  cases channels with
  | nil => cases hred
  | cons entry channels => rfl

theorem overlooked_iff : Overlooked fields ↔ Given fields "baseColour" ∧ colourChannels? fields = none := by
  rw [Overlooked, Option.eq_none_iff_forall_ne_some]
  simp only [ne_eq, colourChannels?_eq_some_iff, not_exists]

theorem given_and_seen_iff :
    Given fields "baseColour" ∧ ¬ Overlooked fields ↔
      ∃ channels, colourChannels? fields = some channels := by
  rw [overlooked_iff, not_and, ← ne_eq, Option.ne_none_iff_exists']
  constructor
  · rintro ⟨hgiven, hseen⟩
    exact hseen hgiven
  · rintro ⟨channels, hchannels⟩
    exact ⟨given_of_colourChannels? hchannels, fun _ => ⟨channels, hchannels⟩⟩

/-- The field that a source is taken from. -/
def Source.key? : Source → Option String
  | .none => .none
  | .colour _ => some "baseColour"
  | .file _ => some "fileName"
  | .data _ => some "data"

theorem Source.exists_key? (h : source ≠ .none) : ∃ key ∈ sourceKeys, source.key? = some key := by
  cases source with
  | none => exact absurd rfl h
  | colour | file | data => exact ⟨_, by simp [sourceKeys], rfl⟩

/-- A source is taken from the field that is given, if that is no overlooked base colour. -/
theorem key?_eq_some_iff (h : readSource fields = .ok source) (hkey : key ∈ sourceKeys) :
    source.key? = some key ↔ Given fields key ∧ (key = "baseColour" → ¬ Overlooked fields) := by
  obtain ⟨file, hfile, h⟩ := Except.bind_ok_iff.1 h
  obtain ⟨data, hdata, h⟩ := Except.bind_ok_iff.1 h
  simp only [sourceKeys, List.mem_cons, List.not_mem_nil, or_false] at hkey
  rcases hkey with rfl | rfl | rfl
  · rw [given_iff_of_fieldText hfile]
    split at h <;> cases h <;> simp_all [Source.key?]
  · rw [given_iff_of_fieldText hdata]
    split at h <;> cases h <;> simp_all [Source.key?]
  · rw [imp_iff_right rfl, given_and_seen_iff]
    split at h <;> cases h <;> simp_all [Source.key?]

/-- A source that is taken is the only one given, unless a base colour is overlooked besides. -/
theorem existsUnique_given_iff (h : readSource fields = .ok source) (hne : source ≠ .none) :
    (∃! key, key ∈ sourceKeys ∧ Given fields key) ↔ ¬ Overlooked fields := by
  obtain ⟨key, hkey, htaken⟩ := Source.exists_key? hne
  obtain ⟨hgiven, hcolour⟩ := (key?_eq_some_iff h hkey).1 htaken
  constructor
  · rintro ⟨only, -, honly⟩ hoverlooked
    have hfirst := honly key ⟨hkey, hgiven⟩
    have hsecond := honly "baseColour" ⟨by simp [sourceKeys], hoverlooked.1⟩
    exact hcolour (hfirst.trans hsecond.symm) hoverlooked
  · intro hseen
    refine ⟨key, ⟨hkey, hgiven⟩, fun other hother => ?_⟩
    have hsame := (key?_eq_some_iff h hother.1).2 ⟨hother.2, fun _ => hseen⟩
    exact Option.some.inj (hsame.symm.trans htaken)

/-- If a source is given and none is taken, it is an overlooked base colour. -/
theorem overlooked_of_none (h : readSource fields = .ok .none)
    (hgiven : ∃ key ∈ sourceKeys, Given fields key) : Overlooked fields := by
  obtain ⟨key, hkey, hgiven⟩ := hgiven
  by_contra hseen
  cases (key?_eq_some_iff h hkey).2 ⟨hgiven, fun _ => hseen⟩

/-! ## What is drawn -/

/-- What a base image draws on a page: its colour, all over the page, or its picture. -/
inductive Draws [Platform] (files : FileTree) (settings : Settings) (fields : Dictionary Json) (page : Canvas) :
    Operation → Prop
  | colour {channels : Dictionary Json} {colour : Colour} {fill : Fill} :
      fields.get? "baseColour" = some (.object channels) → readColour channels = .ok colour →
        colour.fill = .ok fill →
          Draws files settings fields page (.rectangle (page.box {} page.width page.height) fill)
  | picture {picture : Picture} {box : Box} : Shows files settings fields picture →
      Draws files settings fields page (.image box (some picture))

/-- Whether a page is the one there was with one more operation, or a new one with this operation alone. -/
def Extends (canvas : Option Canvas) (page : Canvas) (operation : Operation) : Prop :=
  match canvas with
  | some before => page.operations = before.operations ++ [operation] ∧ page.width = before.width ∧
      page.height = before.height
  | none => page.operations = [operation]

theorem ofCanvas_ok_iff {α : Type} {x : Except CanvasFault α} {a : α} : ofCanvas x = .ok a ↔ x = .ok a := by
  cases x <;> simp [ofCanvas]

theorem extends_old (page : Canvas) (resolution : Binary64) (operation : Operation) :
    Extends (some page) ((page.withResolution resolution).draw operation) operation := ⟨rfl, rfl, rfl⟩

theorem extends_new {width height : Int} {resolution : Binary64} {page : Canvas}
    (h : Canvas.blank width height resolution = .ok page) (operation : Operation) :
    Extends none (page.draw operation) operation := by
  rw [Extends, Canvas.draw, Canvas.blank_ok h]
  rfl

theorem withColour_ok {resolution : Binary64} {page : Canvas}
    (h : withColour fields channels resolution canvas = .ok page) :
    ∃ colour fill, readColour channels = .ok colour ∧ colour.fill = .ok fill ∧
      Extends canvas page (.rectangle (page.box {} page.width page.height) fill) := by
  obtain ⟨colour, hcolour, h⟩ := Except.bind_ok_iff.1 h
  cases canvas with
  | some before =>
    obtain ⟨fill, hfill, rfl⟩ := Canvas.rectangle_ok (ofCanvas_ok_iff.1 h)
    exact ⟨colour, fill, hcolour, hfill, extends_old before resolution _⟩
  | none =>
    obtain ⟨width, -, h⟩ := Except.bind_ok_iff.1 h
    obtain ⟨height, -, h⟩ := Except.bind_ok_iff.1 h
    obtain ⟨blank, hblank, h⟩ := Except.bind_ok_iff.1 h
    obtain ⟨fill, hfill, rfl⟩ := Canvas.rectangle_ok (ofCanvas_ok_iff.1 h)
    exact ⟨colour, fill, hcolour, hfill, extends_new (ofCanvas_ok_iff.1 hblank) _⟩

theorem withPicture_ok {picture : Picture} {resolution : Binary64} {journal : List JournalEntry}
    (h : withPicture picture resolution canvas = .ok (after, journal)) :
    ∃ page box, after = some page ∧ Extends canvas page (.image box (some picture)) := by
  cases canvas with
  | some before =>
    obtain ⟨size, -, h⟩ := Except.bind_ok_iff.1 h
    obtain ⟨_, hplaced, h⟩ := Except.bind_ok_iff.1 h
    cases hplaced
    obtain ⟨page, hpage, h⟩ := Except.bind_ok_iff.1 h
    cases h
    rw [Canvas.image_ok (ofCanvas_ok_iff.1 hpage)]
    exact ⟨_, _, rfl, extends_old before resolution _⟩
  | none =>
    obtain ⟨blank, hblank, h⟩ := Except.bind_ok_iff.1 h
    obtain ⟨_, hplaced, h⟩ := Except.bind_ok_iff.1 h
    cases hplaced
    obtain ⟨page, hpage, h⟩ := Except.bind_ok_iff.1 h
    cases h
    rw [Canvas.image_ok (ofCanvas_ok_iff.1 hpage)]
    exact ⟨_, _, rfl, extends_new (ofCanvas_ok_iff.1 hblank) _⟩

/-- Without a source nothing is drawn. -/
theorem withoutSource_ok {resolution : Binary64} {journal : List JournalEntry}
    (h : withoutSource settings resolution canvas = .ok (after, journal)) {page : Canvas}
    (hafter : after = some page) (operation : Operation) : ¬ Extends canvas page operation := by
  subst hafter
  unfold withoutSource at h
  split at h
  · cases h
    simp [Extends]
  · split at h
    · obtain ⟨blank, hblank, h⟩ := Except.map_ok_iff.1 h
      cases h
      have hempty := Canvas.blank_ok (ofCanvas_ok_iff.1 hblank)
      simp [Extends, hempty]
    · cases h

theorem givenFields_object (fields : Dictionary Json) : givenFields (.object fields) = .ok fields := by
  cases fields <;> rfl

/-- Applying the fields of a base image: with a source they draw what they give, without one nothing. -/
theorem apply_ok [Platform] {journal : List JournalEntry}
    (h : apply files settings canvas (.object fields) = .ok (after, journal)) :
    ∃ source, readSource fields = .ok source ∧
      ((source = .none ∧ ∀ page, after = some page → ∀ operation, ¬ Extends canvas page operation) ∨
        source ≠ .none ∧ ∃ page operation, after = some page ∧ Extends canvas page operation ∧
          Draws files settings fields page operation) := by
  obtain ⟨given, hgiven, h⟩ := Except.bind_ok_iff.1 h
  rw [givenFields_object] at hgiven
  cases hgiven
  obtain ⟨source, hsource, h⟩ := Except.bind_ok_iff.1 h
  obtain ⟨resolution, -, h⟩ := Except.bind_ok_iff.1 h
  refine ⟨source, hsource, ?_⟩
  have hfields := readSource_ok hsource
  cases source with
  | none => exact .inl ⟨rfl, fun page => withoutSource_ok h⟩
  | colour channels =>
    obtain ⟨page, hpage, h⟩ := Except.bind_ok_iff.1 h
    cases h
    obtain ⟨colour, fill, hcolour, hfill, hextends⟩ := withColour_ok hpage
    have hobject := (colourChannels?_eq_some_iff.1 hfields).1
    exact .inr ⟨by simp, page, _, rfl, hextends, .colour hobject hcolour hfill⟩
  | file name =>
    obtain ⟨picture, hpicture, h⟩ := Except.bind_ok_iff.1 h
    obtain ⟨page, box, hafter, hextends⟩ := withPicture_ok h
    have hshows : Shows files settings fields picture := .file hfields (ofPicture_ok_iff.1 hpicture)
    exact .inr ⟨by simp, page, _, hafter, hextends, .picture hshows⟩
  | data text =>
    obtain ⟨picture, hpicture, h⟩ := Except.bind_ok_iff.1 h
    obtain ⟨page, box, hafter, hextends⟩ := withPicture_ok h
    have hshows : Shows files settings fields picture := .data hfields (ofPicture_ok_iff.1 hpicture)
    exact .inr ⟨by simp, page, _, hafter, hextends, .picture hshows⟩

/-! ## The base colour that is overlooked -/

theorem colourChannels?_erase : colourChannels? (fields.erase "baseColour") = none := by
  unfold colourChannels?
  rw [Dictionary.get?_erase_self]

theorem readSource_erase (h : colourChannels? fields = none) :
    readSource (fields.erase "baseColour") = readSource fields := by
  unfold readSource fieldText
  rw [colourChannels?_erase, h, Dictionary.get?_erase_other _ (by decide),
    Dictionary.get?_erase_other _ (by decide)]

/-- An overlooked base colour is as good as none. -/
theorem apply_erase [Platform] (h : Overlooked fields) :
    apply files settings canvas (.object (fields.erase "baseColour")) =
      apply files settings canvas (.object fields) := by
  have hnone := (overlooked_iff.1 h).2
  unfold apply
  rw [givenFields_object, givenFields_object, Except.ok_bind, Except.ok_bind, readSource_erase hnone,
    Dictionary.get?_erase_other _ (by decide)]
  cases hsource : readSource fields with
  | error fault => rfl
  | ok source =>
    cases source with
    | colour channels =>
      have hchannels := readSource_ok hsource
      rw [hnone] at hchannels
      cases hchannels
    | none | file | data => rfl

/-! ## The base image -/

/-- Whether a base image has one source and has drawn it, on the page there was or on a new one. -/
def DrawnOnce [Platform] (files : FileTree) (settings : Settings) (canvas : Option Canvas) (fields : Dictionary Json)
    (after : Option Canvas) : Prop :=
  (∃! key, key ∈ sourceKeys ∧ Given fields key) ∧
    ∃ page operation, after = some page ∧ Extends canvas page operation ∧
      Draws files settings fields page operation

/-- A base image of which some source is given, if it can be applied, has just one source and draws it with
one operation, unless a base colour is given that is no object with a red channel. Such a colour is
overlooked: what happens is what happens without it. -/
theorem drawnOnce_iff [Platform] {journal : List JournalEntry} (hgiven : ∃ key ∈ sourceKeys, Given fields key)
    (h : apply files settings canvas (.object fields) = .ok (after, journal)) :
    (DrawnOnce files settings canvas fields after ↔ ¬ Overlooked fields) ∧
      (Overlooked fields →
        apply files settings canvas (.object (fields.erase "baseColour")) = .ok (after, journal)) := by
  obtain ⟨source, hsource, ⟨rfl, hnothing⟩ | ⟨hne, hdrawn⟩⟩ := apply_ok h
  · -- Something was given and nothing taken, so what was given is a colour that is not seen.
    have hoverlooked := overlooked_of_none hsource hgiven
    refine ⟨iff_of_false ?_ (not_not_intro hoverlooked), fun _ => by rw [apply_erase hoverlooked, h]⟩
    rintro ⟨-, page, operation, hafter, hextends, -⟩
    exact hnothing page hafter operation hextends
  · rw [DrawnOnce, and_iff_left hdrawn, existsUnique_given_iff hsource hne]
    exact ⟨.rfl, fun hoverlooked => by rw [apply_erase hoverlooked, h]⟩

/-- A page of five by four points. -/
def stamp : Canvas :=
  { width := 5, height := 4, resolution := Binary64.ofRatio false 72 1, positive := by decide }

/-- A base image of one colour. -/
def greyFields : Dictionary Json :=
  [("baseColour", .object
    [("R", .string "128"), ("G", .string "128"), ("B", .string "128"), ("A", .string "255")])]

open scoped Plain in
theorem drawnOnce_iff_grey :
    (∃ key ∈ sourceKeys, Given greyFields key) ∧ ¬ Overlooked greyFields ∧
      ∃ after journal, apply {} {} (some stamp) (.object greyFields) = .ok (after, journal) ∧
        DrawnOnce {} {} (some stamp) greyFields after := by
  have hred : colourChannels? greyFields = some _ := rfl
  have hgiven : ∃ key ∈ sourceKeys, Given greyFields key :=
    ⟨"baseColour", by simp [sourceKeys], given_of_colourChannels? hred⟩
  have hseen : ¬ Overlooked greyFields := by
    rw [overlooked_iff, hred]
    simp
  have hruns : (apply {} {} (some stamp) (.object greyFields)).isOk = true := by decide +kernel
  cases happly : apply {} {} (some stamp) (.object greyFields) with
  | error fault =>
    rw [happly] at hruns
    cases hruns
  | ok result => exact ⟨hgiven, hseen, _, _, rfl, (drawnOnce_iff hgiven happly).1.2 hseen⟩

open scoped Plain in
/-- A base colour that is a word is given, and yet the page stays as it is. -/
theorem word_for_colour_dropped :
    Given [("baseColour", .string "red")] "baseColour" ∧
      apply {} {} (some stamp) (.object [("baseColour", .string "red")]) = .ok (some stamp, []) :=
  ⟨⟨_, rfl, rfl⟩, rfl⟩

end Background

end PageTemplate
