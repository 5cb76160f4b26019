/-
The stray faults of assignments. A property that is given a value can fail with
a fault for which no part of a template answers in few ways (`Property.Strays`):
base64 text that is not ASCII, a path with a zero character in it, a font folder
that cannot be looked into or whose file of the font cannot be read, an integer
beyond binary64 for a size, a layout that asks for one field twice, and a value
that is refused but cannot be shown. No other assignment strays
(`Shape.straysOnly_assign`).
-/
import PageTemplate.Proofs.Base64
import PageTemplate.Proofs.Binary64.Range
import PageTemplate.Proofs.Component.Assignment
import PageTemplate.Proofs.Font.Asking
import PageTemplate.Proofs.Session.Stray

namespace PageTemplate

/-! ## Files -/

namespace FileTree

variable {t : FileTree} {p : Path}

theorem walk_ne_nulInPath : ∀ (place : Place) (parts : List String), t.walk place parts ≠ .error .nulInPath
  | _, [] => by intro h; cases h
  | place, part :: rest => by
    intro h
    unfold walk at h
    split at h
    · exact walk_ne_nulInPath _ rest h
    · rename_i hstep
      cases h
      unfold step at hstep
      split at hstep
      · cases hstep
      split at hstep
      · cases hstep
      split at hstep
      · cases hstep
      split at hstep
      · cases hstep
      · split at hstep <;> cases hstep

theorem find_nulInPath_iff : t.find p = .error .nulInPath ↔ '\x00' ∈ p.text.toList := by
  unfold find
  split
  · rename_i h
    simpa using h
  · rename_i h
    have hnot : '\x00' ∉ p.text.toList := by simpa using h
    simp only [hnot, iff_false]
    split
    · intro h; cases h
    · exact walk_ne_nulInPath _ _

theorem read_nulInPath_iff : t.read p = .error .nulInPath ↔ '\x00' ∈ p.text.toList := by
  rw [← find_nulInPath_iff (t := t)]
  unfold read
  cases t.find p with
  | error fault => simp
  | ok place =>
    simp only [reduceCtorEq, iff_false]
    split
    · simp
    · split <;> simp

end FileTree

/-! ## Fonts -/

/-- The faults of fonts for which no part of a template answers: a path with a zero character, a folder that
cannot be looked into, and a file found in a folder that cannot be read. -/
inductive Font.Strays (files : FileTree) (settings : Settings) : Font.Request → String → Font.Fault → Prop
  | path {text : String} : '\x00' ∈ (settings.resolve text).text.toList →
    Strays files settings .file text (.unreadable text (settings.resolve text).text .nulInPath)
  | folder {text folder : String} {fault : FileFault} : folder ∈ settings.fontFolders →
    files.look (fileIn settings text folder) = .error fault →
      Strays files settings .name text (.unsearched (fileIn settings text folder).text fault)
  | found {text folder : String} {bytes : List UInt8} {locks : Locks} {fault : FileFault} :
    folder ∈ settings.fontFolders → files.look (fileIn settings text folder) = .ok (some (.file bytes locks)) →
      files.read (fileIn settings text folder) = .error fault →
        Strays files settings .name text (.unsearched (fileIn settings text folder).text fault)

theorem FileFault.kind_isTemplate (fault : FileFault) : fault.kind.isTemplate = false := by
  cases fault with
  | refused refusal => cases refusal <;> rfl
  | _ => rfl

theorem Font.Strays.isStray {files : FileTree} {settings : Settings} {request : Font.Request} {text : String}
    {fault : Font.Fault} (h : Font.Strays files settings request text fault) :
    (Fault.component (.font fault)).IsStray := by
  cases h with
  | path => rfl
  | folder | found => exact FileFault.kind_isTemplate _

variable [Platform]

namespace Font

variable {files : FileTree} {settings : Settings} {shelf : Shelf} {text : String} {fault : Font.Fault}

theorem register_not_isStray {source : String} {bytes : List UInt8}
    (h : register shelf text source bytes = .error fault) :
    ¬ (PageTemplate.Fault.component (.font fault)).IsStray := by
  unfold register at h
  split at h <;> cases h
  intro hstray
  cases hstray

theorem searchFolders_error {folders : List String} (hfolders : ∀ folder ∈ folders, folder ∈ settings.fontFolders)
    (h : searchFolders files settings shelf text folders = .error fault)
    (hstray : (PageTemplate.Fault.component (.font fault)).IsStray) :
    Strays files settings .name text fault := by
  induction folders with
  | nil => cases h; cases hstray
  | cons folder folders ih =>
    obtain ⟨hfolder, hrest⟩ := List.forall_mem_cons.1 hfolders
    unfold searchFolders at h
    simp only at h
    split at h
    · rename_i unlooked hlook
      cases h
      exact .folder hfolder hlook
    · rename_i bytes locks hlook
      split at h
      · rename_i unread hread
        cases h
        exact .found hfolder hlook hread
      · exact absurd hstray (register_not_isStray h)
    · exact ih hrest h

theorem ask_error {request : Request} (h : ask files settings shelf request text = .error fault)
    (hstray : (PageTemplate.Fault.component (.font fault)).IsStray) :
    Strays files settings request text fault := by
  cases request with
  | name =>
    simp only [ask, byName] at h
    split at h
    · cases h
    · exact searchFolders_error (fun _ hfolder => hfolder) h hstray
  | file =>
    simp only [ask, ofFile] at h
    split at h
    · rename_i unread hread
      cases h
      cases unread with
      | nulInPath => exact .path (FileTree.read_nulInPath_iff.1 hread)
      | _ => cases hstray
    · exact absurd hstray (register_not_isStray h)
  | address => cases h; cases hstray

end Font

/-! ## Properties -/

/-- The stray faults of a property that is given a value. -/
inductive Property.Strays (files : FileTree) (settings : Settings) : Property → Value → Fault → Prop
  | base64 {text : String} : (∃ c ∈ text.toList, 128 ≤ c.toNat) →
    Strays files settings .data (.text text) (.component (.base64 .notAscii))
  | path {text : String} : '\x00' ∈ (settings.resolve text).text.toList →
    Strays files settings .fileName (.text text)
      (.component (.pictureUnreadable (settings.resolve text).text .nulInPath))
  | font {p : Property} {request : Font.Request} {text : String} {fault : Font.Fault} :
    p.fontRequest? = some request → Font.Strays files settings request text fault →
      Strays files settings p (.text text) (.component (.font fault))
  | integer {i : Int} : Binary64.overflowBound ≤ i.natAbs →
    Strays files settings .size (.json (.int i)) (.setter (.number .integerTooLarge))
  | layout {v : Value} {layout text : String} {field : Calendar.RepeatedField} :
    v.items? = some [.string layout, .string text] →
      Calendar.Moment.parse layout text = .error (.repeated field) →
        Strays files settings .time v (.setter (.repeatedField field))
  | unshown {p : Property} {v : Value} {failure : Json.ShowFault} : v.shown = .error failure →
    Strays files settings p v (.setter (.unshown failure))

/-- No part of a template answers for any of them. -/
theorem Property.Strays.isStray {files : FileTree} {settings : Settings} {p : Property} {v : Value}
    {fault : Fault} (h : p.Strays files settings v fault) : fault.IsStray := by
  cases h with
  | base64 | path | integer | layout => rfl
  | font _ hfont => exact hfont.isStray
  | @unshown _ _ failure => cases failure <;> rfl

section Fails

variable {α : Type} {files : FileTree} {settings : Settings} {properties : List Property} {p : Property}
  {v : Value} {x : Except SetterFault α} {e : SetterFault}

/-- A value that is refused strays only if it cannot be shown. -/
theorem SetterFault.Refuses.strays (h : e.Refuses v) (hstray : (Fault.setter e).IsStray) :
    p.Strays files settings v (.setter e) := by
  obtain ⟨hkind, -⟩ | ⟨failure, hshown, rfl⟩ := h
  · have hkind : (Fault.setter e).kind = .setter := hkind
    simp [Fault.IsStray, hkind, FaultKind.isTemplate] at hstray
  · exact .unshown hshown

theorem FailsOnly.straysOnly (h : FailsOnly (SetterFault.Refuses v) x) :
    Act.StraysOnly (p.Strays files settings v) (Act.ofExcept .setter x) :=
  Act.straysOnly_ofExcept fun e he hstray => (h e he).strays hstray

theorem FailsOnly.straysOnly_of_refusesFor (h : FailsOnly (SetterFault.RefusesFor properties p v) x) :
    Act.StraysOnly (p.Strays files settings v) (Act.ofExcept .setter x) := by
  refine Act.straysOnly_ofExcept fun e he hstray => ?_
  obtain hrefuses | ⟨-, rfl⟩ := h e he
  · exact hrefuses.strays hstray
  · cases hstray

end Fails

section Assign

variable (files : FileTree) (settings : Settings) (v : Value)

theorem straysOnly_font {p : Property} {request : Font.Request} (hrequest : p.fontRequest? = some request)
    (text : String) :
    Act.StraysOnly (p.Strays files settings (.text text)) (Act.font files settings request text) := by
  intro s fault t h hstray
  rw [Act.outcome_font] at h
  split at h
  · rename_i unfound hask
    cases h
    exact .font hrequest (Font.ask_error hask hstray)
  · cases h

/-- A size is the one plain property of a line that strays. -/
theorem TextLine.straysOnly_assignPlain (line : TextLine) {p : Property} (hfont : p.fontRequest? = none) :
    Act.StraysOnly (p.Strays files settings v) (Act.ofExcept .setter (line.assignPlain p v)) := by
  by_cases hsize : p = .size
  · subst hsize
    refine Act.straysOnly_ofExcept fun e he hstray => ?_
    obtain hrefuses | ⟨failure, hnumber, rfl⟩ := v.asDecimal_fails.map _ e he
    · exact hrefuses.strays hstray
    · unfold Value.number? at hnumber
      split at hnumber
      · obtain ⟨rfl, hlarge⟩ := Binary64.ofInt_error_iff.1 (Option.some.inj hnumber)
        exact .integer hlarge
      · cases hnumber
      · cases hnumber
  · exact (line.assignPlain_fails hsize hfont).straysOnly_of_refusesFor

theorem TextLine.straysOnly_assign (line : TextLine) (p : Property) :
    Act.StraysOnly (p.Strays files settings v) (line.assign files settings p v) := by
  unfold assign
  split
  · rename_i request hrequest
    refine v.asText_fails.straysOnly.bind fun text s t htext => ?_
    obtain rfl := Value.eq_text_of_asText (Act.outcome_ofExcept_ok.1 htext).1
    exact (straysOnly_font files settings hrequest text).bind_pure _
  · rename_i hfont
    exact line.straysOnly_assignPlain files settings v hfont

theorem TextShape.straysOnly_assign (t : TextShape) (p : Property) :
    Act.StraysOnly (p.Strays files settings v) (t.assign files settings p v) := by
  unfold assign
  split
  · exact (v.asText_fails.map _).straysOnly
  · exact (t.line.straysOnly_assign files settings v p).bind_pure _

theorem MomentShape.straysOnly_assign (d : MomentShape) (p : Property) :
    Act.StraysOnly (p.Strays files settings v) (d.assign files settings p v) := by
  unfold assign
  split
  · refine Act.straysOnly_ofExcept fun e he hstray => ?_
    obtain hrefuses | ⟨layout, text, field, hitems, hparse, rfl⟩ := v.asMoment_fails.map _ e he
    · exact hrefuses.strays hstray
    · exact .layout hitems hparse
  · exact (v.asText_fails.map _).straysOnly
  · exact (d.line.straysOnly_assign files settings v p).bind_pure _

theorem pictureOf_not_isStray {source : String} {bytes : List UInt8} {fault : ComponentFault}
    (h : pictureOf source bytes = .error fault) : ¬ (Fault.component fault).IsStray := by
  unfold pictureOf at h
  split at h <;> cases h
  simp [Fault.IsStray, Fault.kind, ComponentFault.kind, FaultKind.isTemplate]

theorem pictureOfBase64_isStray {text : String} {fault : ComponentFault}
    (h : pictureOfBase64 text = .error fault) (hstray : (Fault.component fault).IsStray) :
    fault = .base64 .notAscii ∧ ∃ c ∈ text.toList, 128 ≤ c.toNat := by
  unfold pictureOfBase64 at h
  split at h
  · exact absurd hstray (pictureOf_not_isStray h)
  · rename_i unread hdecode
    cases h
    cases unread with
    | notAscii => exact ⟨rfl, Base64.decode_notAscii_iff.1 hdecode⟩
    | _ => cases hstray

theorem pictureOfFile_isStray {files : FileTree} {path : Path} {fault : ComponentFault}
    (h : pictureOfFile files path = .error fault) (hstray : (Fault.component fault).IsStray) :
    fault = .pictureUnreadable path.text .nulInPath ∧ '\x00' ∈ path.text.toList := by
  unfold pictureOfFile at h
  split at h
  · exact absurd hstray (pictureOf_not_isStray h)
  · rename_i unread hread
    cases h
    cases unread with
    | nulInPath => exact ⟨rfl, FileTree.read_nulInPath_iff.1 hread⟩
    | _ => cases hstray

theorem straysOnly_pictureOfValue :
    Act.StraysOnly (Property.data.Strays files settings v) (pictureOfValue v) := by
  unfold pictureOfValue
  split
  · exact Act.straysOnly_ofExcept fun e he hstray => absurd hstray (pictureOf_not_isStray he)
  · refine Act.straysOnly_ofExcept fun e he hstray => ?_
    obtain ⟨rfl, hforeign⟩ := pictureOfBase64_isStray he hstray
    exact .base64 hforeign
  · refine Act.StraysOnly.bind ?_ fun bytes _ _ _ =>
      Act.straysOnly_ofExcept fun e he hstray => absurd hstray (pictureOf_not_isStray he)
    intro s fault t h
    rw [Act.outcome_readOnce] at h
    split at h <;> cases h
  · exact (v.refuse_fails .picture).straysOnly

theorem ImageShape.straysOnly_assign (i : ImageShape) (p : Property) :
    Act.StraysOnly (p.Strays files settings v) (i.assign files settings p v) := by
  unfold assign
  split
  · exact (straysOnly_pictureOfValue files settings v).bind_pure _
  · refine v.asText_fails.straysOnly.bind fun text s t htext => ?_
    obtain rfl := Value.eq_text_of_asText (Act.outcome_ofExcept_ok.1 htext).1
    refine Act.StraysOnly.bind_pure (Act.straysOnly_ofExcept fun e he hstray => ?_) _
    obtain ⟨rfl, hnul⟩ := pictureOfFile_isStray he hstray
    exact .path hnul
  · rename_i hdata hfile
    exact (i.assignPlain_fails hdata hfile).straysOnly_of_refusesFor

/-- The stray faults of an assignment are those of its property. -/
theorem Shape.straysOnly_assign (shape : Shape) (p : Property) :
    Act.StraysOnly (p.Strays files settings v) (shape.assign files settings p v) := by
  cases shape with
  | rectangle r => exact ((r.assign_fails p v).map _).straysOnly_of_refusesFor
  | circle c => exact ((c.assign_fails p v).map _).straysOnly_of_refusesFor
  | barcode b => exact ((b.assign_fails p v).map _).straysOnly_of_refusesFor
  | text t => exact (t.straysOnly_assign files settings v p).bind_pure _
  | datetime d => exact (d.straysOnly_assign files settings v p).bind_pure _
  | image i => exact (i.straysOnly_assign files settings v p).bind_pure _

end Assign

end PageTemplate
