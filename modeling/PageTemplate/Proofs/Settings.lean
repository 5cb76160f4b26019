/-
Settings files and their schema. A file is read field by field, and each field
replaces the setting of its key (`override_ok_iff`), so a file with fields of
the schema gives the profile's settings with the values of the file in them,
and a file with any other field is refused (`overrideAll_ok_iff`).

There is one value outside the schema that is not refused, a resolution that is
no number: it is neither above zero nor at or below it, and only the latter is
asked. So loaded settings are valid unless the file has that field
(`load_meets_schema`). Their resolution is the number nearest to a whole one, so
a whole resolution beyond binary64 fails, and in another way than a value
outside the schema does.
-/
import Mathlib.Data.List.DropRight
import PageTemplate.Platform.Plain
import PageTemplate.Proofs.Binary64.Rounding
import PageTemplate.Proofs.Json.Keys
import PageTemplate.Proofs.Result
import PageTemplate.Settings

namespace PageTemplate

namespace Text

theorem trimBy_eq_nil_iff {p : Char → Bool} {cs : List Char} : trimBy p cs = [] ↔ ∀ c ∈ cs, p c = true := by
  rw [trimBy, List.reverse_eq_nil_iff, List.dropWhile_eq_nil_iff]
  simp only [List.mem_reverse]
  rw [← List.dropWhile_eq_nil_iff, List.dropWhile_idempotent, List.dropWhile_eq_nil_iff]

/-- A text is blank if stripping it leaves nothing. -/
theorem strip_eq_empty_iff {s : String} : strip s = "" ↔ ∀ c ∈ s.toList, isBlank c = true := by
  rw [← trimBy_eq_nil_iff, strip, ← String.toList_inj, String.toList_ofList]
  rfl

end Text

namespace Settings

/-! ## The schema -/

/-- Whether a text can be a path: it is not blank. -/
def isPathText (s : String) : Bool := s.toList.any fun c => !Text.isBlank c

/-- Whether a value is a positive number. -/
def isPositiveNumber : Json → Bool
  | .int i => 0 < i
  | .float x => x.isPositive
  | _ => false

/-- Whether a value is a whole number from zero on. -/
def isSize : Json → Bool
  | .int i => 0 ≤ i
  | _ => false

/-- Whether a value is a path. -/
def isPath : Json → Bool
  | .string s => isPathText s
  | _ => false

/-- Whether a value is a list of paths. -/
def arePaths : Json → Bool
  | .array items => items.all isPath
  | _ => false

/-- Whether a key may have a value. -/
def inSchema (key : String) (value : Json) : Bool :=
  if key = "ppi" then isPositiveNumber value
  else if key = "default_width" ∨ key = "default_height" then isSize value
  else if key = "font_directories" then arePaths value
  else key = "base_directory" && isPath value

/-- A field that is taken: one of the schema, or a resolution that is no number. -/
def Accepted (key : String) (value : Json) : Prop :=
  inSchema key value = true ∨ key = "ppi" ∧ value = .float .nan

/-- What is stored of a value: a whole resolution as the nearest number, and any other value as it is. -/
def stored (key : String) (value : Json) : Except ArithmeticError Json :=
  match value with
  | .int i => if key = "ppi" then (Binary64.ofInt i).map .float else .ok (.int i)
  | value => .ok value

/-- The settings as the fields of a file that gives all of them. -/
def entries (s : Settings) : Dictionary Json :=
  [("ppi", .float s.resolution), ("default_width", .int s.pageWidth), ("default_height", .int s.pageHeight),
    ("font_directories", .array (s.fontFolders.map .string)), ("base_directory", .string s.baseFolder)]

/-- Settings that are as they should be. -/
structure Valid (s : Settings) : Prop where
  resolution : s.resolution.isPositive = true
  pageWidth : 0 ≤ s.pageWidth
  pageHeight : 0 ≤ s.pageHeight
  fontFolders : ∀ path ∈ s.fontFolders, isPathText path = true
  baseFolder : isPathText s.baseFolder = true

/-- Settings that have what a file gives, and for all other keys what the base has. -/
structure Overridden (base : Settings) (fields : Dictionary Json) (s : Settings) : Prop where
  kept : ∀ key, fields.get? key = none → s.entries.get? key = base.entries.get? key
  replaced : ∀ key value, fields.get? key = some value →
    ∃ v, stored key value = .ok v ∧ s.entries.get? key = some v

variable {s s' base : Settings} {key : String} {value : Json} {fields : Dictionary Json}

theorem valid_iff : s.Valid ↔ ∀ entry ∈ s.entries, inSchema entry.1 entry.2 = true := by
  simp only [entries, List.forall_mem_cons, inSchema, isPositiveNumber, isSize, arePaths, isPath, List.all_map]
  constructor
  · rintro ⟨hresolution, hwidth, hheight, hfonts, hbase⟩
    simp [hresolution, hwidth, hheight, hbase]
    exact hfonts
  · intro h
    simp at h
    obtain ⟨hresolution, hwidth, hheight, hfonts, hbase⟩ := h
    exact ⟨hresolution, hwidth, hheight, hfonts, hbase⟩

theorem keys_entries (s : Settings) : s.entries.keys = knownKeys := rfl

theorem distinct_entries (s : Settings) : s.entries.Distinct := by
  rw [Dictionary.Distinct, keys_entries]
  decide

theorem entries_injective (h : s.entries = s'.entries) : s = s' := by
  simp only [entries, List.cons.injEq, Prod.mk.injEq, true_and, Json.float.injEq, Json.int.injEq, Json.array.injEq,
    Json.string.injEq, and_true] at h
  obtain ⟨hresolution, hwidth, hheight, hfonts, hbase⟩ := h
  have hfonts := List.map_injective_iff.2 (fun a b h => by cases h; rfl) hfonts
  cases s
  cases s'
  simp_all

/-! ## Reading values -/

theorem isPathText_iff {text : String} : isPathText text = true ↔ Text.strip text ≠ "" := by
  rw [ne_eq, Text.strip_eq_empty_iff, isPathText, List.any_eq_true]
  simp

theorem readPositive_ok_iff {x : Binary64} :
    readPositive key value = .ok x ↔ Accepted "ppi" value ∧ stored "ppi" value = .ok (.float x) := by
  unfold readPositive
  split
  · rename_i i
    have haccepted : Accepted "ppi" (.int i) ↔ 0 < i := by simp [Accepted, inSchema, isPositiveNumber]
    rw [haccepted, stored, if_pos rfl]
    split
    · rename_i hi
      simp only [reduceCtorEq, false_iff, not_and]
      omega
    · rename_i hi
      have hpos : 0 < i := by omega
      cases Binary64.ofInt i <;> simp [hpos, Except.map]
  · rename_i x'
    have haccepted : Accepted "ppi" (.float x') ↔ x'.le (Binary64.zero false) = false := by
      rw [Binary64.le_zero_eq_false_iff]
      simp [Accepted, inSchema, isPositiveNumber]
    rw [haccepted]
    by_cases hle : x'.le (Binary64.zero false) = true
    · simp [hle]
    · simp [hle, stored]
  · rename_i hint hfloat
    simp only [reduceCtorEq, false_iff, not_and]
    intro haccepted
    cases value with
    | int i => exact absurd rfl (hint i)
    | float x => exact absurd rfl (hfloat x)
    | _ => simp [Accepted, inSchema, isPositiveNumber] at haccepted

theorem readSize_ok_iff {i : Int} : readSize key value = .ok i ↔ isSize value = true ∧ value = .int i := by
  unfold readSize
  cases value with
  | int j =>
    by_cases hj : j < 0
    · simp [hj, isSize]
    · simp [hj, isSize]
      omega
  | _ => simp

theorem readPath_ok_iff {path : String} :
    readPath key value = .ok path ↔ isPath value = true ∧ value = .string path := by
  unfold readPath
  cases value with
  | string text =>
    by_cases htext : Text.strip text = ""
    · simp [htext, isPath, isPathText_iff]
    · simp [htext, isPath, isPathText_iff]
  | _ => simp

theorem readEachPath_ok_iff {items : List Json} {paths : List String} :
    readEachPath key items = .ok paths ↔ items.all isPath = true ∧ items = paths.map .string := by
  induction items generalizing paths with
  | nil => cases paths <;> simp [readEachPath]
  | cons item items ih =>
    rw [readEachPath]
    cases hfirst : readPath key item with
    | error fault =>
      simp only [reduceCtorEq, false_iff, not_and]
      intro hall heq
      cases paths with
      | nil => cases heq
      | cons path paths =>
        obtain ⟨rfl, -⟩ := List.cons.inj heq
        have hpath : isPath (.string path) = true := List.all_eq_true.1 hall _ List.mem_cons_self
        rw [readPath_ok_iff.2 ⟨hpath, rfl⟩] at hfirst
        cases hfirst
    | ok path =>
      obtain ⟨hpath, rfl⟩ := readPath_ok_iff.1 hfirst
      simp only [Except.map_ok_iff, ih, List.all_cons, hpath, Bool.true_and]
      constructor
      · rintro ⟨others, ⟨hall, rfl⟩, rfl⟩
        exact ⟨hall, rfl⟩
      · rintro ⟨hall, heq⟩
        cases paths with
        | nil => cases heq
        | cons first others =>
          obtain ⟨hfirst, rfl⟩ := List.cons.inj heq
          cases hfirst
          exact ⟨others, ⟨hall, rfl⟩, rfl⟩

theorem readPaths_ok_iff {paths : List String} :
    readPaths key value = .ok paths ↔ arePaths value = true ∧ value = .array (paths.map .string) := by
  unfold readPaths
  cases value with
  | array items => simp [readEachPath_ok_iff, arePaths]
  | _ => simp

/-! ## Replacing one setting -/

theorem stored_of_ne (h : key ≠ "ppi") (value : Json) : stored key value = .ok value := by
  cases value <;> simp [stored, h]

theorem accepted_iff_of_ne (h : key ≠ "ppi") : Accepted key value ↔ inSchema key value = true := by
  simp [Accepted, h]

/-- A setting is replaced by what is stored of its value. -/
theorem map_ok_iff_insert {α : Type} {read : Except SettingsFault α} {set : α → Settings} {shown : α → Json}
    (hread : ∀ a, read = .ok a ↔ Accepted key value ∧ stored key value = .ok (shown a))
    (hset : ∀ a, (set a).entries = base.entries.insert key (shown a))
    (hshown : ∀ v, Accepted key value → stored key value = .ok v → ∃ a, v = shown a) :
    read.map set = .ok s ↔ Accepted key value ∧
      ∃ v, stored key value = .ok v ∧ s.entries = base.entries.insert key v := by
  rw [Except.map_ok_iff]
  constructor
  · rintro ⟨a, ha, rfl⟩
    obtain ⟨haccepted, hstored⟩ := (hread a).1 ha
    exact ⟨haccepted, shown a, hstored, hset a⟩
  · rintro ⟨haccepted, v, hstored, hs⟩
    obtain ⟨a, rfl⟩ := hshown v haccepted hstored
    exact ⟨a, (hread a).2 ⟨haccepted, hstored⟩, entries_injective ((hset a).trans hs.symm)⟩

theorem shown_of_accepted_ppi {v : Json} (haccepted : Accepted "ppi" value) (hstored : stored "ppi" value = .ok v) :
    ∃ x, v = .float x := by
  cases value with
  | int i =>
    rw [stored, if_pos rfl] at hstored
    obtain ⟨x, -, rfl⟩ := Except.map_ok_iff.1 hstored
    exact ⟨x, rfl⟩
  | float x => cases hstored; exact ⟨x, rfl⟩
  | _ => simp [Accepted, inSchema, isPositiveNumber] at haccepted

/-- Outside the resolution a value is stored as it is. -/
theorem map_ok_iff_insert_of_ne {α : Type} {read : Except SettingsFault α} {set : α → Settings} {shown : α → Json}
    (hkey : key ≠ "ppi") (hread : ∀ a, read = .ok a ↔ inSchema key value = true ∧ value = shown a)
    (hset : ∀ a, (set a).entries = base.entries.insert key (shown a))
    (hshown : inSchema key value = true → ∃ a, value = shown a) :
    read.map set = .ok s ↔ Accepted key value ∧
      ∃ v, stored key value = .ok v ∧ s.entries = base.entries.insert key v := by
  refine map_ok_iff_insert (fun a => ?_) hset fun v haccepted hstored => ?_
  · rw [hread, accepted_iff_of_ne hkey, stored_of_ne hkey, Except.ok.injEq]
  · rw [stored_of_ne hkey] at hstored
    cases hstored
    exact hshown ((accepted_iff_of_ne hkey).1 haccepted)

theorem exists_of_isSize (h : isSize value = true) : ∃ i, value = .int i := by
  cases value with
  | int i => exact ⟨i, rfl⟩
  | _ => cases h

theorem exists_of_isPath (h : isPath value = true) : ∃ path, value = .string path := by
  cases value with
  | string path => exact ⟨path, rfl⟩
  | _ => cases h

theorem exists_of_all_isPath {items : List Json} (h : items.all isPath = true) :
    ∃ paths : List String, items = paths.map .string := by
  induction items with
  | nil => exact ⟨[], rfl⟩
  | cons item items ih =>
    rw [List.all_cons, Bool.and_eq_true] at h
    obtain ⟨path, rfl⟩ := exists_of_isPath h.1
    obtain ⟨paths, rfl⟩ := ih h.2
    exact ⟨path :: paths, rfl⟩

theorem exists_of_arePaths (h : arePaths value = true) :
    ∃ paths : List String, value = .array (paths.map .string) := by
  cases value with
  | array items =>
    obtain ⟨paths, rfl⟩ := exists_of_all_isPath h
    exact ⟨paths, rfl⟩
  | _ => cases h

/-- Replacing a setting goes through for a field that is accepted, and stores its value under its key. -/
theorem override_ok_iff : base.override key value = .ok s ↔ Accepted key value ∧
    ∃ v, stored key value = .ok v ∧ s.entries = base.entries.insert key v := by
  unfold override
  split
  · rename_i hkey
    subst hkey
    exact map_ok_iff_insert (fun x => readPositive_ok_iff) (fun x => rfl) fun v => shown_of_accepted_ppi
  · rename_i hppi
    split
    · rename_i hkey
      subst hkey
      exact map_ok_iff_insert_of_ne hppi (fun i => readSize_ok_iff) (fun i => rfl) exists_of_isSize
    · split
      · rename_i hkey
        subst hkey
        exact map_ok_iff_insert_of_ne hppi (fun i => readSize_ok_iff) (fun i => rfl) exists_of_isSize
      · split
        · rename_i hkey
          subst hkey
          exact map_ok_iff_insert_of_ne hppi (fun paths => readPaths_ok_iff) (fun paths => rfl) exists_of_arePaths
        · split
          · rename_i hkey
            subst hkey
            exact map_ok_iff_insert_of_ne hppi (fun path => readPath_ok_iff) (fun path => rfl) exists_of_isPath
          · rename_i hwidth hheight hfonts hbase
            simp [accepted_iff_of_ne hppi, inSchema, hppi, hwidth, hheight, hfonts, hbase]

theorem mem_knownKeys_of_accepted (h : Accepted key value) : key ∈ knownKeys := by
  by_contra hkey
  simp only [knownKeys, List.mem_cons, List.not_mem_nil, or_false, not_or] at hkey
  simp [Accepted, inSchema, hkey] at h

theorem exists_entries (base : Settings) {v : Json} (haccepted : Accepted key value)
    (hstored : stored key value = .ok v) : ∃ s : Settings, s.entries = base.entries.insert key v := by
  by_cases hppi : key = "ppi"
  · subst hppi
    obtain ⟨x, rfl⟩ := shown_of_accepted_ppi haccepted hstored
    exact ⟨{ base with resolution := x }, rfl⟩
  · have hknown := mem_knownKeys_of_accepted haccepted
    rw [accepted_iff_of_ne hppi] at haccepted
    rw [stored_of_ne hppi] at hstored
    cases hstored
    simp only [knownKeys, List.mem_cons, List.not_mem_nil, or_false, hppi, false_or] at hknown
    obtain rfl | rfl | rfl | rfl := hknown
    · obtain ⟨i, rfl⟩ := exists_of_isSize haccepted
      exact ⟨{ base with pageWidth := i }, rfl⟩
    · obtain ⟨i, rfl⟩ := exists_of_isSize haccepted
      exact ⟨{ base with pageHeight := i }, rfl⟩
    · obtain ⟨paths, rfl⟩ := exists_of_arePaths haccepted
      exact ⟨{ base with fontFolders := paths }, rfl⟩
    · obtain ⟨path, rfl⟩ := exists_of_isPath haccepted
      exact ⟨{ base with baseFolder := path }, rfl⟩

/-- A field that is accepted, and whose value can be stored, replaces its setting. -/
theorem exists_override (base : Settings) {v : Json} (haccepted : Accepted key value)
    (hstored : stored key value = .ok v) : ∃ s, base.override key value = .ok s := by
  obtain ⟨s, hs⟩ := exists_entries base haccepted hstored
  exact ⟨s, override_ok_iff.2 ⟨haccepted, v, hstored, hs⟩⟩

/-! ## Replacing several settings -/

theorem overridden_cons_iff {mid : Settings} {v : Json} {rest : Dictionary Json} (hkey : key ∉ rest.keys)
    (hstored : stored key value = .ok v) (hmid : mid.entries = base.entries.insert key v) :
    Overridden base ((key, value) :: rest) s ↔ Overridden mid rest s := by
  have hnone : rest.get? key = none := Dictionary.get?_eq_none_iff.2 hkey
  constructor
  · rintro ⟨hkept, hreplaced⟩
    refine ⟨fun key' hget => ?_, fun key' value' hget => ?_⟩
    · rw [hmid]
      by_cases hsame : key' = key
      · subst hsame
        obtain ⟨v', hv', hentry⟩ := hreplaced key' value (by rw [Dictionary.get?, if_pos rfl])
        rw [hstored] at hv'
        cases hv'
        rw [hentry, Dictionary.get?_insert_self]
      · rw [Dictionary.get?_insert_other _ _ hsame]
        exact hkept key' (by rw [Dictionary.get?, if_neg (Ne.symm hsame), hget])
    · have hne : key ≠ key' := fun h => by rw [h, hget] at hnone; cases hnone
      exact hreplaced key' value' (by rw [Dictionary.get?, if_neg hne, hget])
  · rintro ⟨hkept, hreplaced⟩
    refine ⟨fun key' hget => ?_, fun key' value' hget => ?_⟩
    · rw [Dictionary.get?] at hget
      split at hget
      · cases hget
      · rename_i hne
        rw [hkept key' hget, hmid, Dictionary.get?_insert_other _ _ (Ne.symm hne)]
    · rw [Dictionary.get?] at hget
      split at hget
      · rename_i hsame
        subst hsame
        cases hget
        exact ⟨v, hstored, by rw [hkept key hnone, hmid, Dictionary.get?_insert_self]⟩
      · exact hreplaced key' value' hget

theorem eq_of_get?_entries (h : ∀ key, s.entries.get? key = s'.entries.get? key) : s = s' := by
  have hresolution := h "ppi"
  have hwidth := h "default_width"
  have hheight := h "default_height"
  have hfonts := h "font_directories"
  have hbase := h "base_directory"
  simp [entries, Dictionary.get?] at hresolution hwidth hheight hfonts hbase
  exact entries_injective (by simp [entries, *])

theorem overridden_nil_iff : Overridden base [] s ↔ base = s := by
  constructor
  · intro h
    exact eq_of_get?_entries fun key => (h.kept key rfl).symm
  · rintro rfl
    exact ⟨fun _ _ => rfl, fun _ _ h => by cases h⟩

theorem foldlM_override_ok_iff (hfields : fields.Distinct) :
    fields.foldlM (fun s (key, value) => s.override key value) base = .ok s ↔
      (∀ field ∈ fields, Accepted field.1 field.2) ∧ Overridden base fields s := by
  induction fields generalizing base with
  | nil =>
    rw [overridden_nil_iff, List.foldlM_nil]
    simp [pure, Except.pure]
  | cons field fields ih =>
    obtain ⟨key, value⟩ := field
    obtain ⟨hkey, hrest⟩ := Dictionary.distinct_cons_iff.1 hfields
    rw [List.foldlM_cons, Except.bind_ok_iff, List.forall_mem_cons]
    constructor
    · rintro ⟨mid, hmid, hfold⟩
      obtain ⟨haccepted, v, hstored, hentries⟩ := override_ok_iff.1 hmid
      obtain ⟨hothers, hover⟩ := (ih hrest).1 hfold
      exact ⟨⟨haccepted, hothers⟩, (overridden_cons_iff hkey hstored hentries).2 hover⟩
    · rintro ⟨⟨haccepted, hothers⟩, hover⟩
      obtain ⟨v, hstored, -⟩ := hover.replaced key value (by rw [Dictionary.get?, if_pos rfl])
      obtain ⟨mid, hmid⟩ := exists_override base haccepted hstored
      obtain ⟨-, v', hstored', hentries⟩ := override_ok_iff.1 hmid
      rw [hstored] at hstored'
      cases hstored'
      exact ⟨mid, hmid, (ih hrest).2 ⟨hothers, (overridden_cons_iff hkey hstored hentries).1 hover⟩⟩

/-- Replacing settings goes through just for fields that are all accepted, and stores what they give. -/
theorem overrideAll_ok_iff (hfields : fields.Distinct) : base.overrideAll fields = .ok s ↔
    (∀ field ∈ fields, Accepted field.1 field.2) ∧ Overridden base fields s := by
  unfold overrideAll
  simp only
  split
  · rename_i hunknown
    simp only [reduceCtorEq, false_iff, not_and]
    intro hall
    refine absurd (List.filter_eq_nil_iff.2 fun key hkey => ?_) hunknown
    obtain ⟨field, hfield, rfl⟩ := List.mem_map.1 hkey
    simpa using mem_knownKeys_of_accepted (hall field hfield)
  · exact foldlM_override_ok_iff hfields

/-! ## What is loaded -/

theorem valid_profile {profile : String} (h : profiles.get? profile = some base) : base.Valid := by
  have hmem := Dictionary.mem_of_get? h
  simp only [profiles, List.mem_cons, List.not_mem_nil, or_false, Prod.mk.injEq] at hmem
  obtain ⟨-, rfl⟩ | ⟨-, rfl⟩ | ⟨-, rfl⟩ := hmem
  all_goals exact ⟨by decide +kernel, by decide, by decide, by simp, by decide⟩

/-- What is stored of a value of the schema is of the schema. -/
theorem inSchema_of_stored {v : Json} (h : inSchema key value = true) (hstored : stored key value = .ok v) :
    inSchema key v = true := by
  unfold stored at hstored
  split at hstored
  · rename_i i
    split at hstored
    · rename_i hkey
      subst hkey
      obtain ⟨x, hx, rfl⟩ := Except.map_ok_iff.1 hstored
      have hpos : 0 < i := by simpa [inSchema, isPositiveNumber] using h
      have hpositive := Binary64.ofInt_isPositive hpos hx
      simpa [inSchema, isPositiveNumber] using hpositive
    · cases hstored
      exact h
  · cases hstored
    exact h

/-- All settings that were loaded are of the schema, but for a resolution that the file gives as no number. -/
theorem inSchema_of_overridden (hbase : base.Valid) (hall : ∀ field ∈ fields, Accepted field.1 field.2)
    (h : Overridden base fields s) : ∀ entry ∈ s.entries, inSchema entry.1 entry.2 = true ∨
      entry = ("ppi", .float .nan) ∧ ("ppi", .float .nan) ∈ fields := by
  rintro ⟨key, v⟩ hentry
  have hget := Dictionary.get?_of_mem s.distinct_entries hentry
  cases hfield : fields.get? key with
  | none =>
    rw [h.kept key hfield] at hget
    exact .inl (valid_iff.1 hbase _ (Dictionary.mem_of_get? hget))
  | some value =>
    obtain ⟨v', hstored, hv'⟩ := h.replaced key value hfield
    rw [hget] at hv'
    cases hv'
    have hmem := Dictionary.mem_of_get? hfield
    obtain hschema | ⟨hkey, hnan⟩ := hall _ hmem
    · exact .inl (inSchema_of_stored hschema hstored)
    · simp only at hkey hnan
      subst hkey hnan
      cases hstored
      exact .inr ⟨rfl, hmem⟩

theorem valid_iff_of_overridden (hfields : fields.Distinct) (hbase : base.Valid)
    (hall : ∀ field ∈ fields, Accepted field.1 field.2) (h : Overridden base fields s) :
    s.Valid ↔ ("ppi", .float .nan) ∉ fields := by
  rw [valid_iff]
  constructor
  · intro hvalid hnan
    obtain ⟨v, hstored, hget⟩ := h.replaced "ppi" _ (Dictionary.get?_of_mem hfields hnan)
    cases hstored
    have hentry := hvalid _ (Dictionary.mem_of_get? hget)
    cases hentry
  · intro hnan entry hentry
    obtain hschema | ⟨-, hmem⟩ := inSchema_of_overridden hbase hall h entry hentry
    · exact hschema
    · exact absurd hmem hnan

/-! ## Faults -/

theorem kind_of_readPath {fault : SettingsFault} (h : readPath key value = .error fault) : fault.kind = .value := by
  unfold readPath at h
  split at h
  · split at h <;> cases h
    rfl
  · cases h
    rfl

theorem kind_of_readEachPath {items : List Json} {fault : SettingsFault}
    (h : readEachPath key items = .error fault) : fault.kind = .value := by
  induction items with
  | nil => cases h
  | cons item items ih =>
    rw [readEachPath] at h
    split at h
    · rename_i hfirst
      cases h
      exact kind_of_readPath hfirst
    · exact ih (Except.map_error_iff.1 h)

theorem kind_of_readSize {fault : SettingsFault} (h : readSize key value = .error fault) : fault.kind = .value := by
  unfold readSize at h
  split at h
  · split at h <;> cases h
    rfl
  · cases h
    rfl

theorem readPositive_error {fault : SettingsFault} (h : readPositive key value = .error fault) :
    fault.kind = .value ∨
      fault = .number .integerTooLarge ∧ ∃ i, value = .int i ∧ Binary64.overflowBound ≤ i.natAbs := by
  unfold readPositive at h
  split at h
  · rename_i i
    split at h
    · cases h
      exact .inl rfl
    · split at h
      · cases h
      · rename_i e he
        cases h
        obtain ⟨rfl, hlarge⟩ := Binary64.ofInt_error_iff.1 he
        exact .inr ⟨rfl, i, rfl, hlarge⟩
  · split at h <;> cases h
    exact .inl rfl
  · cases h
    exact .inl rfl

/-- A field is refused as a bad value, unless it is a whole resolution beyond binary64. -/
theorem override_error {fault : SettingsFault} (h : base.override key value = .error fault) :
    fault.kind = .value ∨ fault = .number .integerTooLarge ∧
      ∃ i, key = "ppi" ∧ value = .int i ∧ Binary64.overflowBound ≤ i.natAbs := by
  unfold override at h
  split at h
  · rename_i hkey
    obtain hvalue | ⟨hfault, i, hi, hlarge⟩ := readPositive_error (Except.map_error_iff.1 h)
    · exact .inl hvalue
    · exact .inr ⟨hfault, i, hkey, hi, hlarge⟩
  · split at h
    · exact .inl (kind_of_readSize (Except.map_error_iff.1 h))
    · split at h
      · exact .inl (kind_of_readSize (Except.map_error_iff.1 h))
      · split at h
        · have h := Except.map_error_iff.1 h
          unfold readPaths at h
          split at h
          · exact .inl (kind_of_readEachPath h)
          · cases h
            exact .inl rfl
        · split at h
          · exact .inl (kind_of_readPath (Except.map_error_iff.1 h))
          · cases h
            exact .inl rfl

theorem overrideAll_error {fault : SettingsFault} (h : base.overrideAll fields = .error fault) :
    fault.kind = .value ∨ fault = .number .integerTooLarge ∧
      ∃ i, ("ppi", .int i) ∈ fields ∧ Binary64.overflowBound ≤ i.natAbs := by
  unfold overrideAll at h
  simp only at h
  split at h
  · cases h
    exact .inl rfl
  · rename_i hknown
    clear hknown
    induction fields generalizing base with
    | nil => cases h
    | cons field fields ih =>
      rw [List.foldlM_cons] at h
      obtain h | ⟨mid, -, h⟩ := Except.bind_error_iff.1 h
      · obtain ⟨key, value⟩ := field
        obtain hvalue | ⟨hfault, i, hkey, hi, hlarge⟩ := override_error h
        · exact .inl hvalue
        · subst hkey hi
          exact .inr ⟨hfault, i, List.mem_cons_self, hlarge⟩
      · obtain hvalue | ⟨hfault, i, hmem, hlarge⟩ := ih h
        · exact .inl hvalue
        · exact .inr ⟨hfault, i, List.mem_cons_of_mem _ hmem, hlarge⟩

/-- A file that cannot be read is reported, unless its containers stand too deep inside each other. -/
theorem isReported_file (fault : Json.ObjectFileFault) :
    fault.kind.isReported = true ∨ ∃ container, fault = .unusable (.tooDeep container) := by
  cases fault with
  | absent | malformed | notObject => exact .inl rfl
  | unreadable path fault =>
    left
    cases fault with
    | refused refusal => cases refusal <;> rfl
    | _ => rfl
  | unusable e =>
    cases e with
    | tooDeep container => exact .inr ⟨container, rfl⟩
    | _ => exact .inl rfl

theorem load_of_profile [Platform] {profile : String} (hbase : profiles.get? profile = some base)
    (files : FileTree) (path : Path) :
    load files profile (some path) =
      match Json.readObjectFile "settings" files path with
      | .error fault => .error (.file fault)
      | .ok fields => base.overrideAll fields := by
  unfold load
  generalize profiles.get? profile = found at hbase
  subst hbase
  rfl

/-- The settings of a profile are valid. A file that can be read gives the settings that have its values and
else those of the profile, just if all its fields are of the schema or a resolution that is no number; any
other file fails. What is loaded is of the schema but for such a resolution, so it is valid just if the file
has none. And every failure is reported, but for containers that stand too deep inside each other and a
whole resolution that is beyond binary64. -/
theorem load_meets_schema [Platform] {profile : String} (hbase : profiles.get? profile = some base)
    (files : FileTree) :
    base.Valid ∧ load files profile none = .ok base ∧
    ∀ path,
      (∀ fault, Json.readObjectFile "settings" files path = .error fault →
        load files profile (some path) = .error (.file fault)) ∧
      (∀ fields, Json.readObjectFile "settings" files path = .ok fields →
        (∀ s, load files profile (some path) = .ok s ↔
          (∀ field ∈ fields, inSchema field.1 field.2 = true ∨ field.1 = "ppi" ∧ field.2 = .float .nan) ∧
            Overridden base fields s) ∧
        ∀ s, load files profile (some path) = .ok s →
          (s.Valid ↔ ("ppi", .float .nan) ∉ fields) ∧
          ∀ entry ∈ s.entries, inSchema entry.1 entry.2 = true ∨ entry = ("ppi", .float .nan)) ∧
      ∀ fault, load files profile (some path) = .error fault →
        fault.kind.isReported = true ∨ (∃ container, fault = .file (.unusable (.tooDeep container))) ∨
        fault = .number .integerTooLarge ∧ ∃ fields i, Json.readObjectFile "settings" files path = .ok fields ∧
          ("ppi", .int i) ∈ fields ∧ Binary64.overflowBound ≤ i.natAbs := by
  have hvalid := valid_profile hbase
  refine ⟨hvalid, by rw [load, hbase], fun path => ⟨fun fault hfile => ?_, fun fields hfile => ?_, fun fault h => ?_⟩⟩
  · rw [load_of_profile hbase, hfile]
  · have hdistinct := Json.distinct_of_readObjectFile hfile
    have hload : ∀ s, load files profile (some path) = .ok s ↔
        (∀ field ∈ fields, Accepted field.1 field.2) ∧ Overridden base fields s := fun s => by
      rw [load_of_profile hbase, hfile]
      exact overrideAll_ok_iff hdistinct
    refine ⟨hload, fun s hs => ?_⟩
    obtain ⟨hall, hover⟩ := (hload s).1 hs
    exact ⟨valid_iff_of_overridden hdistinct hvalid hall hover, fun entry hentry =>
      (inSchema_of_overridden hvalid hall hover entry hentry).imp_right And.left⟩
  · rw [load_of_profile hbase] at h
    cases hfile : Json.readObjectFile "settings" files path with
    | error e =>
      rw [hfile] at h
      cases h
      obtain hreported | ⟨container, rfl⟩ := isReported_file e
      · exact .inl hreported
      · exact .inr (.inl ⟨container, rfl⟩)
    | ok fields =>
      rw [hfile] at h
      obtain hvalue | ⟨rfl, i, hmem, hlarge⟩ := overrideAll_error h
      · exact .inl (by rw [hvalue]; rfl)
      · exact .inr (.inr ⟨rfl, fields, i, rfl, hmem, hlarge⟩)

/-- A folder with one file of settings. -/
def settingsFolder (text : String) : FileTree := { entries := [(["s.json"], .file text.toUTF8.toList)] }

def settingsPath : Path := Path.ofText "s.json"

/-- A file that gives a resolution and some folders. -/
def posterFile : String :=
  "\x7b\"ppi\": 300, \"font_directories\": [\"fonts\"], \"base_directory\": \"assets\"\x7d"

/-- What it makes of the letter page. -/
def posterSettings : Settings :=
  { resolution := Binary64.ofRatio false 300 1, pageWidth := 612, pageHeight := 792, fontFolders := ["fonts"],
    baseFolder := "assets" }

open scoped Plain in
theorem load_meets_schema_poster : ∃ fields,
    Json.readObjectFile "settings" (settingsFolder posterFile) settingsPath = .ok fields ∧
    load (settingsFolder posterFile) "letter" (some settingsPath) = .ok posterSettings ∧
    posterSettings.Valid ∧ Overridden { pageWidth := 612, pageHeight := 792 } fields posterSettings := by
  have hload : load (settingsFolder posterFile) "letter" (some settingsPath) = .ok posterSettings :=
    Except.eq_ok_of_toOption (by decide +kernel)
  have hwhole : (Json.readObjectFile "settings" (settingsFolder posterFile) settingsPath).toOption.any (fun fields =>
      fields.all fun field => match field.2 with | .float _ => false | _ => true) = true := by decide +kernel
  have hletter : profiles.get? "letter" = some { pageWidth := 612, pageHeight := 792 } := rfl
  obtain ⟨-, -, hfiles⟩ := load_meets_schema hletter (settingsFolder posterFile)
  obtain ⟨-, hfields, -⟩ := hfiles settingsPath
  cases hread : Json.readObjectFile "settings" (settingsFolder posterFile) settingsPath with
  | error fault => rw [hread] at hwhole; cases hwhole
  | ok fields =>
    rw [hread] at hwhole
    obtain ⟨hiff, hvalid⟩ := hfields fields hread
    obtain ⟨-, hover⟩ := (hiff posterSettings).1 hload
    have hnan : ("ppi", .float .nan) ∉ fields := fun hmem => by
      cases List.all_eq_true.1 hwhole _ hmem
    exact ⟨fields, rfl, hload, (hvalid posterSettings hload).1.2 hnan, hover⟩

open scoped Plain in
/-- A resolution that is no number gets through, and the settings with it are not valid. -/
theorem nan_resolution_loaded : ¬ ∀ text s,
    load (settingsFolder text) "default" (some settingsPath) = .ok s → s.Valid := by
  intro h
  have hload : load (settingsFolder "\x7b\"ppi\": NaN\x7d") "default" (some settingsPath) =
      .ok { resolution := .nan } := Except.eq_ok_of_toOption (by decide +kernel)
  cases (h _ _ hload).resolution

end Settings

end PageTemplate
