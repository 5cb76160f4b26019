/-
The stray faults of loading a component and of supplying values to it. Loading
strays where a literal integer has too many digits, or where the literal text
of a property strays as a value of it would (`Component.LoadStrays`). Supplying
strays where a property that waits is given a value with which it strays
(`Component.SupplyStrays`).
-/
import PageTemplate.Proofs.Binary64.Decimal
import PageTemplate.Proofs.Component.Straying
import PageTemplate.Proofs.Component.Supplying

namespace PageTemplate

/-! ## Fields -/

/-- Whether a text writes an integer with so many digits that it is not read. -/
def Literal.TooLong (text : String) (count : Nat) : Prop :=
  ∃ negative digits, integerDigits? text.toList = some (negative, digits) ∧ digits.length = count ∧
    Json.digitLimit < count

theorem Literal.readInteger_error {name text : String} {e : FieldFault}
    (h : readInteger name text = .error e) (hstray : (Fault.field e).IsStray) :
    ∃ count, e = .tooManyDigits count ∧ TooLong text count := by
  unfold readInteger at h
  split at h
  · cases h
    cases hstray
  · rename_i negative digits hdigits
    split at h
    · rename_i hlong
      cases h
      exact ⟨_, rfl, negative, digits, hdigits, rfl, hlong⟩
    · cases h

/-- The one literal that strays is an integer. -/
theorem Literal.read_error {type : FieldType} {name text : String} {e : FieldFault}
    (h : Literal.read type name text = .error e) (hstray : (Fault.field e).IsStray) :
    type = .integer ∧ ∃ count, e = .tooManyDigits count ∧ TooLong text count := by
  cases type with
  | integer => exact ⟨rfl, readInteger_error (Except.map_error_iff.1 h) hstray⟩
  | text => cases h
  | truth =>
    have h := Except.map_error_iff.1 h
    unfold readTruth at h
    split at h
    · cases h
    · split at h <;> cases h
      cases hstray
  | byte =>
    have h := Except.map_error_iff.1 h
    unfold readByte at h
    split at h
    · split at h <;> cases h
      cases hstray
    · cases h
      cases hstray
  | decimal =>
    have h := Except.map_error_iff.1 h
    unfold readDecimal at h
    split at h <;> cases h
    cases hstray
  | duration =>
    have h := Except.map_error_iff.1 h
    unfold readDuration at h
    split at h <;> cases h
    cases hstray
  | unsupported => cases h; cases hstray

theorem Literal.natAbs_lt_of_readInteger {name text : String} {i : Int} (h : readInteger name text = .ok i) :
    i.natAbs < 10 ^ Json.digitLimit := by
  unfold readInteger at h
  split at h
  · cases h
  · rename_i negative digits hdigits
    split at h
    · cases h
    · rename_i hlength
      have hall : ∀ c ∈ digits, Text.isAsciiDigit c = true := by
        unfold integerDigits? at hdigits
        simp only at hdigits
        split at hdigits
        · rename_i hsome
          cases hdigits
          simpa using hsome.2
        · cases hdigits
      have hlt : Text.decimalNumber digits < 10 ^ digits.length := decimalNumber_lt hall
      have hle : 10 ^ digits.length ≤ 10 ^ Json.digitLimit :=
        Nat.pow_le_pow_right (by decide) (by omega)
      have habs : i.natAbs = Text.decimalNumber digits := by
        cases h
        split <;> simp
      omega

theorem Literal.le_of_readByte {name text : String} {n : Nat} (h : readByte name text = .ok n) : n ≤ 255 := by
  unfold readByte at h
  split at h
  · split at h
    · cases h
      assumption
    · cases h
  · cases h

theorem Json.showFault?_int {i : Int} (h : i.natAbs < 10 ^ digitLimit) (room : Nat) :
    (Json.int i).showFault? (room + 1) = none := by
  rw [showFault?]
  simp only [Nat.pow_eq, if_pos h]

/-- What a literal is read to can be shown if anything can. -/
theorem Literal.showFault?_of_read {type : FieldType} {name text : String} {literal : Literal}
    (h : Literal.read type name text = .ok literal) (room : Nat) :
    literal.toValue.showFault? (room + 1) = none := by
  cases type with
  | integer =>
    obtain ⟨i, hi, rfl⟩ := Except.map_ok_iff.1 h
    exact Json.showFault?_int (natAbs_lt_of_readInteger hi) room
  | byte =>
    obtain ⟨n, hn, rfl⟩ := Except.map_ok_iff.1 h
    have hle := le_of_readByte hn
    have hlimit : 10 ^ 3 ≤ 10 ^ Json.digitLimit := Nat.pow_le_pow_right (by decide) (by decide)
    have hlt : (n : Int).natAbs < 10 ^ Json.digitLimit := by
      rw [Int.natAbs_natCast]
      omega
    exact Json.showFault?_int hlt room
  | text => cases h; rfl
  | truth | decimal | duration =>
    obtain ⟨x, -, rfl⟩ := Except.map_ok_iff.1 h
    rfl
  | unsupported => cases h

/-- What keeps a literal from being shown keeps its text from it too. -/
theorem Literal.shown_error [Platform] {type : FieldType} {name text : String} {literal : Literal}
    {failure : Json.ShowFault} (h : Literal.read type name text = .ok literal)
    (hshown : literal.toValue.shown = .error failure) : (Value.text text).shown = .error failure := by
  rw [Value.shown_error_iff] at hshown ⊢
  cases hroom : Platform.showingDepth with
  | zero =>
    rw [hroom] at hshown
    cases literal <;> exact hshown
  | succ room =>
    rw [hroom, showFault?_of_read h] at hshown
    cases hshown

namespace Candidate

variable {α : Type} {slots : SlotMap} {e : FieldFault}

/-- A field that strays does so when its literal is read. -/
theorem extract_error {c : Candidate α} (h : c.extract slots = .error e) (hstray : (Fault.field e).IsStray) :
    c.read c.text = .error e := by
  unfold extract at h
  split at h
  · cases h
    cases hstray
  · split at h
    · split at h <;> cases h
      cases hstray
    · exact Except.map_error_iff.1 h

theorem outcomes_error {place : Nat} {cs : List (Candidate α)} (h : outcomes place cs = .error e) :
    ∃ c ∈ cs, c.extract [] = .error e := by
  induction cs generalizing place with
  | nil => cases h
  | cons c cs ih =>
    unfold outcomes at h
    split at h
    · obtain ⟨d, hd, hextract⟩ := ih (Except.map_error_iff.1 h)
      exact ⟨d, List.mem_cons_of_mem _ hd, hextract⟩
    · rename_i fault hextract
      split at h
      · obtain ⟨d, hd, hextract⟩ := ih h
        exact ⟨d, List.mem_cons_of_mem _ hd, hextract⟩
      · cases h
        exact ⟨c, List.mem_cons_self, hextract⟩

theorem extractExclusive_error {cs : List (Candidate α)} (h : extractExclusive cs slots = .error e)
    (hstray : (Fault.field e).IsStray) : ∃ c ∈ cs, c.read c.text = .error e := by
  unfold extractExclusive at h
  split at h
  · rename_i fault houtcomes
    cases h
    obtain ⟨c, hc, hextract⟩ := outcomes_error houtcomes
    exact ⟨c, hc, extract_error hextract hstray⟩
  · cases h
  · cases h
    cases hstray

end Candidate

theorem FieldSpec.straysOnly_textIn (f : FieldSpec) (properties : Json) {strays : Fault → Prop} :
    Act.StraysOnly strays (Act.ofExcept .component (f.textIn properties)) := by
  refine Act.straysOnly_ofExcept fun e he hstray => ?_
  unfold FieldSpec.textIn at he
  split at he <;> cases he
  cases hstray

variable [Platform]

/-- A property strays with the value of its literal only as it does with the text. -/
theorem Property.Strays.of_literal {files : FileTree} {settings : Settings} {p : Property} {name text : String}
    {literal : Literal} {fault : Fault} (hread : Literal.read p.fieldType name text = .ok literal)
    (h : p.Strays files settings literal.toValue fault) : p.Strays files settings (.text text) fault := by
  generalize hv : literal.toValue = v at h
  cases h with
  | base64 hforeign =>
    cases hread
    cases hv
    exact .base64 hforeign
  | path hnul =>
    cases hread
    cases hv
    exact .path hnul
  | font hrequest hfont =>
    cases p with
    | fontName | fontFile | fontAddress =>
      cases hread
      cases hv
      exact .font hrequest hfont
    | _ => cases hrequest
  | integer _ =>
    obtain ⟨x, -, rfl⟩ := Except.map_ok_iff.1 hread
    cases hv
  | layout hitems _ =>
    obtain ⟨x, -, rfl⟩ := Except.map_ok_iff.1 hread
    cases hv
    cases hitems
  | unshown hshown =>
    subst hv
    exact .unshown (Literal.shown_error hread hshown)

/-! ## Loading -/

/-- The stray faults of loading a component: a literal integer with too many digits, and the literal text
of a property that strays with it. -/
inductive Component.LoadStrays (files : FileTree) (settings : Settings) (kind : ShapeKind)
    (properties : Json) : Fault → Prop
  | digits {f : FieldSpec} {count : Nat} : f ∈ kind.fields → f.property.fieldType = .integer →
    Literal.TooLong (f.rawText properties) count →
      LoadStrays files settings kind properties (.field (.tooManyDigits count))
  | value {f : FieldSpec} {fault : Fault} : f ∈ kind.fields →
    f.property.Strays files settings (.text (f.rawText properties)) fault →
      LoadStrays files settings kind properties fault

namespace Reading

variable {files : FileTree} {settings : Settings} {kind : ShapeKind} {properties : Json} {f : FieldSpec}

theorem straysOnly_assign (r : Reading) (p : Property) (literal : Literal) :
    Act.StraysOnly (p.Strays files settings literal.toValue) (assign files settings r p literal) := by
  unfold assign
  split
  · exact Act.straysOnly_pure _
  · refine Act.StraysOnly.bind ?_ fun symbology s t hread => ?_
    · refine Act.straysOnly_ofExcept fun e he hstray => ?_
      unfold symbologyOfLiteral at he
      split at he <;> cases he
      cases hstray
    · refine Act.StraysOnly.bind_pure ?_ _
      refine (Shape.straysOnly_assign files settings (.symbology symbology) r.shape .barcodeType).mono ?_
      intro fault h
      generalize hv : Value.symbology symbology = v at h
      cases h with
      | font hrequest _ => cases hrequest
      | unshown hshown => cases hv; cases hshown
  · exact (Shape.straysOnly_assign files settings literal.toValue r.shape p).bind_pure _

/-- Taking up a field strays as the property of the field does with its text. -/
theorem straysOnly_take (hf : f ∈ kind.fields) {r : Reading} {slots after : SlotMap} {value : Option Literal}
    (h : (f.source properties).extract slots = .ok (after, value)) :
    Act.StraysOnly (Component.LoadStrays files settings kind properties)
      (take files settings r f.property after value) := by
  rcases Candidate.extract_ok h with ⟨v, -, -, rfl⟩ | ⟨-, -, literal, rfl, hread⟩
  · exact Act.straysOnly_pure _
  · refine (straysOnly_assign _ f.property literal).mono fun fault hfault => ?_
    exact .value hf (hfault.of_literal hread)

theorem loadStrays_of_read (hf : f ∈ kind.fields) {e : FieldFault}
    (h : (f.source properties).read (f.source properties).text = .error e)
    (hstray : (Fault.field e).IsStray) :
    Component.LoadStrays files settings kind properties (.field e) := by
  obtain ⟨htype, count, rfl, hlong⟩ := Literal.read_error h hstray
  exact .digits hf htype hlong

theorem straysOnly_readText (hf : f ∈ kind.fields) (r : Reading) :
    Act.StraysOnly (Component.LoadStrays files settings kind properties)
      (readText files settings r f (f.rawText properties)) := by
  refine Act.StraysOnly.bind ?_ fun extracted s t hextract => ?_
  · refine Act.straysOnly_ofExcept fun e he hstray => ?_
    exact loadStrays_of_read hf (Candidate.extract_error he hstray) hstray
  · exact straysOnly_take hf (Act.outcome_ofExcept_ok.1 hextract).1

theorem straysOnly_readGroup {group : FieldGroup} (hgroup : ∀ f ∈ group.fields, f ∈ kind.fields)
    (r : Reading) :
    Act.StraysOnly (Component.LoadStrays files settings kind properties)
      (readGroup files settings properties r group) := by
  cases group with
  | single f =>
    refine (FieldSpec.straysOnly_textIn f properties).bind fun text s t htext => ?_
    obtain rfl := FieldSpec.textIn_ok (Act.outcome_ofExcept_ok.1 htext).1
    exact straysOnly_readText (hgroup f (List.mem_singleton_self f)) r
  | optional f =>
    refine (FieldSpec.straysOnly_textIn f properties).bind fun text s t htext => ?_
    obtain rfl := FieldSpec.textIn_ok (Act.outcome_ofExcept_ok.1 htext).1
    split
    · exact Act.straysOnly_pure r
    · exact straysOnly_readText (hgroup f (List.mem_singleton_self f)) r
  | exclusive fields =>
    refine Act.StraysOnly.bind ?_ fun texts s t htexts => ?_
    · refine Act.straysOnly_ofExcept fun e he hstray => ?_
      obtain ⟨f, -, hf⟩ := Except.mapM_error he
      unfold FieldSpec.textIn at hf
      split at hf <;> cases hf
      cases hstray
    · obtain ⟨htexts, -⟩ := Act.outcome_ofExcept_ok.1 htexts
      refine Act.StraysOnly.bind ?_ fun extracted s t hextract => ?_
      · refine Act.straysOnly_ofExcept fun e he hstray => ?_
        rw [candidates_eq htexts] at he
        obtain ⟨c, hc, hread⟩ := Candidate.extractExclusive_error he hstray
        obtain ⟨f, hf, rfl⟩ := List.mem_map.1 hc
        exact loadStrays_of_read (hgroup f hf) hread hstray
      · obtain ⟨before, f, after, hfields, hplace, -, hf⟩ :=
          extractExclusive_fields htexts (Act.outcome_ofExcept_ok.1 hextract).1
        simp only [hplace]
        exact straysOnly_take (hgroup f (by simp [FieldGroup.fields, hfields])) hf

theorem straysOnly_readGroups {groups : List FieldGroup}
    (hgroups : ∀ group ∈ groups, ∀ f ∈ group.fields, f ∈ kind.fields) (r : Reading) :
    Act.StraysOnly (Component.LoadStrays files settings kind properties)
      (readGroups files settings properties r groups) := by
  induction groups generalizing r with
  | nil => exact Act.straysOnly_pure r
  | cons group groups ih =>
    obtain ⟨hgroup, hrest⟩ := List.forall_mem_cons.1 hgroups
    exact (straysOnly_readGroup hgroup r).bind fun next _ _ _ => ih hrest next

end Reading

namespace Component

variable {files : FileTree} {settings : Settings} {kind : ShapeKind} {properties : Json}

/-- The stray faults of loading a component are those of its fields. -/
theorem straysOnly_load (now : Calendar.Moment) :
    Act.StraysOnly (LoadStrays files settings kind properties)
      (load files settings now kind properties) := by
  unfold load
  split
  · refine (Reading.straysOnly_readGroups (fun group hgroup f hf => ?_) _).bind fun read s t _ => ?_
    · exact List.mem_flatMap.2 ⟨group, hgroup, hf⟩
    · refine Act.StraysOnly.bind_pure (Act.straysOnly_ofExcept fun e he hstray => ?_) _
      unfold Reading.finish at he
      split at he
      · split at he <;> cases he
        cases hstray
      · cases he
  · refine Act.straysOnly_throw fun hstray => ?_
    cases hstray

theorem LoadStrays.isStray {fault : Fault} (h : LoadStrays files settings kind properties fault) :
    fault.IsStray := by
  cases h with
  | digits => rfl
  | value _ hfault => exact hfault.isStray

/-! ## Supplying -/

/-- The stray faults of supplying values: those of the properties that wait, with the values of their
variables. -/
inductive SupplyStrays (files : FileTree) (values : Dictionary Value) (c : Component) : Fault → Prop
  | value {name : String} {names : List String} {p : Property} {value : Value} {fault : Fault} :
    (name, names) ∈ c.slots → p.name ∈ names → (name, value) ∈ values →
      p.Strays files (c.settings.getD {}) value fault → SupplyStrays files values c fault

theorem SupplyStrays.isStray {values : Dictionary Value} {c : Component} {fault : Fault}
    (h : c.SupplyStrays files values fault) : fault.IsStray := by
  cases h with
  | value _ _ _ hfault => exact hfault.isStray

theorem straysOnly_supply (files : FileTree) (values : Dictionary Value) {c : Component}
    (hc : c.slots.Occupied) : Act.StraysOnly (c.SupplyStrays files values) (c.supply files values) := by
  rw [supply_eq files values hc]
  refine Act.StraysOnly.bind_pure (Act.straysOnly_foldlM (fun entry hentry shape => ?_) c.shape) _
  obtain ⟨hslots, hvalues⟩ := SlotMap.mem_of_mem_served hentry
  unfold serve SlotMap.serve
  rw [SlotMap.assignAll_eq]
  refine Act.StraysOnly.bind (Act.straysOnly_foldlM (fun name hname shape => ?_) shape) fun shape _ _ _ =>
    (Act.straysOnly_tell _).bind fun _ _ _ _ => Act.straysOnly_pure shape
  unfold Shape.assignNamed
  split
  · rename_i p hp
    have hpname : p.name = name := by simpa using List.find?_some hp
    refine (Shape.straysOnly_assign files _ entry.2.2 shape p).mono fun fault hfault => ?_
    exact .value hslots (hpname ▸ hname) hvalues hfault
  · refine Act.straysOnly_throw fun hstray => ?_
    cases hstray

end Component

end PageTemplate
