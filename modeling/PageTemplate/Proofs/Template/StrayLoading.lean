/-
Loading a document and stray faults. A document that cannot be loaded is refused
with a fault of the template, but for few causes (`Builder.load_stray_iff`): those
of the document itself, of its base image, of a condition and of a component
(`Builder.LoadStrays`).
-/
import PageTemplate.Platform.Plain
import PageTemplate.Proofs.Condition.Straying
import PageTemplate.Proofs.Registry.Registering
import PageTemplate.Proofs.Template.Loading
import PageTemplate.Proofs.Template.StrayBackground

namespace PageTemplate

namespace Builder

/-- Why a document is not read for which the template does not answer: a number with too many digits,
arrays and objects nested too deep, bytes that are no text, and a surrogate that stands alone. -/
inductive Unread : Json.DocumentError → Prop
  | digits (count : Nat) : Unread (.tooManyDigits count)
  | depth (container : Json.Container) : Unread (.tooDeep container)
  | bytes (e : Text.DecodingError) : Unread (.undecodable e)
  | surrogate (offset : Nat) : Unread (.loneSurrogate offset)

section

variable [Platform]

/-- The stray faults of loading a document, for what the document was decoded to. -/
inductive LoadStrays (around : Surroundings) (b : Builder) : Except Json.DocumentError Json → Fault → Prop
  | document {e : Json.DocumentError} : Unread e → LoadStrays around b (.error e) (.template (.document e))
  | background {fields image : Dictionary Json} {fault : BackgroundFault} :
      fields.get? "baseImage" = some (.object image) →
        Background.Strays around.files b.settings b.canvas image fault →
          LoadStrays around b (.ok (.object fields)) (.background fault)
  | condition {fields entry : Dictionary Json} {entries : List Json} {fault : ConditionFault} :
      fields.get? "components" = some (.array entries) → .object entry ∈ entries →
        Condition.ReadStrays Platform.conditionDepth ((entry.get? "conditional").getD .null) fault →
          LoadStrays around b (.ok (.object fields)) (.condition fault)
  | component {fields entry : Dictionary Json} {entries : List Json} {name : String} {type : ComponentType}
      {fault : Fault} :
      fields.get? "components" = some (.array entries) → .object entry ∈ entries →
        (entry.get? "type").getD (.string "") = .string name → b.registry.get name = .ok type →
          Component.LoadStrays around.files b.settings type.kind (entryProperties entry) fault →
            LoadStrays around b (.ok (.object fields)) fault

variable {around : Surroundings} {b : Builder}

theorem LoadStrays.isStray {decoded : Except Json.DocumentError Json} {fault : Fault}
    (h : LoadStrays around b decoded fault) : fault.IsStray := by
  cases h with
  | document hunread => cases hunread <;> rfl
  | background _ hfault => exact hfault.isStray
  | condition _ _ hfault => exact hfault.isStray
  | component _ _ _ _ hfault => exact hfault.isStray

theorem straysOnly_loadEntry {fields : Dictionary Json} {entries : List Json}
    (hentries : fields.get? "components" = some (.array entries)) (place : Nat) {entry : Json}
    (hentry : entry ∈ entries) :
    Act.StraysOnly (LoadStrays around b (.ok (.object fields)))
      (loadEntry around b.registry b.settings place entry) := by
  unfold loadEntry
  split
  · rename_i entry
    refine Act.StraysOnly.bind ?_ fun type s t htype => ?_
    · refine Act.straysOnly_ofExcept fun e he hstray => ?_
      unfold entryType at he
      split at he
      · split at he <;> cases he
        cases hstray
      · cases he
        cases hstray
    refine Act.StraysOnly.bind ?_ fun condition _ _ _ => ?_
    · refine Act.straysOnly_ofExcept fun e he hstray => ?_
      exact .condition hentries hentry (Condition.read_stray he hstray)
    refine Act.StraysOnly.bind ?_ fun component _ _ _ =>
      (Act.straysOnly_tell _).bind fun _ _ _ _ => Act.straysOnly_pure _
    have htype := (Act.outcome_ofExcept_ok.1 htype).1
    unfold entryType at htype
    split at htype
    · rename_i name hname
      split at htype <;> cases htype
      rename_i hget
      exact (Component.straysOnly_load around.now).mono fun fault hfault =>
        .component hentries hentry hname hget hfault
    · cases htype
  · exact Act.straysOnly_throw fun hstray => by cases hstray

theorem straysOnly_loadEntries {fields : Dictionary Json} {entries : List Json}
    (hentries : fields.get? "components" = some (.array entries)) (place : Nat) {rest : List Json}
    (hrest : ∀ entry ∈ rest, entry ∈ entries) :
    Act.StraysOnly (LoadStrays around b (.ok (.object fields)))
      (loadEntries around b.registry b.settings place rest) := by
  induction rest generalizing place with
  | nil => exact Act.straysOnly_pure _
  | cons entry rest ih =>
    obtain ⟨hentry, hrest⟩ := List.forall_mem_cons.1 hrest
    exact (straysOnly_loadEntry hentries place hentry).bind fun _ _ _ _ =>
      (ih (place + 1) hrest).bind fun _ _ _ _ => Act.straysOnly_pure _

theorem straysOnly_loadDocument (document : Json) :
    Act.StraysOnly (LoadStrays around b (.ok document)) (b.loadDocument around document) := by
  unfold loadDocument
  split
  · rename_i fields
    refine Act.StraysOnly.bind ?_ fun page _ _ _ => (Act.straysOnly_tell _).bind fun _ _ _ _ => ?_
    · refine Act.straysOnly_ofExcept fun e he hstray => ?_
      obtain ⟨image, himage, hfault⟩ := Background.apply_stray he hstray
      refine .background ?_ hfault
      cases hgiven : Dictionary.get? fields "baseImage" with
      | some given => simpa [hgiven] using himage
      | none => simp [hgiven] at himage
    refine Act.StraysOnly.bind ?_ fun entries s t hentries => ?_
    · refine Act.straysOnly_ofExcept fun e he hstray => ?_
      unfold documentEntries at he
      split at he
      · cases he
      · split at he
        · cases he
        · split at he <;> cases he
          cases hstray
    refine Act.StraysOnly.bind ?_ fun _ _ _ _ =>
      (Act.straysOnly_tell _).bind fun _ _ _ _ => Act.straysOnly_pure _
    have hentries := (Act.outcome_ofExcept_ok.1 hentries).1
    unfold documentEntries at hentries
    split at hentries
    · cases hentries
      exact Act.straysOnly_pure _
    · rename_i value hvalue
      split at hentries
      · cases hentries
        exact Act.straysOnly_pure _
      · split at hentries <;> cases hentries
        exact straysOnly_loadEntries hvalue 0 fun _ h => h
  · exact Act.straysOnly_throw fun hstray => by cases hstray

theorem straysOnly_loadDecoded (decoded : Except Json.DocumentError Json) :
    Act.StraysOnly (LoadStrays around b decoded) (ofDecoded decoded >>= b.loadDocument around) := by
  refine Act.StraysOnly.bind ?_ fun document s t hdecoded => ?_
  · refine Act.straysOnly_ofExcept fun e he hstray => ?_
    rw [he]
    refine .document ?_
    cases e with
    | malformed => cases hstray
    | tooManyDigits count => exact .digits count
    | tooDeep container => exact .depth container
    | undecodable e => exact .bytes e
    | loneSurrogate offset => exact .surrogate offset
  · rw [(Act.outcome_ofExcept_ok.1 hdecoded).1]
    exact straysOnly_loadDocument document

end

/-- Nothing is loaded yet, and there is no page. -/
def unloaded : Builder := { registry := Registry.builtin, settings := {} }

/-- A circle under a condition whose group has something else in place of its conditions. -/
def unlistedText : String :=
  "\x7b\"components\": [\x7b\"type\": \"circle\", \"conditional\": " ++
    "\x7b\"group\": \x7b\"conditionals\": 5\x7d\x7d\x7d]\x7d"

/-- Documents that are refused with faults for which the template does not answer, each with the kind of its
fault: a number in place of conditions, and base64 text outside ASCII. -/
def strayTexts : List (String × FaultKind) := [
  (unlistedText, .type),
  ("\x7b\"baseImage\": \x7b\"data\": \"é\"\x7d\x7d", .value)]

end Builder

end PageTemplate
