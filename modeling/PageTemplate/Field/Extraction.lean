/-
Reading template fields: a field is a literal, which has a value at once, or a
single variable, which lets the property wait in the slot map.

Of several exclusive fields exactly one has to be readable; the others leave
no trace.
-/
import PageTemplate.Field.Literal
import PageTemplate.Field.Slots

namespace PageTemplate

/-- A field to be read: its text, the property it is for, and how a literal is read. -/
structure Candidate (α : Type) where
  text : String
  property : String
  read : String → Except FieldFault α

namespace Candidate

variable {α : Type}

/-- The field's value, or none if a variable stands there, with the slots then. -/
def extract (c : Candidate α) (slots : SlotMap) : Except FieldFault (SlotMap × Option α) :=
  match Segments.parse c.text with
  | .error fault => .error (.malformed c.property fault)
  | .ok segments =>
    if segments.hasVariables then
      match segments.single? with
      | some awaited => .ok (slots.add awaited c.property, none)
      | none => .error (.composite c.text)
    else (c.read c.text).map fun value => (slots, some value)

/-- Whether a fault only means that an exclusive field is not the one that is set. Too long an
integer is another matter. -/
def isUnset : FieldFault → Bool
  | .tooManyDigits _ => false
  | _ => true

/-- What each candidate gives on its own, with its place: nothing for those that are not set. -/
def outcomes (place : Nat) :
    List (Candidate α) → Except FieldFault (List (Nat × SlotMap × Option α))
  | [] => .ok []
  | c :: rest =>
    match c.extract [] with
    | .ok (slots, value) => (outcomes (place + 1) rest).map ((place, slots, value) :: ·)
    | .error fault => if isUnset fault then outcomes (place + 1) rest else .error fault

/-- The one candidate that is set: its place, its value, and the slots with what it added. -/
def extractExclusive (candidates : List (Candidate α)) (slots : SlotMap) :
    Except FieldFault (SlotMap × Option α × Nat) :=
  match outcomes 0 candidates with
  | .error fault => .error fault
  | .ok [(place, added, value)] => .ok (slots.merge added, value, place)
  | .ok _ => .error (.notExclusive (candidates.map (·.property)))

end Candidate

end PageTemplate
