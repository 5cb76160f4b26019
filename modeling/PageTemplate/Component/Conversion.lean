/-
What a property makes of a supplied value: the value itself if it has the type
that the property wants, and a fault that shows the value if not.
-/
import PageTemplate.Calendar.Reading
import PageTemplate.Component.Fault

namespace PageTemplate.Value

variable [Platform]

/-- The fault of a value of the wrong type: what is to show the value may itself fail. -/
def refuseAs {α : Type} (fault : String → SetterFault) (v : Value) : Except SetterFault α := do
  let shown ← v.shown.mapError SetterFault.unshown
  throw (fault shown)

/-- The fault of a value that is not what is wanted. -/
def refuse {α : Type} (v : Value) (wanted : Wanted) : Except SetterFault α :=
  v.refuseAs (.wrongType · wanted)

/-- A text. -/
def asText (v : Value) : Except SetterFault String :=
  match v.text? with
  | some s => .ok s
  | none => v.refuse .text

/-- An integer. -/
def asInteger (v : Value) : Except SetterFault Int :=
  match v.integer? with
  | some i => .ok i
  | none => v.refuse .integer

/-- An integer from 0 to 255. -/
def asByte (v : Value) : Except SetterFault Int :=
  match v.integer? with
  | some i => if 0 ≤ i ∧ i ≤ 255 then .ok i else v.refuse .byte
  | none => v.refuse .byte

/-- A number; too large an integer is a fault of its own. -/
def asDecimal (v : Value) : Except SetterFault Binary64 :=
  match v.number? with
  | some (.ok x) => .ok x
  | some (.error e) => .error (.number e)
  | none => v.refuse .decimal

/-- A symbology, or the name of one. -/
def asSymbology (v : Value) : Except SetterFault Symbology :=
  match v with
  | .symbology s => .ok s
  | .json (.string name) =>
    match Symbology.ofText? name with
    | some s => .ok s
    | none => .error (.unknownSymbology name)
  | _ => v.refuse .symbology

/-- An alignment, or a word for one. -/
def asAlignment (v : Value) : Except SetterFault Alignment :=
  match v with
  | .alignment a => .ok a
  | .json (.string word) => .ok (Alignment.ofText word)
  | _ => v.refuseAs .notAlignment

/-- A moment, or a layout and a text that shows a moment under it. -/
def asMoment (v : Value) : Except SetterFault Calendar.Moment :=
  match v with
  | .moment m => .ok m
  | _ =>
    match v.items? with
    | some [.string layout, .string text] =>
      match Calendar.Moment.parse layout text with
      | .ok m => .ok m
      | .error .mismatch => .error (.momentMismatch text layout)
      | .error (.repeated field) => .error (.repeatedField field)
    | _ => v.refuse .moment

end PageTemplate.Value
