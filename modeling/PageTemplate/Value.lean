/-
The values that a caller supplies for a template's variables: JSON values, and
values of a few further types that JSON has no words for.

A text is made of characters, and half of a surrogate pair is none: a document
that holds one is refused where it is read, and no value holds one.
-/
import PageTemplate.Calendar.Iso
import PageTemplate.Drawing.Alignment
import PageTemplate.Drawing.Symbology
import PageTemplate.Json.Basic

namespace PageTemplate

/-- A value for a variable. A readable file is known by a number, for it can be read only once. -/
inductive Value where
  | json (value : Json)
  | tuple (items : List Json)
  | bytes (content : List UInt8)
  | file (number : Nat) (content : List UInt8)
  | moment (m : Calendar.Moment)
  | alignment (a : Alignment)
  | symbology (s : Symbology)
  deriving Inhabited

namespace Value

/-- The value of a text. -/
def text (s : String) : Value := .json (.string s)

/-- The items of a tuple as they are shown: a single one is followed by a comma. -/
def displayTuple (items : List Json) : String :=
  match items with
  | [item] => "(" ++ item.display ++ ",)"
  | _ => "(" ++ String.intercalate ", " (items.map Json.display) ++ ")"

/-- The value as it is shown inside messages. -/
def display : Value → String
  | .json value => value.display
  | .tuple items => displayTuple items
  | .bytes content => Text.quotedBytes content
  | .file _ _ => "<_io.BytesIO object>"
  | .moment m => m.display
  | .alignment a => a.display
  | .symbology s => s.display

/-- The first thing that keeps the value from being shown, with room for so many values inside each other. -/
def showFault? (room : Nat) : Value → Option Json.ShowFault
  | .json value => value.showFault? room
  | .tuple items => if room = 0 then some .tooDeep else Json.itemsShowFault? (room - 1) items
  | _ => none

/-- The value as it is shown inside messages, if it can be. -/
def shown [Platform] (v : Value) : Except Json.ShowFault String :=
  match v.showFault? Platform.showingDepth with
  | none => .ok v.display
  | some fault => .error fault

theorem shown_error_iff [Platform] {v : Value} {fault : Json.ShowFault} :
    v.shown = .error fault ↔ v.showFault? Platform.showingDepth = some fault := by
  unfold shown
  cases v.showFault? Platform.showingDepth <;> simp [eq_comm]

/-- The text of a value that is one. -/
def text? : Value → Option String
  | .json (.string s) => some s
  | _ => none

/-- The integer of a value that is one; a truth value is none. -/
def integer? : Value → Option Int
  | .json (.int i) => some i
  | _ => none

/-- The items of a value that is a list of some sort. -/
def items? : Value → Option (List Json)
  | .json (.array items) => some items
  | .tuple items => some items
  | _ => none

/-- The number of a value that is one, as binary64; too large an integer has none. -/
def number? : Value → Option (Except ArithmeticError Binary64)
  | .json (.int i) => some (Binary64.ofInt i)
  | .json (.float x) => some (.ok x)
  | _ => none

end Value

end PageTemplate
