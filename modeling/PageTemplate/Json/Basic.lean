/-
JSON values. Whole numbers and decimal numbers are told apart, and an object
remembers the order of its keys.
-/
import PageTemplate.Binary64.Shortest
import PageTemplate.Dictionary
import PageTemplate.Platform.Basic
import PageTemplate.Text.Quoted

namespace PageTemplate

/-- A JSON value. -/
inductive Json where
  | null
  | bool (b : Bool)
  | int (i : Int)
  | float (x : Binary64)
  | string (s : String)
  | array (items : List Json)
  | object (fields : List (String × Json))
  deriving Inhabited

namespace Json

/-- The most digits a whole number may have, where it is read or written. -/
def digitLimit : Nat := 4300

/-- Why a value cannot be shown: a whole number in it has too many digits to be written, or too many values
stand inside each other. -/
inductive ShowFault where
  | tooManyDigits
  | tooDeep
  deriving DecidableEq, Inhabited

/-- The wording of each fault. -/
def ShowFault.message : ShowFault → String
  | .tooManyDigits =>
    "Exceeds the limit (" ++ toString digitLimit ++
      " digits) for integer string conversion; use sys.set_int_max_str_digits() to increase the limit"
  | .tooDeep => "maximum recursion depth exceeded while getting the repr of an object"

mutual

/-- The first thing that keeps a value from being shown, with room for so many values inside each other. -/
def showFault? : (room : Nat) → Json → Option ShowFault
  | 0, _ => some .tooDeep
  | room + 1, value =>
    match value with
    | .int i => if i.natAbs < Nat.pow 10 digitLimit then none else some .tooManyDigits
    | .array items => itemsShowFault? room items
    | .object fields => fieldsShowFault? room fields
    | _ => none

/-- The first thing that keeps the items of an array from being shown. -/
def itemsShowFault? : (room : Nat) → List Json → Option ShowFault
  | _, [] => none
  | room, item :: rest => (showFault? room item).orElse fun _ => itemsShowFault? room rest

/-- The first thing that keeps the fields of an object from being shown. -/
def fieldsShowFault? : (room : Nat) → List (String × Json) → Option ShowFault
  | _, [] => none
  | room, (_, value) :: rest => (showFault? room value).orElse fun _ => fieldsShowFault? room rest

end

/-- The text of a truth value. -/
def boolText (b : Bool) : String := if b then "True" else "False"

mutual

/-- The value as it is shown inside messages. -/
def display : Json → String
  | .null => "None"
  | .bool b => boolText b
  | .int i => toString i
  | .float x => x.toText
  | .string s => Text.quoted s
  | .array items => "[" ++ String.intercalate ", " (displayItems items) ++ "]"
  | .object fields => "\x7b" ++ String.intercalate ", " (displayFields fields) ++ "\x7d"

/-- Each item of an array as it is shown. -/
def displayItems : List Json → List String
  | [] => []
  | item :: rest => item.display :: displayItems rest

/-- Each field of an object as it is shown, key before value. -/
def displayFields : List (String × Json) → List String
  | [] => []
  | (key, value) :: rest => (Text.quoted key ++ ": " ++ value.display) :: displayFields rest

end

/-- The value as it is shown inside messages, if it can be. -/
def shown [Platform] (value : Json) : Except ShowFault String :=
  match value.showFault? Platform.showingDepth with
  | none => .ok value.display
  | some fault => .error fault

/-- The text of the value: a string is its own text, the others are as they are shown. -/
def text [Platform] : Json → Except ShowFault String
  | .string s => .ok s
  | value => value.shown

/-- Whether a value counts as absent: null, false, a zero, and what is empty. -/
def isBlank : Json → Bool
  | .null => true
  | .bool b => !b
  | .int i => i == 0
  | .float x => x.isZero
  | .string s => s == ""
  | .array items => items.isEmpty
  | .object fields => fields.isEmpty

end Json

end PageTemplate
