/-
Comparing the value of a variable with the literal of a condition, as texts or
as binary64 numbers. Which comparison is meant is told by a word; the word of a
comparison of texts may ask, by `ci_` in front, that case shall not count.
-/
import PageTemplate.Binary64.Order
import PageTemplate.Binary64.Reading
import PageTemplate.Text.Lowercase
import PageTemplate.Text.Order
import PageTemplate.Value

namespace PageTemplate

/-- How two texts are compared. -/
inductive TextRelation where
  | equals
  | contains
  | startsWith
  | endsWith
  deriving DecidableEq, Inhabited

/-- How two numbers are compared. -/
inductive NumberRelation where
  | equal
  | less
  | greater
  | lessOrEqual
  | greaterOrEqual
  deriving DecidableEq, Inhabited

/-- A comparison: of texts, with or without regard to case, or of numbers. -/
inductive Comparison where
  | texts (relation : TextRelation) (ignoreCase : Bool)
  | numbers (relation : NumberRelation)
  deriving DecidableEq, Inhabited

/-- Why a condition cannot be read, compared or decided. -/
inductive ConditionFault where
  | notObject
  | groupNotObject
  | negationNotTruth (shown : String)
  | conditionsNotList (typeName : String)
  | valueNotText (shown : String)
  | valueNotNumber (shown : String)
  | literalNotNumber (literal : String)
  | number (e : ArithmeticError)
  | unshown (fault : Json.ShowFault)
  | tooDeep
  | unknownOperator (word : String)
  | valueMissing (name word literal : String)
  | unknownGroupOperator (word : String)
  deriving DecidableEq, Inhabited

/-- The wording of each fault. -/
def ConditionFault.message : ConditionFault → String
  | .notObject => "conditional must be a JSON object."
  | .groupNotObject => "conditional group must be a JSON object."
  | .negationNotTruth shown => "conditional boolNot must be true or false: " ++ shown
  | .conditionsNotList typeName => "'" ++ typeName ++ "' object is not iterable"
  | .valueNotText shown => "invalid value for string operator: " ++ shown
  | .valueNotNumber shown => "invalid value for float operator: " ++ shown
  | .literalNotNumber literal => "failed to convert conditional value to float: " ++ literal
  | .number e => e.message
  | .unshown fault => fault.message
  | .tooDeep => "maximum recursion depth exceeded"
  | .unknownOperator word => "invalid conditional operator " ++ word
  | .valueMissing name word literal =>
    "attempted to validate conditional " ++ name ++ " " ++ word ++ " " ++ literal ++
      " without setting " ++ name
  | .unknownGroupOperator word => "invalid group operator " ++ word

/-- The relation of texts that a word names. -/
def TextRelation.ofWord? (word : List Char) : Option TextRelation :=
  if word = "equals".toList then some .equals
  else if word = "contains".toList then some .contains
  else if word = "startswith".toList then some .startsWith
  else if word = "endswith".toList then some .endsWith
  else none

/-- The relation of numbers that a word names. -/
def NumberRelation.ofWord? (word : List Char) : Option NumberRelation :=
  if word = ['=', '='] then some .equal
  else if word = ['<'] then some .less
  else if word = ['>'] then some .greater
  else if word = ['<', '='] then some .lessOrEqual
  else if word = ['>', '='] then some .greaterOrEqual
  else none

/-- Whether a text stands in a relation to a literal. -/
def TextRelation.holds (relation : TextRelation) (subject literal : String) : Bool :=
  let subject := subject.toList
  let literal := literal.toList
  match relation with
  | .equals => subject == literal
  | .contains => Text.occursIn literal subject
  | .startsWith => literal.isPrefixOf subject
  | .endsWith => literal.isSuffixOf subject

/-- Whether a number stands in a relation to a literal one; to a NaN it stands in none. -/
def NumberRelation.holds (relation : NumberRelation) (subject literal : Binary64) : Bool :=
  match relation with
  | .equal => subject.eq literal
  | .less => subject.lt literal
  | .greater => literal.lt subject
  | .lessOrEqual => subject.le literal
  | .greaterOrEqual => literal.le subject

namespace Comparison

/-- The comparison that a word names. -/
def ofWord? (word : String) : Option Comparison :=
  let cs := word.toList
  if ['c', 'i', '_'].isPrefixOf cs then (TextRelation.ofWord? (cs.drop 3)).map (.texts · true)
  else
    match TextRelation.ofWord? cs with
    | some relation => some (.texts relation false)
    | none => (NumberRelation.ofWord? cs).map .numbers

/-- Whether a text compares with a literal. -/
def holdsForText (relation : TextRelation) (ignoreCase : Bool) (subject literal : String) : Bool :=
  if ignoreCase then relation.holds (Text.lower subject) (Text.lower literal)
  else relation.holds subject literal

/-- The fault of a value that cannot be compared. -/
def refuse [Platform] (fault : String → ConditionFault) (value : Value) : Except ConditionFault Bool := do
  let shown ← value.shown.mapError ConditionFault.unshown
  throw (fault shown)

/-- Whether a value compares with a literal. A comparison of numbers looks at the type of the value
first, then at the literal, and only then at the size of the value. -/
def holds [Platform] (c : Comparison) (value : Value) (literal : String) : Except ConditionFault Bool :=
  match c with
  | .texts relation ignoreCase =>
    match value.text? with
    | some subject => .ok (holdsForText relation ignoreCase subject literal)
    | none => refuse .valueNotText value
  | .numbers relation =>
    match value.number? with
    | none => refuse .valueNotNumber value
    | some number =>
      match Binary64.ofLiteral? literal with
      | none => .error (.literalNotNumber literal)
      | some bound =>
        match number with
        | .ok subject => .ok (relation.holds subject bound)
        | .error e => .error (.number e)

end Comparison

end PageTemplate
