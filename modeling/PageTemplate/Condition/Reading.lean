/-
Conditions as they stand in a template: an object with the node's own fields
and, under `group`, the operator and the list of the conditions grouped with
it. What is absent or blank has its default; a blank in place of the object
itself is a wildcard.
-/
import PageTemplate.Condition.Basic

namespace PageTemplate.Condition

/-- The text of an optional field: null counts as absent. -/
def fieldText [Platform] (fields : Dictionary Json) (key : String) : Except ConditionFault String :=
  match fields.get? key with
  | none => .ok ""
  | some .null => .ok ""
  | some value => value.text.mapError .unshown

/-- Whether the node's outcome is turned round. -/
def readNegated [Platform] (fields : Dictionary Json) : Except ConditionFault Bool :=
  match fields.get? "boolNot" with
  | none => .ok false
  | some .null => .ok false
  | some (.bool b) => .ok b
  | some value => do
    let shown ← value.shown.mapError ConditionFault.unshown
    throw (.negationNotTruth shown)

/-- The fields of the group, none if it is blank. -/
def readGroup (fields : Dictionary Json) : Except ConditionFault (Dictionary Json) :=
  match fields.get? "group" with
  | none => .ok []
  | some value =>
    if value.isBlank then .ok []
    else
      match value with
      | .object group => .ok group
      | _ => .error .groupNotObject

/-- The members of a group, none if they are blank. In place of a list may stand something whose parts are
texts: a text with its characters, or an object with its keys. -/
def readMembers (group : Dictionary Json) : Except ConditionFault (List Json) :=
  match group.get? "conditionals" with
  | none => .ok []
  | some value =>
    if value.isBlank then .ok []
    else
      match value with
      | .array items => .ok items
      | .string s => .ok (s.toList.map fun c => .string (String.ofList [c]))
      | .object fields => .ok (Dictionary.keys fields |>.map .string)
      | .bool _ => .error (.conditionsNotList "bool")
      | .int _ => .error (.conditionsNotList "int")
      | .float _ => .error (.conditionsNotList "float")
      | .null => .ok []

/-- The node of a condition's object. -/
def readNode [Platform] (fields group : Dictionary Json) (negated : Bool) :
    Except ConditionFault ConditionNode := do
  let name ← fieldText fields "name"
  let operator ← fieldText fields "operator"
  let literal ← fieldText fields "value"
  let groupOperator ← fieldText group "groupOperator"
  return { name, negated, operator, literal, groupOperator }

/-- Reads a condition, with room for so many inside each other. The members of its group are read before
its node. -/
def read [Platform] : (room : Nat) → Json → Except ConditionFault Condition
  | 0, _ => .error .tooDeep
  | room + 1, value =>
    if value.isBlank then .ok default
    else
      match value with
      | .object fields => do
        let group ← readGroup fields
        let negated ← readNegated fields
        let items ← readMembers group
        let members ← items.mapM (read room)
        let own ← readNode fields group negated
        return .node own members
      | _ => .error .notObject

/-- Reads a condition. -/
def ofJson [Platform] (value : Json) : Except ConditionFault Condition := read Platform.conditionDepth value

end PageTemplate.Condition
