/-
Conditions that decide whether a component is drawn. A condition is a tree:
each node compares one variable with a literal, and may combine the outcome
with those of further conditions. A node without a variable is a wildcard; the
first value that arrives, of whatever variable, makes it true.

`set` tells a tree the value of a variable, and `validate` asks for the
outcome, which is an error while a node still lacks its value.
-/
import PageTemplate.Condition.Comparison

namespace PageTemplate

/-- What a node says on its own, and what it knows so far: whether it has seen a value, and whether
its comparison held. The words for the comparison and for the group are kept as they were written,
for a wrong one only matters when it is used. -/
structure ConditionNode where
  name : String := ""
  negated : Bool := false
  operator : String := ""
  literal : String := ""
  groupOperator : String := ""
  isSet : Bool := false
  holds : Bool := false
  deriving DecidableEq, Inhabited

/-- A condition: a node and the conditions that are grouped with it. -/
inductive Condition where
  | node (own : ConditionNode) (group : List Condition)
  deriving Inhabited

/-- How a node and the conditions of its group are combined. -/
inductive GroupOperator where
  | all
  | any
  | notAll
  | notAny
  | exactlyOne
  deriving DecidableEq, Inhabited

namespace GroupOperator

/-- The operator that a word names. -/
def ofWord? (word : String) : Option GroupOperator :=
  if word = "and" then some .all
  else if word = "or" then some .any
  else if word = "nand" then some .notAll
  else if word = "nor" then some .notAny
  else if word = "xor" then some .exactlyOne
  else none

/-- Combines the truth of a node with those of its group. -/
def combine (operator : GroupOperator) (own : Bool) (group : List Bool) : Bool :=
  let truths := own :: group
  match operator with
  | .all => truths.all id
  | .any => truths.any id
  | .notAll => !truths.all id
  | .notAny => !truths.any id
  | .exactlyOne => truths.count true == 1

end GroupOperator

namespace ConditionNode

/-- Whether the node compares no variable. -/
def isWildcard (n : ConditionNode) : Bool := n.name == ""

/-- The truth of the node's comparison for a value, turned round if the node is negated. -/
def compare [Platform] (n : ConditionNode) (value : Value) : Except ConditionFault Bool :=
  match Comparison.ofWord? n.operator with
  | none => .error (.unknownOperator n.operator)
  | some comparison =>
    (comparison.holds value n.literal).map fun truth => if n.negated then !truth else truth

/-- What the node knows once a variable has a value. -/
def set [Platform] (n : ConditionNode) (name : String) (value : Value) : Except ConditionFault ConditionNode :=
  if n.isWildcard && !n.isSet then .ok { n with isSet := true, holds := true }
  else if n.name ≠ name then .ok n
  else (n.compare value).map fun truth => { n with isSet := true, holds := truth }

end ConditionNode

namespace Condition

/-- The node at the root. -/
def own : Condition → ConditionNode
  | .node own _ => own

/-- The conditions grouped with the root. -/
def group : Condition → List Condition
  | .node _ group => group

/-- The condition that a template does not give: a wildcard. -/
def default : Condition := .node {} []

section

variable [Platform]

mutual

/-- Tells every node of the tree the value of a variable, the group of a node before the node. -/
def set (name : String) (value : Value) : Condition → Except ConditionFault Condition
  | .node own group =>
    match setEach name value group with
    | .error fault => .error fault
    | .ok group =>
      match own.set name value with
      | .error fault => .error fault
      | .ok own => .ok (.node own group)

/-- Tells each of several conditions the value of a variable. -/
def setEach (name : String) (value : Value) : List Condition → Except ConditionFault (List Condition)
  | [] => .ok []
  | c :: rest =>
    match set name value c with
    | .error fault => .error fault
    | .ok c =>
      match setEach name value rest with
      | .error fault => .error fault
      | .ok rest => .ok (c :: rest)

end

/-- Tells the tree the values of several variables, one after the other. -/
def setAll (c : Condition) (values : Dictionary Value) : Except ConditionFault Condition :=
  values.foldlM (fun c (name, value) => c.set name value) c

end

mutual

/-- The outcome of the condition. Every condition of a group is asked, whatever the others say. -/
def validate : Condition → Except ConditionFault Bool
  | .node own group =>
    if !own.isWildcard && !own.isSet then
      .error (.valueMissing own.name own.operator own.literal)
    else if group.isEmpty then .ok own.holds
    else
      match GroupOperator.ofWord? own.groupOperator with
      | none => .error (.unknownGroupOperator own.groupOperator)
      | some operator => (validateEach group).map (operator.combine own.holds)

/-- The outcomes of several conditions. -/
def validateEach : List Condition → Except ConditionFault (List Bool)
  | [] => .ok []
  | c :: rest =>
    match validate c with
    | .error fault => .error fault
    | .ok truth =>
      match validateEach rest with
      | .error fault => .error fault
      | .ok truths => .ok (truth :: truths)

end

mutual

/-- The variables of all nodes, a node before its group, as often as they occur. -/
def occurringNames : Condition → List String
  | .node own group => (if own.isWildcard then [] else [own.name]) ++ occurringNamesOfEach group

/-- The variables of several conditions. -/
def occurringNamesOfEach : List Condition → List String
  | [] => []
  | c :: rest => occurringNames c ++ occurringNamesOfEach rest

end

/-- The names of the variables, each once, in code point order. -/
def names (c : Condition) : List String := Text.sorted c.occurringNames.eraseDups

end Condition

end PageTemplate
