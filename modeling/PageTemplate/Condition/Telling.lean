/-
What the journal tells when a condition learns a value: one entry for each
comparison that was made, up to the first that failed.
-/
import PageTemplate.Condition.Basic
import PageTemplate.Journal
import PageTemplate.Text.Quoted

namespace PageTemplate

variable [Platform]

/-- The entry of a node that compared its variable; a node that did not compare has none. The truth
value tells whether the node could be set. -/
def ConditionNode.entries (n : ConditionNode) (name : String) (value : Value) :
    List JournalEntry × Bool :=
  match n.set name value with
  | .error _ => ([], false)
  | .ok after =>
    if n.name = name && !(n.isWildcard && !n.isSet) then
      ([.debug "conditional" ("condition " ++ n.name ++ " " ++ n.operator ++ " " ++
        Text.quoted n.literal ++ " evaluated to " ++ Json.boolText after.holds)], true)
    else ([], true)

namespace Condition

mutual

/-- The entries of a whole condition, those of its group first, and whether it could be set. -/
def entries (name : String) (value : Value) : Condition → List JournalEntry × Bool
  | .node own group =>
    match entriesOfEach name value group with
    | (told, false) => (told, false)
    | (told, true) =>
      let (more, done) := own.entries name value
      (told ++ more, done)

/-- The entries of several conditions. -/
def entriesOfEach (name : String) (value : Value) : List Condition → List JournalEntry × Bool
  | [] => ([], true)
  | c :: rest =>
    match entries name value c with
    | (told, false) => (told, false)
    | (told, true) =>
      let (more, done) := entriesOfEach name value rest
      (told ++ more, done)

end

end Condition

end PageTemplate
