/-
The pattern of a layout: what reading by the layout looks for, written as a
regular expression in which every field is a group of its own name.

Two groups of one name are refused, and the refusal tells the numbers of both
groups and the place of the second name. So the pattern matters here for its
length and for how many groups it opens.
-/
import PageTemplate.Text.Digit
import PageTemplate.Text.Quoted

namespace PageTemplate.Calendar

/-- A piece of a layout. -/
inductive LayoutPiece where
  | letter (c : Char)
  | blanks
  | field (name : Char)
  deriving DecidableEq, Inhabited

/-- What stands in the group of a field. -/
def fieldPattern (name : Char) : String :=
  match name with
  | 'd' => "3[0-1]|[1-2]\\d|0[1-9]|[1-9]| [1-9]"
  | 'f' => "[0-9]\x7b1,6\x7d"
  | 'H' => "2[0-3]|[0-1]\\d|\\d"
  | 'I' => "1[0-2]|0[1-9]|[1-9]"
  | 'G' | 'Y' => "\\d\\d\\d\\d"
  | 'j' =>
    "36[0-6]|3[0-5]\\d|[1-2]\\d\\d|0[1-9]\\d|00[1-9]|[1-9]\\d|0[1-9]|[1-9]"
  | 'm' => "1[0-2]|0[1-9]|[1-9]"
  | 'M' => "[0-5]\\d|\\d"
  | 'S' => "6[0-1]|[0-5]\\d|\\d"
  | 'U' | 'W' => "5[0-3]|[0-4]\\d|\\d"
  | 'w' => "[0-6]"
  | 'u' => "[1-7]"
  | 'V' => "5[0-3]|0[1-9]|[1-4]\\d|\\d"
  | 'y' => "\\d\\d"
  | 'z' => "[+-]\\d\\d:?[0-5]\\d(:?[0-5]\\d(\\.\\d\x7b1,6\x7d)?)?|(?-i:Z)"
  | 'A' => "wednesday|thursday|saturday|tuesday|monday|friday|sunday"
  | 'a' => "mon|tue|wed|thu|fri|sat|sun"
  | 'B' =>
    "september|february|november|december|january|october|august|march|april|june|july|may"
  | 'b' => "jan|feb|mar|apr|may|jun|jul|aug|sep|oct|nov|dec"
  | 'p' => "am|pm"
  | 'Z' => "utc|gmt"
  | _ => ""

/-- How many groups a field opens: its own, and for an offset those of the seconds and of their
fraction. -/
def fieldGroups (name : Char) : Nat := if name = 'z' then 3 else 1

/-- The characters that a pattern marks with a backslash where they stand for themselves. -/
def markedCharacters : List Char := "\\.^$*+?()\x7b\x7d[]|".toList

/-- What stands before the name of a group. -/
def groupStart : String := "(?P<"

namespace LayoutPiece

/-- The pattern of a piece. -/
def pattern : LayoutPiece → String
  | .letter c => if markedCharacters.contains c then String.ofList ['\\', c] else String.ofList [c]
  | .blanks => "\\s+"
  | .field name => groupStart ++ String.ofList [name] ++ ">" ++ fieldPattern name ++ ")"

/-- How many groups a piece opens. -/
def groups : LayoutPiece → Nat
  | .field name => fieldGroups name
  | _ => 0

end LayoutPiece

/-- A field that a layout asks for twice: the number of its second group and of its first, and the
place of the second name in the pattern. -/
structure RepeatedField where
  name : Char
  group : Nat
  firstGroup : Nat
  position : Nat
  deriving DecidableEq, Inhabited

/-- The wording of the refusal. -/
def RepeatedField.message (r : RepeatedField) : String :=
  "redefinition of group name " ++ Text.quoted (String.ofList [r.name]) ++ " as group " ++
    toString r.group ++ "; was group " ++ toString r.firstGroup ++ " at position " ++
    toString r.position

/-- Looks for the first field that is asked for again, from a group number and a place on; `seen` are
the fields so far with their groups. -/
def repeatedFrom (group position : Nat) (seen : List (Char × Nat)) :
    List LayoutPiece → Option RepeatedField
  | [] => none
  | piece :: rest =>
    let next := fun seen =>
      repeatedFrom (group + piece.groups) (position + piece.pattern.length) seen rest
    match piece with
    | .field name =>
      match seen.find? fun (known, _) => known == name with
      | some (_, first) => some ⟨name, group, first, position + groupStart.length⟩
      | none => next ((name, group) :: seen)
    | _ => next seen

/-- The first field that a layout asks for again. -/
def repeatedField? (pieces : List LayoutPiece) : Option RepeatedField := repeatedFrom 1 0 [] pieces

end PageTemplate.Calendar
