/-
The target of an entry point, as it is written: the name of a module, then
perhaps a colon and a path to a member of it, then perhaps extras in square
brackets, which do not count. Blanks may stand behind each of them, and before
the path.
-/
import PageTemplate.Text.Blank
import PageTemplate.Text.Word

namespace PageTemplate

/-- What an entry point leads to: a module, and the names on the path to a member of it. An empty path
leads to the module itself. -/
structure Target where
  module : String
  path : List String := []
  deriving DecidableEq, Inhabited

namespace Target

/-- Whether a character may stand in a dotted name. -/
def isNameCharacter (c : Char) : Bool := Text.isWord c || c == '.'

/-- The dotted name that a text begins with, and what is behind it and the blanks after it. -/
def splitName (cs : List Char) : List Char × List Char :=
  (cs.takeWhile isNameCharacter, (cs.dropWhile isNameCharacter).dropWhile Text.isBlank)

/-- Whether a text is nothing at all, or extras: square brackets around anything on one line. -/
def isExtras (cs : List Char) : Bool :=
  cs == [] ||
    cs.head? == some '[' &&
      match (cs.drop 1).reverse.dropWhile Text.isBlank with
      | ']' :: inside => !inside.contains '\n'
      | _ => false

/-- The names between the points of a dotted name. Empty ones are passed over. -/
def names (cs : List Char) : List String :=
  ((String.ofList cs).splitOn ".").filter (· != "")

/-- The target that a text writes. -/
def ofText? (s : String) : Option Target :=
  match splitName s.toList with
  | ([], _) => none
  | (module, ':' :: rest) =>
    match splitName (rest.dropWhile Text.isBlank) with
    | ([], _) => none
    | (path, rest) => if isExtras rest then some ⟨String.ofList module, names path⟩ else none
  | (module, rest) => if isExtras rest then some ⟨String.ofList module, []⟩ else none

end Target

end PageTemplate
