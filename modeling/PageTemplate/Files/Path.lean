/-
Paths in normal form: repeated slashes and the parts that mean the folder
itself are dropped, the parts that mean the folder above are kept, and a path
from the root keeps its one or two slashes.
-/
namespace PageTemplate

/-- A path: the slashes it begins with, none, one or two of them, and its parts. -/
structure Path where
  root : String := ""
  parts : List String := []
  deriving DecidableEq, Inhabited

namespace Path

/-- The root of a path's text: three slashes or more are one. -/
def rootOf (cs : List Char) : String :=
  let slashes := (cs.takeWhile (· == '/')).length
  if slashes = 0 then "" else if slashes = 2 then "//" else "/"

/-- Cuts a list of characters at its slashes. -/
def splitAtSlashes : List Char → List (List Char)
  | [] => [[]]
  | c :: rest =>
    if c = '/' then [] :: splitAtSlashes rest
    else
      match splitAtSlashes rest with
      | [] => [[c]]
      | part :: parts => (c :: part) :: parts

/-- The path that a text writes. -/
def ofText (s : String) : Path :=
  let cs := s.toList
  let parts := (splitAtSlashes cs).filter fun part => part ≠ [] ∧ part ≠ ['.']
  ⟨rootOf cs, parts.map String.ofList⟩

/-- The text of a path; the folder itself is a dot. -/
def text (p : Path) : String :=
  if p.root = "" ∧ p.parts = [] then "." else p.root ++ String.intercalate "/" p.parts

/-- Whether the path starts from the root. -/
def isAbsolute (p : Path) : Bool := p.root != ""

/-- The second path seen from the first; one from the root stays what it is. -/
def join (base p : Path) : Path :=
  if p.isAbsolute then p else ⟨base.root, base.parts ++ p.parts⟩

/-- The last part without its ending: what stands behind its last point, if there is something
before and something behind that point. -/
def stem (p : Path) : String :=
  match p.parts.getLast? with
  | none => ""
  | some name =>
    let cs := name.toList
    let ending := cs.reverse.takeWhile (· != '.')
    let before := cs.length - ending.length - 1
    if ending.length < cs.length ∧ ending ≠ [] ∧ 0 < before then String.ofList (cs.take before)
    else name

end Path

end PageTemplate
