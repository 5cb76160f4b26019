/-
The raw text of a template field: literal stretches with variable references
`$name$` between them. A doubled dollar inside a literal stands for one.

`Segments.parse` reads a text and `Segments.reconstruct` writes it again.
-/
namespace PageTemplate

/-- A field text taken apart. Each variable is followed by a literal, possibly empty, so there is
always one literal more than there are variables. -/
structure Segments where
  first : List Char
  rest : List (List Char × List Char)
  deriving DecidableEq, Inhabited

/-- Why a text is no field text. -/
inductive SegmentFault where
  | empty
  | unclosed (text : String)
  deriving DecidableEq, Inhabited

/-- The wording of each fault. -/
def SegmentFault.message : SegmentFault → String
  | .empty => "could not parse empty property"
  | .unclosed text => "unclosed named property in '" ++ text ++ "'"

namespace Segments

/-- The literals, in order. -/
def literals (s : Segments) : List String :=
  String.ofList s.first :: s.rest.map fun (_, literal) => String.ofList literal

/-- The variables, in order. -/
def names (s : Segments) : List String := s.rest.map fun (name, _) => String.ofList name

/-- Whether there is any variable. -/
def hasVariables (s : Segments) : Bool := !s.rest.isEmpty

/-- The variable that makes up the whole field, if one does. -/
def single? (s : Segments) : Option String :=
  match s.first, s.rest with
  | [], [(name, [])] => some (String.ofList name)
  | _, _ => none

/-- Puts a character before the first literal. -/
def push (c : Char) (s : Segments) : Segments := { s with first := c :: s.first }

/-- Puts a variable before the first literal. -/
def reference (name : List Char) (s : Segments) : Segments := ⟨[], (name, s.first) :: s.rest⟩

/-- Takes a text apart. Inside a reference the characters of its name so far are kept, the last one
first. -/
def scan : Option (List Char) → List Char → Option Segments
  | none, [] => some ⟨[], []⟩
  | some _, [] => none
  | none, c :: cs => if c = '$' then scan (some []) cs else (scan none cs).map (push c)
  | some name, c :: cs =>
    if c = '$' then
      (scan none cs).map (if name = [] then push '$' else reference name.reverse)
    else scan (some (c :: name)) cs

/-- Takes a field text apart. -/
def parse (text : String) : Except SegmentFault Segments :=
  if text = "" then .error .empty
  else
    match scan none text.toList with
    | some s => .ok s
    | none => .error (.unclosed text)

/-- A literal with its dollars doubled. -/
def escape (literal : List Char) : List Char :=
  literal.flatMap fun c => if c = '$' then ['$', '$'] else [c]

/-- The characters of the field text again. -/
def reconstructed (s : Segments) : List Char :=
  escape s.first ++ s.rest.flatMap fun (name, literal) => '$' :: name ++ '$' :: escape literal

/-- The field text again. -/
def reconstruct (s : Segments) : String := String.ofList s.reconstructed

end Segments

end PageTemplate
