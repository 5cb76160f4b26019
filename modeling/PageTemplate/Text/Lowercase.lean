/-
Lower-casing of whole texts. Every character has a simple lower-case form but
two: a capital I with a dot becomes two characters, and a capital sigma looks
at its neighbours, for at the end of a word it takes its final form.
-/
import PageTemplate.Text.CaseTable
import PageTemplate.Text.Printable

namespace PageTemplate.Text

/-- The lower-case form of one character outside any text. -/
def lowerChar (c : Char) : Char :=
  let n := c.toNat
  let run := lowerRuns.find? fun (first, last, step, _) =>
    first ≤ n && n ≤ last && (n - first) % step == 0
  match run with
  | some (_, _, _, offset) => Char.ofNat ((n : Int) + offset).toNat
  | none => c

/-- Whether the first character that counts, from here on, is a cased one. -/
def casedAhead (cs : List Char) : Bool :=
  match cs.dropWhile fun c => inRanges caseIgnorableRanges c.toNat with
  | [] => false
  | c :: _ => inRanges casedRanges c.toNat

/-- Lower-cases a text of which `before`, nearest character first, has been read. -/
def lowerFrom (before : List Char) : List Char → List Char
  | [] => []
  | c :: rest =>
    let here :=
      if c = '\u0130' then ['i', '\u0307']
      else if c = '\u03A3' then
        [if casedAhead before && !casedAhead rest then '\u03C2' else '\u03C3']
      else [lowerChar c]
    here ++ lowerFrom (c :: before) rest

/-- The text in lower case. -/
def lower (s : String) : String := String.ofList (lowerFrom [] s.toList)

end PageTemplate.Text
