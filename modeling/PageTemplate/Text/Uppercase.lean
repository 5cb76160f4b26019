/-
Capitals, one character for one: a letter whose capital takes more than one
character stays as it is.
-/
import PageTemplate.Text.UppercaseTable

namespace PageTemplate.Text

/-- The capital of a letter, if it is a single character. -/
def upperChar (c : Char) : Char :=
  let n := c.toNat
  let run := upperRuns.find? fun (first, last, step, _) =>
    first ≤ n && n ≤ last && (n - first) % step == 0
  match run with
  | some (_, _, _, offset) => Char.ofNat ((n : Int) + offset).toNat
  | none => c

end PageTemplate.Text
