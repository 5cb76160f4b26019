/-
Placing a text inside the width it may take: at its left, at its right or in
the middle.
-/
import PageTemplate.Binary64.Arithmetic
import PageTemplate.Binary64.Integer

namespace PageTemplate

/-- Where a text stands inside its width. -/
inductive Alignment where
  | left
  | right
  | centre
  deriving DecidableEq, Inhabited

namespace Alignment

/-- The word for an alignment. -/
def word : Alignment → String
  | .left => "left"
  | .right => "right"
  | .centre => "centre"

/-- The alignment that a word names; any other word means left. -/
def ofText (s : String) : Alignment :=
  if s = "right" then .right else if s = "centre" then .centre else .left

/-- The alignment as it is shown inside messages. -/
def display (a : Alignment) : String :=
  let name := match a with
    | .left => "LEFT"
    | .right => "RIGHT"
    | .centre => "CENTRE"
  "<Alignment." ++ name ++ ": '" ++ a.word ++ "'>"

/-- How far a text moves to the right, given how much of its width it leaves free. Half of that is
taken in binary64 and cut to an integer. -/
def offset (a : Alignment) (slack : Int) : Except ArithmeticError Int :=
  match a with
  | .left => .ok 0
  | .right => .ok slack
  | .centre => do
    let half ← Binary64.ofQuotient slack 2
    half.truncate

/-- The same for a free width that need not be whole. -/
def offsetIn (a : Alignment) (slack : Binary64) : Except ArithmeticError Int :=
  match a with
  | .left => .ok 0
  | .right => slack.truncate
  | .centre => (slack.div (Binary64.ofRatio false 2 1)).truncate

theorem ofText_word (a : Alignment) : ofText a.word = a := by cases a <;> rfl

end Alignment

end PageTemplate
