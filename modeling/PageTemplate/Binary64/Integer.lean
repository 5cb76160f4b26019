/-
Between integers and binary64 numbers: the conversions, the quotient of two
integers and the roundings to an integer, each with the one reason for which
it can fail.
-/
import PageTemplate.Binary64.Order

namespace PageTemplate

/-- Why a computation that mixes integers and binary64 numbers has no result. -/
inductive ArithmeticError where
  | integerTooLarge
  | quotientTooLarge
  | divisionByZero
  | infinityToInteger
  | nanToInteger
  deriving DecidableEq, Inhabited

/-- The wording of each failure. -/
def ArithmeticError.message : ArithmeticError → String
  | .integerTooLarge => "int too large to convert to float"
  | .quotientTooLarge => "integer division result too large for a float"
  | .divisionByZero => "division by zero"
  | .infinityToInteger => "cannot convert float infinity to integer"
  | .nanToInteger => "cannot convert float NaN to integer"

namespace Binary64

/-- A number that was rounded to, with the reason that there is none where it is beyond the range. -/
def within (reason : ArithmeticError) : Binary64 → Except ArithmeticError Binary64
  | .infinity _ => .error reason
  | x => .ok x

/-- The number nearest to an integer, if the integer is within range. -/
def ofInt (i : Int) : Except ArithmeticError Binary64 :=
  within .integerTooLarge (ofRatio (decide (i < 0)) i.natAbs 1)

/-- The number nearest to the exact quotient of two integers, however large they are. -/
def ofQuotient (a b : Int) : Except ArithmeticError Binary64 :=
  if b = 0 then .error .divisionByZero
  else within .quotientTooLarge (ofRatio (decide (a < 0) != decide (b < 0)) a.natAbs b.natAbs)

/-- An integer function of the value, given by what it does to a magnitude in units of `2^-1074`
under either sign. -/
def toIntBy (round : Bool → Nat → Nat) : Binary64 → Except ArithmeticError Int
  | .nan => .error .nanToInteger
  | .infinity _ => .error .infinityToInteger
  | x@(.finite n ..) =>
    let result := round n x.magnitude
    .ok (if n then -(result : Int) else (result : Int))

/-- The integer part, toward zero. -/
def truncate : Binary64 → Except ArithmeticError Int := toIntBy fun _ k => k / pow2 1074

/-- The least integer that is not below the value. -/
def ceil : Binary64 → Except ArithmeticError Int :=
  toIntBy fun n k => if n then k / pow2 1074 else (k + (pow2 1074 - 1)) / pow2 1074

/-- The nearest integer, ties to even. -/
def round : Binary64 → Except ArithmeticError Int := toIntBy fun _ k => divHalfEven k (pow2 1074)

end Binary64

end PageTemplate
