/-
Comparison of binary64 numbers: a NaN is neither less than, equal to nor
greater than anything, the two zeros are equal, and otherwise numbers compare
as their values do.
-/
import PageTemplate.Binary64.Basic

namespace PageTemplate.Binary64

/-- `x < y` as numbers. -/
def lt : Binary64 → Binary64 → Bool
  | .nan, _ => false
  | _, .nan => false
  | .infinity n, .infinity n' => n && !n'
  | .infinity n, .finite .. => n
  | .finite .., .infinity n => !n
  | x, y => decide (x.units < y.units)

/-- `x = y` as numbers. -/
def eq : Binary64 → Binary64 → Bool
  | .nan, _ => false
  | _, .nan => false
  | .infinity n, .infinity n' => n == n'
  | .infinity _, .finite .. => false
  | .finite .., .infinity _ => false
  | x, y => decide (x.units = y.units)

/-- `x ≤ y` as numbers. -/
def le (x y : Binary64) : Bool := x.lt y || x.eq y

/-- Whether the number is greater than zero. -/
def isPositive (x : Binary64) : Bool := (zero false).lt x

end PageTemplate.Binary64
