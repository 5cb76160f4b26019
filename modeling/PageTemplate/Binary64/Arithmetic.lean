/-
Addition, multiplication, division and negation of binary64 numbers. Each
finite case is the exact result, written as a quotient of naturals in units of
`2^-1074`, rounded once.
-/
import PageTemplate.Binary64.Basic

namespace PageTemplate.Binary64

/-- The number with the other sign. -/
def neg : Binary64 → Binary64
  | .nan => .nan
  | .infinity n => .infinity !n
  | .finite n m e h => .finite (!n) m e h

/-- The sum. An exact zero is negative only when both terms are. -/
def add : Binary64 → Binary64 → Binary64
  | .nan, _ => .nan
  | _, .nan => .nan
  | .infinity n, .infinity n' => if n == n' then .infinity n else .nan
  | .infinity n, .finite .. => .infinity n
  | .finite .., .infinity n => .infinity n
  | x, y =>
    let total := x.units + y.units
    if total = 0 then zero (x.isNegative && y.isNegative)
    else nearest (decide (total < 0)) total.natAbs 1

/-- The product. An infinity times a zero is a NaN. -/
def mul : Binary64 → Binary64 → Binary64
  | .nan, _ => .nan
  | _, .nan => .nan
  | .finite n m e _, .finite n' m' e' _ =>
    nearest (n != n') (m * m' * pow2 (e + e')) (pow2 1074)
  | x, y =>
    let infinite := fun z : Binary64 => z.isInfinite || z.magnitude != 0
    if infinite x && infinite y then .infinity (x.isNegative != y.isNegative) else .nan

/-- The quotient by a number that is not zero. A zero divisor has no quotient here: the callers
that divide ask first. -/
def div : Binary64 → Binary64 → Binary64
  | .nan, _ => .nan
  | _, .nan => .nan
  | .infinity _, .infinity _ => .nan
  | .infinity n, .finite n' .. => .infinity (n != n')
  | .finite n .., .infinity n' => zero (n != n')
  | .finite n m e _, .finite n' m' e' _ =>
    nearest (n != n') (m * pow2 e * pow2 1074) (m' * pow2 e')

end PageTemplate.Binary64
