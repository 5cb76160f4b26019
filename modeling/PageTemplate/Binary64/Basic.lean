/-
The binary64 numbers as data. A finite number is a significand below `2^53`
and an exponent, and stands for `±significand · 2^exponent` in units of
`2^-1074`, the spacing of the smallest numbers; the proof field makes the pair
unique. Every operation of this library on such numbers is an exact
computation on naturals followed by one rounding, `Binary64.nearest`, so a law
about it is a law about naturals.
-/
namespace PageTemplate

/-- `2^e`. -/
def pow2 (e : Nat) : Nat := Nat.pow 2 e

/-- `10^e`. -/
def pow10 (e : Nat) : Nat := Nat.pow 10 e

/-- The natural number nearest to `num / den`; a tie goes to the even neighbour. -/
def divHalfEven (num den : Nat) : Nat :=
  let quotient := num / den
  let twice := 2 * (num % den)
  if twice < den then quotient
  else if den < twice then quotient + 1
  else if quotient % 2 = 0 then quotient
  else quotient + 1

/-- A significand and exponent that write a finite number in the one allowed way: either the
significand uses all 53 bits or the exponent is the least. -/
def Binary64.Canonical (significand exponent : Nat) : Prop :=
  significand < 9007199254740992 ∧ (4503599627370496 ≤ significand ∨ exponent = 0) ∧ exponent ≤ 2045

instance (significand exponent : Nat) : Decidable (Binary64.Canonical significand exponent) := by
  unfold Binary64.Canonical; infer_instance

/-- A binary64 number. The sign of a NaN and its payload are not kept: nothing prints them. -/
inductive Binary64 where
  | nan
  | infinity (negative : Bool)
  | finite (negative : Bool) (significand exponent : Nat)
      (canonical : Binary64.Canonical significand exponent)
  deriving DecidableEq

namespace Binary64

/-- The zero of the given sign. -/
def zero (negative : Bool) : Binary64 := .finite negative 0 0 (by decide)

instance : Inhabited Binary64 := ⟨zero false⟩

/-- A number from a significand that may have reached `2^53` by rounding; too large an exponent
overflows to an infinity. -/
def normalize (negative : Bool) (significand exponent : Nat) : Binary64 :=
  if h : Canonical significand exponent then .finite negative significand exponent h
  else if h : significand = 9007199254740992 ∧ exponent < 2045 then
    .finite negative 4503599627370496 (exponent + 1) ⟨by decide, .inl (Nat.le_refl _), h.2⟩
  else .infinity negative

/-- The number nearest to `(num / den) · 2^-1074`, ties to the even significand. -/
def nearest (negative : Bool) (num den : Nat) : Binary64 :=
  let exponent := Nat.log2 (num / den) - 52
  normalize negative (divHalfEven num (den * pow2 exponent)) exponent

/-- The number nearest to `num / den`. -/
def ofRatio (negative : Bool) (num den : Nat) : Binary64 := nearest negative (num * pow2 1074) den

/-- The magnitude of a finite number in units of `2^-1074`; zero for the others. -/
def magnitude : Binary64 → Nat
  | .finite _ m e _ => m * pow2 e
  | _ => 0

/-- Whether the sign is minus; a NaN has none. -/
def isNegative : Binary64 → Bool
  | .nan => false
  | .infinity n => n
  | .finite n _ _ _ => n

/-- The signed value of a finite number in units of `2^-1074`; zero for the others. -/
def units (x : Binary64) : Int :=
  if x.isNegative then -(x.magnitude : Int) else (x.magnitude : Int)

/-- Whether the number is neither infinite nor a NaN. -/
def isFinite : Binary64 → Bool
  | .finite .. => true
  | _ => false

/-- Whether the number is an infinity. -/
def isInfinite : Binary64 → Bool
  | .infinity _ => true
  | _ => false

/-- Whether the number is a zero of either sign. -/
def isZero : Binary64 → Bool
  | .finite _ m _ _ => m == 0
  | _ => false

end Binary64

end PageTemplate
