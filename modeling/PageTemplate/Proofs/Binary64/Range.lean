/-
The range of binary64. A quotient of naturals has a nearest number just if it
is below `2^1024 - 2^970`, the middle between the largest finite number and the
power of two above it (`nearest_isFinite_iff`); the middle itself goes to the
power of two, whose significand is even. So an integer has a number, and a
quotient of integers has one, just below that bound (`ofInt_error_iff`,
`ofQuotient_error_iff`).
-/
import Mathlib.Tactic.Ring
import PageTemplate.Binary64.Integer

namespace PageTemplate

/-- Rounding to the nearest integer goes up from the middle on, in the middle itself only from an odd
number. -/
theorem divHalfEven_cases (num den : Nat) :
    divHalfEven num den = num / den ∧ 2 * (num % den) ≤ den ∧
        (2 * (num % den) = den → num / den % 2 = 0) ∨
      divHalfEven num den = num / den + 1 ∧ den ≤ 2 * (num % den) ∧
        (2 * (num % den) = den → num / den % 2 = 1) := by
  unfold divHalfEven
  simp only
  split
  · exact .inl ⟨rfl, by omega, by omega⟩
  · split
    · exact .inr ⟨rfl, by omega, by omega⟩
    · split
      · exact .inl ⟨rfl, by omega, by omega⟩
      · exact .inr ⟨rfl, by omega, by omega⟩

namespace Binary64

theorem normalize_isFinite_iff {negative : Bool} {significand exponent : Nat} :
    (normalize negative significand exponent).isFinite = true ↔
      Canonical significand exponent ∨ significand = 9007199254740992 ∧ exponent < 2045 := by
  unfold normalize
  split
  · rename_i h
    simp [isFinite, h]
  · rename_i h
    split
    · rename_i h'
      simp [isFinite, h']
    · rename_i h'
      simp only [isFinite, Bool.false_eq_true, false_iff, not_or]
      exact ⟨h, h'⟩

theorem pow2_pos (e : Nat) : 0 < pow2 e := Nat.two_pow_pos e

theorem pow2_add (a b : Nat) : pow2 (a + b) = pow2 a * pow2 b := Nat.pow_add 2 a b

theorem pow2_le {a b : Nat} (h : a ≤ b) : pow2 a ≤ pow2 b := Nat.pow_le_pow_right (by decide) h

/-- The exponent that is chosen leaves 53 bits of a quotient, or is the least. -/
theorem exponent_spec {num den : Nat} (hden : 0 < den) :
    num < 9007199254740992 * (den * pow2 (Nat.log2 (num / den) - 52)) ∧
      (Nat.log2 (num / den) - 52 = 0 ∨
        4503599627370496 * (den * pow2 (Nat.log2 (num / den) - 52)) ≤ num) := by
  have hbelow : num < 2 ^ (Nat.log2 (num / den) + 1) * den :=
    (Nat.div_lt_iff_lt_mul hden).1 Nat.lt_log2_self
  by_cases hsmall : Nat.log2 (num / den) ≤ 52
  · have hexponent : Nat.log2 (num / den) - 52 = 0 := by omega
    have hpow : 2 ^ (Nat.log2 (num / den) + 1) ≤ 2 ^ 53 := Nat.pow_le_pow_right (by decide) (by omega)
    have hle := Nat.mul_le_mul_right den hpow
    rw [hexponent, show pow2 0 = 1 from rfl]
    omega
  · obtain ⟨k, hk⟩ := Nat.exists_eq_add_of_lt (Nat.lt_of_not_le hsmall)
    have hexponent : Nat.log2 (num / den) - 52 = k + 1 := by omega
    have hne : num / den ≠ 0 := by
      intro hzero
      simp [hzero] at hsmall
    have habove : 2 ^ Nat.log2 (num / den) * den ≤ num :=
      (Nat.le_div_iff_mul_le hden).1 (Nat.log2_self_le hne)
    rw [hexponent, show pow2 (k + 1) = 2 ^ (k + 1) from rfl]
    rw [hk] at hbelow habove
    refine ⟨?_, .inr ?_⟩
    · calc num < 2 ^ (52 + k + 1 + 1) * den := hbelow
        _ = 9007199254740992 * (den * 2 ^ (k + 1)) := by ring
    · calc 4503599627370496 * (den * 2 ^ (k + 1)) = 2 ^ (52 + k + 1) * den := by ring
        _ ≤ num := habove

/-- How binades compare. -/
theorem binade (den p e : Nat) : (p ≤ e → den * pow2 p ≤ den * pow2 e) ∧
    (p = e + 1 → den * pow2 p = 2 * (den * pow2 e)) ∧
    (e + 2 ≤ p → 4 * (den * pow2 e) ≤ den * pow2 p) := by
  refine ⟨fun h => Nat.mul_le_mul_left den (pow2_le h), fun h => ?_, fun h => ?_⟩
  · rw [h, pow2_add, show pow2 1 = 2 from rfl]
    ring
  · calc 4 * (den * pow2 e) = den * (pow2 e * 4) := by ring
      _ = den * pow2 (e + 2) := by rw [pow2_add, show pow2 2 = 4 from rfl]
      _ ≤ den * pow2 p := Nat.mul_le_mul_left den (pow2_le h)

/-- A quotient overflows just from the middle between the largest finite number and the next power of two
on. -/
theorem nearest_isFinite_iff {negative : Bool} {num den : Nat} (hden : 0 < den) :
    (nearest negative num den).isFinite = true ↔ num < 18014398509481983 * (den * pow2 2044) := by
  obtain ⟨hbelow, habove⟩ := @exponent_spec num den hden
  obtain ⟨hsmall, htop, hlarge⟩ := binade den (Nat.log2 (num / den) - 52) 2044
  simp only [nearest, normalize_isFinite_iff, Canonical]
  generalize Nat.log2 (num / den) - 52 = p at *
  have hpos : 0 < den * pow2 p := Nat.mul_pos hden (pow2_pos p)
  generalize den * pow2 2044 = bound at *
  generalize den * pow2 p = unit at *
  have hquotient := Nat.div_add_mod num unit
  have hrest := Nat.mod_lt num hpos
  have hround := divHalfEven_cases num unit
  -- The quotient, and with it the significand, against the 53 bits.
  have hlow : p = 0 ∨ 4503599627370496 ≤ num / unit :=
    habove.imp id fun h => (Nat.le_div_iff_mul_le hpos).2 h
  have hhigh : num / unit < 9007199254740992 := (Nat.div_lt_iff_lt_mul hpos).2 hbelow
  generalize divHalfEven num unit = significand at *
  by_cases hp : p ≤ 2044
  · have := hsmall hp
    constructor <;> intro <;> omega
  · by_cases hp' : 2046 ≤ p
    · have := hlarge hp'
      constructor <;> intro <;> omega
    · -- In the last binade the significand alone decides.
      have := htop (by omega)
      by_cases hlast : num / unit = 9007199254740991
      · rw [hlast] at hquotient hround
        constructor <;> intro <;> omega
      · have hnum : (num / unit + 1) * unit ≤ 9007199254740991 * unit :=
          Nat.mul_le_mul_right unit (by omega)
        rw [Nat.add_mul, Nat.mul_comm] at hnum
        constructor <;> intro <;> omega

/-- The bound at which integers and quotients leave binary64: `2^1024 - 2^970`. -/
def overflowBound : Nat := 18014398509481983 * pow2 970

theorem overflowBound_pos : 255 < overflowBound := by
  have hpos := pow2_pos 970
  rw [overflowBound]
  omega

theorem ofRatio_isFinite_iff {negative : Bool} {num den : Nat} (hden : 0 < den) :
    (ofRatio negative num den).isFinite = true ↔ num < overflowBound * den := by
  have hscale : 18014398509481983 * (den * pow2 2044) = overflowBound * den * pow2 1074 := by
    have hpow : pow2 2044 = pow2 970 * pow2 1074 := pow2_add 970 1074
    rw [hpow, overflowBound]
    generalize pow2 970 = low
    generalize pow2 1074 = high
    ring
  rw [ofRatio, nearest_isFinite_iff hden, hscale, Nat.mul_lt_mul_right (pow2_pos 1074)]

theorem nearest_ne_nan {negative : Bool} {num den : Nat} : nearest negative num den ≠ .nan := by
  unfold nearest normalize
  simp only
  split
  · simp
  · split <;> simp

theorem ofRatio_ne_nan {negative : Bool} {num den : Nat} : ofRatio negative num den ≠ .nan := nearest_ne_nan

/-- The one reason not to have a number that was rounded to. -/
theorem within_error_iff {x : Binary64} (hnan : x ≠ .nan) {reason e : ArithmeticError} :
    within reason x = .error e ↔ e = reason ∧ x.isFinite = false := by
  cases x with
  | nan => exact absurd rfl hnan
  | infinity n => simp [within, isFinite, eq_comm]
  | finite n m exponent h => simp [within, isFinite]

/-- An integer has a number just below the bound. -/
theorem ofInt_error_iff {i : Int} {e : ArithmeticError} :
    ofInt i = .error e ↔ e = .integerTooLarge ∧ overflowBound ≤ i.natAbs := by
  rw [ofInt, within_error_iff ofRatio_ne_nan, ← Bool.not_eq_true, ofRatio_isFinite_iff Nat.one_pos,
    Nat.mul_one, Nat.not_lt]

/-- A quotient of integers has a number unless the divisor is zero or the quotient is not below the
bound. -/
theorem ofQuotient_error_iff {a b : Int} {e : ArithmeticError} :
    ofQuotient a b = .error e ↔ (b = 0 ∧ e = .divisionByZero) ∨
      (b ≠ 0 ∧ e = .quotientTooLarge ∧ overflowBound * b.natAbs ≤ a.natAbs) := by
  unfold ofQuotient
  split
  · rename_i hb
    simp [hb, eq_comm]
  · rename_i hb
    rw [within_error_iff ofRatio_ne_nan, ← Bool.not_eq_true,
      ofRatio_isFinite_iff (Int.natAbs_pos.2 hb), Nat.not_lt]
    simp [hb]

/-- A number within the range is finite. -/
theorem isFinite_of_within {x y : Binary64} (hnan : x ≠ .nan) {reason : ArithmeticError}
    (h : within reason x = .ok y) : y.isFinite = true := by
  cases x with
  | nan => exact absurd rfl hnan
  | infinity n => cases h
  | finite n m exponent hcanonical => cases h; rfl

/-- A quotient that has a number has a finite one. -/
theorem isFinite_of_ofQuotient {a b : Int} {x : Binary64} (h : ofQuotient a b = .ok x) :
    x.isFinite = true := by
  unfold ofQuotient at h
  split at h
  · cases h
  · exact isFinite_of_within ofRatio_ne_nan h

/-- Integer functions are taken of finite numbers alone. -/
theorem toIntBy_error_iff {round : Bool → Nat → Nat} {x : Binary64} :
    (∃ e, toIntBy round x = .error e) ↔ x.isFinite = false := by
  cases x <;> simp [toIntBy, isFinite]

end Binary64

end PageTemplate
