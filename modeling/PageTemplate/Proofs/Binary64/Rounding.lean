/-
How far rounding moves a number. The nearest multiple of a unit is at most twice
the number (`divHalfEven_mul_le`), so a quotient of integers is rounded to at
most twice its value, however it compares with the spacing of binary64
(`nearest_magnitude_le`). That is rough, and enough for a part of an integer
that is at most a half: cut to an integer, it stays between zero and the whole
(`truncate_ofQuotient_le`).

Nothing from one unit on is rounded to zero, so the number of a positive integer
is positive (`ofInt_isPositive`). A finite number is rounded to an integer that no
other is nearer to (`round_isNearest`).

No rounding steps over an integer that 53 bits can write: a quotient on one side
of it is rounded to a number on that side (`ofRatio_magnitude_le`,
`le_ofRatio_magnitude`), and so is that number to an integer (`round_ofQuotient`).

Sums and products of numbers that are not below zero are such numbers again, and
never a NaN, as long as no infinity is multiplied by a zero.
-/
import PageTemplate.Binary64.Arithmetic
import PageTemplate.Proofs.Binary64.Range

namespace PageTemplate

theorem divHalfEven_mul_le (num den : Nat) : divHalfEven num den * den ≤ 2 * num := by
  have hquotient := Nat.div_add_mod num den
  rw [Nat.mul_comm] at hquotient
  obtain ⟨hdown, -, -⟩ | ⟨hup, htwice, -⟩ := divHalfEven_cases num den
  · rw [hdown]
    omega
  · rw [hup, Nat.succ_mul]
    omega

/-- A quotient that an integer bounds is rounded to no more than that integer. -/
theorem divHalfEven_le {num den bound : Nat} (hden : 0 < den) (h : num ≤ bound * den) :
    divHalfEven num den ≤ bound := by
  obtain ⟨hdown, -, -⟩ | ⟨hup, htwice, -⟩ := divHalfEven_cases num den
  · rw [hdown]
    exact Nat.div_le_of_le_mul (by rwa [Nat.mul_comm])
  · -- Something is left over where rounding goes up, so the whole part is below the bound.
    have hquotient := Nat.div_add_mod num den
    rw [hup]
    refine Nat.lt_of_mul_lt_mul_left (a := den) ?_
    rw [Nat.mul_comm den bound]
    omega

/-- A quotient that an integer bounds from below is rounded to no less than that integer. -/
theorem le_divHalfEven {num den bound : Nat} (hden : 0 < den) (h : bound * den ≤ num) :
    bound ≤ divHalfEven num den := by
  have hwhole : bound ≤ num / den := (Nat.le_div_iff_mul_le hden).2 h
  obtain ⟨hdown, -, -⟩ | ⟨hup, -, -⟩ := divHalfEven_cases num den <;> omega

namespace Binary64

/-- Writing a significand in the allowed way does not change what it stands for, unless it overflows. -/
theorem normalize_magnitude_le (negative : Bool) (significand exponent : Nat) :
    (normalize negative significand exponent).magnitude ≤ significand * pow2 exponent := by
  unfold normalize
  split
  · exact Nat.le_refl _
  · split
    · rename_i h
      obtain ⟨rfl, -⟩ := h
      change 4503599627370496 * pow2 (exponent + 1) ≤ _
      rw [pow2_add, show pow2 1 = 2 from rfl]
      omega
    · exact Nat.zero_le _

theorem normalize_magnitude {negative : Bool} {significand exponent : Nat}
    (hfinite : (normalize negative significand exponent).isFinite = true) :
    (normalize negative significand exponent).magnitude = significand * pow2 exponent := by
  unfold normalize at hfinite ⊢
  split
  · rfl
  · rename_i hnot
    rw [dif_neg hnot] at hfinite
    split
    · rename_i h
      obtain ⟨rfl, -⟩ := h
      change 4503599627370496 * pow2 (exponent + 1) = _
      rw [pow2_add, show pow2 1 = 2 from rfl]
      omega
    · rename_i htop
      rw [dif_neg htop] at hfinite
      cases hfinite

theorem nearest_magnitude_le (negative : Bool) (num den : Nat) :
    (nearest negative num den).magnitude * den ≤ 2 * num := by
  have hnormal := normalize_magnitude_le negative
    (divHalfEven num (den * pow2 (Nat.log2 (num / den) - 52))) (Nat.log2 (num / den) - 52)
  rw [← nearest] at hnormal
  calc (nearest negative num den).magnitude * den
      ≤ divHalfEven num (den * pow2 (Nat.log2 (num / den) - 52)) * pow2 (Nat.log2 (num / den) - 52) * den :=
        Nat.mul_le_mul_right den hnormal
    _ = divHalfEven num (den * pow2 (Nat.log2 (num / den) - 52)) *
          (den * pow2 (Nat.log2 (num / den) - 52)) := by rw [Nat.mul_assoc, Nat.mul_comm den]
    _ ≤ 2 * num := divHalfEven_mul_le _ _

theorem normalize_isNegative (negative : Bool) (significand exponent : Nat) :
    (normalize negative significand exponent).isNegative = negative := by
  unfold normalize
  split
  · rfl
  · split <;> rfl

/-- What is cut to an integer is finite, and the integer has its sign and the whole units of its
magnitude. -/
theorem truncate_ok {x : Binary64} {n : Int} (h : x.truncate = .ok n) :
    n = if x.isNegative then -((x.magnitude / pow2 1074 : Nat) : Int) else ((x.magnitude / pow2 1074 : Nat) : Int) := by
  cases x with
  | nan => cases h
  | infinity negative => cases h
  | finite negative significand exponent hcanonical => cases h; rfl

theorem eq_of_within {reason : ArithmeticError} {x y : Binary64} (h : within reason x = .ok y) : y = x := by
  cases x <;> cases h <;> rfl

/-- A quotient that is in range is the number nearest to the exact one. -/
theorem ofQuotient_of_lt {a b : Int} (hb : b ≠ 0) (h : a.natAbs < overflowBound * b.natAbs) :
    ofQuotient a b = .ok (ofRatio (decide (a < 0) != decide (b < 0)) a.natAbs b.natAbs) := by
  cases hquotient : ofQuotient a b with
  | error e =>
    obtain ⟨hzero, -⟩ | ⟨-, -, hlarge⟩ := ofQuotient_error_iff.1 hquotient
    · exact absurd hzero hb
    · omega
  | ok x =>
    rw [ofQuotient, if_neg hb] at hquotient
    rw [eq_of_within hquotient]

/-- At most half of an integer, cut to an integer. -/
theorem truncate_ofQuotient_le {a b n : Int} {x : Binary64} (ha : 0 ≤ a) (hb : 2 ≤ b) (hx : ofQuotient a b = .ok x)
    (hn : x.truncate = .ok n) : 0 ≤ n ∧ n ≤ a := by
  rw [ofQuotient, if_neg (by omega)] at hx
  obtain rfl := eq_of_within hx
  have hsign : (decide (a < 0) != decide (b < 0)) = false := by
    rw [decide_eq_false (by omega), decide_eq_false (by omega)]
    rfl
  rw [truncate_ok hn, hsign]
  rw [ofRatio, nearest, normalize_isNegative, if_neg Bool.false_ne_true, ← nearest]
  have hround := nearest_magnitude_le false (a.natAbs * pow2 1074) b.natAbs
  generalize (nearest false (a.natAbs * pow2 1074) b.natAbs).magnitude = magnitude at hround ⊢
  have hhalf : magnitude * 2 ≤ magnitude * b.natAbs := Nat.mul_le_mul_left magnitude (by omega)
  have hle : magnitude / pow2 1074 ≤ a.natAbs := Nat.div_le_of_le_mul (by rw [Nat.mul_comm]; omega)
  generalize magnitude / pow2 1074 = whole at hle ⊢
  omega

/-! ## Positive numbers -/

theorem normalize_magnitude_pos {negative : Bool} {significand exponent : Nat} (hpos : 0 < significand)
    (hfinite : (normalize negative significand exponent).isFinite = true) :
    0 < (normalize negative significand exponent).magnitude := by
  rw [normalize_magnitude hfinite]
  exact Nat.mul_pos hpos (pow2_pos _)

/-- A quotient that is one unit at least is not rounded to zero. -/
theorem nearest_magnitude_pos {negative : Bool} {num den : Nat} (hden : 0 < den) (hle : den ≤ num)
    (hfinite : (nearest negative num den).isFinite = true) : 0 < (nearest negative num den).magnitude := by
  refine normalize_magnitude_pos ?_ hfinite
  obtain ⟨-, habove⟩ := @exponent_spec num den hden
  generalize Nat.log2 (num / den) - 52 = p at habove ⊢
  have hunit : den * pow2 p ≤ num := by
    obtain rfl | habove := habove
    · rw [show pow2 0 = 1 from rfl]
      omega
    · omega
  have hquotient : 1 ≤ num / (den * pow2 p) :=
    (Nat.le_div_iff_mul_le (Nat.mul_pos hden (pow2_pos p))).2 (by omega)
  obtain ⟨hround, -, -⟩ | ⟨hround, -, -⟩ := divHalfEven_cases num (den * pow2 p) <;> omega

theorem isPositive_iff {x : Binary64} (h : x.isFinite = true) :
    x.isPositive = true ↔ x.isNegative = false ∧ 0 < x.magnitude := by
  cases x with
  | nan => cases h
  | infinity negative => cases h
  | finite negative significand exponent hcanonical =>
    change decide ((zero false).units < units (.finite negative significand exponent hcanonical)) = true ↔ _
    have hzero : (zero false).units = 0 := rfl
    rw [decide_eq_true_eq, hzero, units]
    cases negative with
    | false => simp [isNegative]
    | true =>
      simp only [isNegative, if_true, Bool.true_eq_false, false_and, iff_false]
      omega

/-- What is not at or below zero is positive or no number at all. -/
theorem le_zero_eq_false_iff {x : Binary64} : x.le (zero false) = false ↔ x.isPositive = true ∨ x = .nan := by
  cases x with
  | nan => simp [le, lt, eq]
  | infinity negative => cases negative <;> decide
  | finite negative significand exponent hcanonical =>
    have hle : (finite negative significand exponent hcanonical).le (zero false) =
        (decide (units (.finite negative significand exponent hcanonical) < 0) ||
          decide (units (.finite negative significand exponent hcanonical) = 0)) := rfl
    have hpositive : (finite negative significand exponent hcanonical).isPositive =
        decide (0 < units (.finite negative significand exponent hcanonical)) := rfl
    rw [hle, hpositive, Bool.or_eq_false_iff, decide_eq_false_iff_not, decide_eq_false_iff_not, decide_eq_true_eq]
    simp only [reduceCtorEq, or_false]
    omega

/-- The number of a positive integer is positive. -/
theorem ofInt_isPositive {i : Int} {x : Binary64} (hi : 0 < i) (h : ofInt i = .ok x) : x.isPositive = true := by
  rw [ofInt, decide_eq_false (by omega)] at h
  have hfinite := isFinite_of_within ofRatio_ne_nan h
  obtain rfl := eq_of_within h
  refine (isPositive_iff hfinite).2 ⟨normalize_isNegative _ _ _, nearest_magnitude_pos Nat.one_pos ?_ hfinite⟩
  exact Nat.mul_pos (Int.natAbs_pos.2 (by omega)) (pow2_pos 1074)

/-! ## Nearest integers -/

/-- Whether no integer is nearer to a finite number; of two that are equally near, the even one. -/
def IsNearest (x : Binary64) (n : Int) : Prop :=
  x.isFinite = true ∧ 2 * (n * pow2 1074 - x.units).natAbs ≤ pow2 1074 ∧
    (2 * (n * pow2 1074 - x.units).natAbs = pow2 1074 → n % 2 = 0)

theorem divHalfEven_isNearest (num : Nat) {den : Nat} (hden : 0 < den) :
    2 * (divHalfEven num den * den - num : Int).natAbs ≤ den ∧
      (2 * (divHalfEven num den * den - num : Int).natAbs = den → divHalfEven num den % 2 = 0) := by
  have hnum : (num : Int) = (num / den : Nat) * den + (num % den : Nat) := by
    rw [Int.mul_comm]
    exact_mod_cast (Nat.div_add_mod num den).symm
  have hmod := Nat.mod_lt num hden
  obtain ⟨hdown, hrest, htie⟩ | ⟨hup, hrest, htie⟩ := divHalfEven_cases num den
  · have hdiff : (divHalfEven num den * den - num : Int) = -(num % den : Nat) := by
      rw [hdown, hnum]
      ring
    rw [hdiff, hdown]
    omega
  · have hdiff : (divHalfEven num den * den - num : Int) = den - (num % den : Nat) := by
      rw [hup, hnum]
      push_cast
      ring
    rw [hdiff, hup]
    omega

/-- A finite number is rounded to the nearest integer. -/
theorem round_isNearest {x : Binary64} (h : x.isFinite = true) : ∃ n, x.round = .ok n ∧ x.IsNearest n := by
  cases x with
  | nan => cases h
  | infinity negative => cases h
  | finite negative significand exponent hcanonical =>
    have hnearest := divHalfEven_isNearest (finite negative significand exponent hcanonical).magnitude (pow2_pos 1074)
    refine ⟨if negative then
        -(divHalfEven (finite negative significand exponent hcanonical).magnitude (pow2 1074) : Int)
      else divHalfEven (finite negative significand exponent hcanonical).magnitude (pow2 1074), rfl, h, ?_⟩
    unfold units isNegative
    generalize (finite negative significand exponent hcanonical).magnitude = magnitude at hnearest ⊢
    generalize divHalfEven magnitude (pow2 1074) = whole at hnearest ⊢
    cases negative with
    | false =>
      simp only [Bool.false_eq_true, if_false]
      omega
    | true =>
      simp only [if_true, Int.neg_mul]
      omega

/-! ## Integers that are not stepped over -/

/-- Below `2^53` the numbers are at most one apart. -/
theorem exponent_le {num den : Nat} (hden : 0 < den) (h : num < 9007199254740992 * den) :
    Nat.log2 (num * pow2 1074 / den) - 52 ≤ 1074 := by
  have hquotient : num * pow2 1074 / den < 2 ^ 1127 := by
    rw [Nat.div_lt_iff_lt_mul hden]
    calc num * pow2 1074 < 9007199254740992 * den * pow2 1074 := Nat.mul_lt_mul_of_pos_right h (pow2_pos 1074)
      _ = 9007199254740992 * pow2 1074 * den := by ring
      _ = 2 ^ 1127 * den := by rw [show 9007199254740992 * pow2 1074 = 2 ^ 1127 from by decide +kernel]
  rcases Nat.eq_zero_or_pos (num * pow2 1074 / den) with hzero | hpos
  · simp [hzero]
  · have hlog := (Nat.log2_lt (by omega)).2 hquotient
    omega

section Spacing

variable {negative : Bool} {num den bound : Nat} (hden : 0 < den) (hrange : num < 9007199254740992 * den)
include hden hrange

/-- Below `2^53` a quotient is rounded to a multiple of a spacing that divides one. -/
theorem ofRatio_magnitude (hfinite : (ofRatio negative num den).isFinite = true) :
    ∃ exponent rest, pow2 1074 = rest * pow2 exponent ∧ (ofRatio negative num den).magnitude =
      divHalfEven (num * pow2 1074) (den * pow2 exponent) * pow2 exponent := by
  have hexponent := exponent_le hden hrange
  refine ⟨_, pow2 (1074 - (Nat.log2 (num * pow2 1074 / den) - 52)), ?_, normalize_magnitude hfinite⟩
  rw [← pow2_add, Nat.sub_add_cancel hexponent]

/-- A quotient up to an integer is rounded to no more than that integer. -/
theorem ofRatio_magnitude_le (hfinite : (ofRatio negative num den).isFinite = true) (h : num ≤ bound * den) :
    (ofRatio negative num den).magnitude ≤ bound * pow2 1074 := by
  obtain ⟨exponent, rest, hspacing, hmagnitude⟩ := ofRatio_magnitude hden hrange hfinite
  rw [hmagnitude, hspacing, ← Nat.mul_assoc bound]
  refine Nat.mul_le_mul_right _ (divHalfEven_le (Nat.mul_pos hden (pow2_pos exponent)) ?_)
  calc num * (rest * pow2 exponent) ≤ bound * den * (rest * pow2 exponent) := Nat.mul_le_mul_right _ h
    _ = bound * rest * (den * pow2 exponent) := by ring

/-- A quotient from an integer on is rounded to no less than that integer. -/
theorem le_ofRatio_magnitude (hfinite : (ofRatio negative num den).isFinite = true) (h : bound * den ≤ num) :
    bound * pow2 1074 ≤ (ofRatio negative num den).magnitude := by
  obtain ⟨exponent, rest, hspacing, hmagnitude⟩ := ofRatio_magnitude hden hrange hfinite
  rw [hmagnitude, hspacing, ← Nat.mul_assoc bound]
  refine Nat.mul_le_mul_right _ (le_divHalfEven (Nat.mul_pos hden (pow2_pos exponent)) ?_)
  calc bound * rest * (den * pow2 exponent) = bound * den * (rest * pow2 exponent) := by ring
    _ ≤ num * (rest * pow2 exponent) := Nat.mul_le_mul_right _ h

end Spacing

/-- What is rounded to an integer is finite, and the integer has its sign. -/
theorem round_ok {x : Binary64} {n : Int} (h : x.round = .ok n) :
    n = if x.isNegative then -(divHalfEven x.magnitude (pow2 1074) : Int)
      else (divHalfEven x.magnitude (pow2 1074) : Int) := by
  cases x with
  | nan => cases h
  | infinity negative => cases h
  | finite negative significand exponent hcanonical => cases h; rfl

/-- A quotient of naturals below `2^53` has a number, which is rounded to an integer on no other side of any
integer than the quotient. -/
theorem round_ofQuotient {num den : Nat} (hden : 0 < den) (hrange : num < 9007199254740992 * den) :
    ∃ x, ∃ n : Nat, ofQuotient num den = .ok x ∧ x.round = .ok n ∧
      (∀ bound, num ≤ bound * den → n ≤ bound) ∧ ∀ bound, bound * den ≤ num → bound ≤ n := by
  have hsmall : (num : Int).natAbs < overflowBound * (den : Int).natAbs := by
    have hlarge : 9007199254740992 ≤ overflowBound := by decide +kernel
    exact hrange.trans_le (Nat.mul_le_mul_right den hlarge)
  have hquotient := ofQuotient_of_lt (a := num) (b := den) (by omega) hsmall
  have hsign : (decide ((num : Int) < 0) != decide ((den : Int) < 0)) = false := by
    rw [decide_eq_false (by omega), decide_eq_false (by omega)]
    rfl
  rw [hsign] at hquotient
  have hfinite := isFinite_of_ofQuotient hquotient
  obtain ⟨n, hn, -⟩ := round_isNearest hfinite
  have hpositive : (ofRatio false num den).isNegative = false := normalize_isNegative _ _ _
  have hround : n = (divHalfEven (ofRatio false num den).magnitude (pow2 1074) : Int) := by
    rw [round_ok hn]
    exact if_neg (by rw [← Bool.not_eq_true] at hpositive; exact hpositive)
  refine ⟨_, _, hquotient, hn.trans (congrArg _ hround), fun bound h => ?_, fun bound h => ?_⟩
  · exact divHalfEven_le (pow2_pos 1074) (ofRatio_magnitude_le hden hrange hfinite h)
  · exact le_divHalfEven (pow2_pos 1074) (le_ofRatio_magnitude hden hrange hfinite h)

/-! ## Numbers that are not below zero -/

/-- Whether a number is neither a NaN nor below zero. -/
def IsUnsigned (x : Binary64) : Prop := x ≠ .nan ∧ x.isNegative = false

theorem isUnsigned_zero : (zero false).IsUnsigned := ⟨fun h => (by cases h), rfl⟩

theorem isUnsigned_nearest (num den : Nat) : (nearest false num den).IsUnsigned :=
  ⟨nearest_ne_nan, normalize_isNegative _ _ _⟩

theorem isUnsigned_ofRatio (num den : Nat) : (ofRatio false num den).IsUnsigned := isUnsigned_nearest _ _

/-- Such a number is finite, or the infinity above all. -/
theorem IsUnsigned.cases {x : Binary64} (h : x.IsUnsigned) : x.isFinite = true ∨ x = .infinity false := by
  obtain ⟨hnan, hsign⟩ := h
  cases x with
  | nan => exact absurd rfl hnan
  | infinity negative =>
    obtain rfl : negative = false := hsign
    exact .inr rfl
  | finite negative significand exponent hcanonical => exact .inl rfl

theorem IsUnsigned.neg_ne_nan {x : Binary64} (h : x.IsUnsigned) : x.neg ≠ .nan := by
  obtain hfinite | rfl := h.cases
  · cases x with
    | nan => cases hfinite
    | infinity => cases hfinite
    | finite => exact fun h => by cases h
  · exact fun h => by cases h

theorem IsUnsigned.add {x y : Binary64} (hx : x.IsUnsigned) (hy : y.IsUnsigned) : (x.add y).IsUnsigned := by
  obtain ⟨hxnan, hxsign⟩ := hx
  obtain ⟨hynan, hysign⟩ := hy
  cases x with
  | nan => exact absurd rfl hxnan
  | infinity negative =>
    obtain rfl : negative = false := hxsign
    cases y with
    | nan => exact absurd rfl hynan
    | infinity negative =>
      obtain rfl : negative = false := hysign
      exact ⟨by simp [Binary64.add], rfl⟩
    | finite => exact ⟨by simp [Binary64.add], rfl⟩
  | finite negative significand exponent hcanonical =>
    obtain rfl : negative = false := hxsign
    cases y with
    | nan => exact absurd rfl hynan
    | infinity negative =>
      obtain rfl : negative = false := hysign
      exact ⟨by simp [Binary64.add], rfl⟩
    | finite negative significand' exponent' hcanonical' =>
      obtain rfl : negative = false := hysign
      unfold Binary64.add
      simp only [units, isNegative, Bool.false_eq_true, if_false]
      split
      · exact ⟨by simp [zero], rfl⟩
      · rw [decide_eq_false (by omega)]
        exact isUnsigned_nearest _ _

/-- A factor that is finite and not zero makes no NaN of an infinity. -/
theorem IsUnsigned.mul {x y : Binary64} (hx : x.IsUnsigned) (hy : y.IsUnsigned) (hfinite : y.isFinite = true)
    (hpos : y.magnitude ≠ 0) : (x.mul y).IsUnsigned := by
  obtain ⟨hxnan, hxsign⟩ := hx
  obtain ⟨-, hysign⟩ := hy
  cases y with
  | nan => cases hfinite
  | infinity => cases hfinite
  | finite negative significand exponent hcanonical =>
    obtain rfl : negative = false := hysign
    cases x with
    | nan => exact absurd rfl hxnan
    | infinity negative =>
      obtain rfl : negative = false := hxsign
      have hproduct : (infinity false).mul (finite false significand exponent hcanonical) = .infinity false := by
        simp [Binary64.mul, isInfinite, isNegative, hpos]
      rw [hproduct]
      exact ⟨by simp, rfl⟩
    | finite negative significand' exponent' hcanonical' =>
      obtain rfl : negative = false := hxsign
      exact isUnsigned_nearest _ _

end Binary64

end PageTemplate
