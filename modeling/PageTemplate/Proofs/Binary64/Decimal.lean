/-
Numerals of decimal digits with at most one point among them. Reading one gives
the binary64 number nearest to the decimal fraction that it writes, for numerals
of any length (`readDecimal?_numeral`): the shortcuts for numerals that are very
large or very small answer what rounding would have answered
(`ofDecimal_eq_ofRatio`).
-/
import Mathlib.Data.List.TakeWhile
import PageTemplate.Binary64.Reading
import PageTemplate.Proofs.Binary64.Rounding

namespace PageTemplate

/-! ## The number that digits write -/

theorem toNat_of_isAsciiDigit {c : Char} (h : Text.isAsciiDigit c = true) : c.toNat ≤ 57 := by
  simp only [Text.isAsciiDigit, Bool.and_eq_true, decide_eq_true_eq] at h
  exact h.2

/-- So many digits write a number below that power of ten. -/
theorem foldl_digits_lt {digits : List Char} {start place : Nat}
    (hdigits : ∀ c ∈ digits, Text.isAsciiDigit c = true) (hstart : start < 10 ^ place) :
    digits.foldl (fun acc c => 10 * acc + (c.toNat - 48)) start < 10 ^ (place + digits.length) := by
  induction digits generalizing start place with
  | nil => exact hstart
  | cons c digits ih =>
    obtain ⟨hc, hrest⟩ := List.forall_mem_cons.1 hdigits
    have hdigit := toNat_of_isAsciiDigit hc
    have hnext : 10 * start + (c.toNat - 48) < 10 ^ (place + 1) := by
      rw [Nat.pow_succ]
      omega
    have hall := ih hrest hnext
    rw [Nat.add_right_comm] at hall
    exact hall

/-- Digits behind a number multiply it by a power of ten at least. -/
theorem le_foldl_digits (digits : List Char) (start : Nat) :
    start * 10 ^ digits.length ≤ digits.foldl (fun acc c => 10 * acc + (c.toNat - 48)) start := by
  induction digits generalizing start with
  | nil => simp
  | cons c digits ih =>
    calc start * 10 ^ (digits.length + 1) = 10 * start * 10 ^ digits.length := by ring
      _ ≤ (10 * start + (c.toNat - 48)) * 10 ^ digits.length := Nat.mul_le_mul_right _ (by omega)
      _ ≤ _ := ih _

theorem decimalNumber_lt {digits : List Char} (h : ∀ c ∈ digits, Text.isAsciiDigit c = true) :
    Text.decimalNumber digits < 10 ^ digits.length := by
  have hlt : Text.decimalNumber digits < 10 ^ (0 + digits.length) := foldl_digits_lt h (by decide)
  rwa [Nat.zero_add] at hlt

/-- Zeros in front do not change the number. -/
theorem decimalNumber_dropWhile (digits : List Char) :
    Text.decimalNumber (digits.dropWhile (· == '0')) = Text.decimalNumber digits := by
  induction digits with
  | nil => rfl
  | cons c digits ih =>
    rw [List.dropWhile_cons]
    split
    · rename_i hzero
      obtain rfl := eq_of_beq hzero
      exact ih
    · rfl

/-- Digits that do not begin with a zero write a number of that many digits. -/
theorem le_decimalNumber {c : Char} {digits : List Char} (hc : Text.isAsciiDigit c = true) (hne : c ≠ '0') :
    10 ^ digits.length ≤ Text.decimalNumber (c :: digits) := by
  have hlow : 48 ≤ c.toNat := by
    simp only [Text.isAsciiDigit, Bool.and_eq_true, decide_eq_true_eq] at hc
    exact hc.1
  have hfirst : 48 ≠ c.toNat := fun h => hne (by rw [← Char.ofNat_toNat c, ← h])
  have hstart : 10 * 0 + (c.toNat - 48) = c.toNat - 48 := by omega
  calc 10 ^ digits.length ≤ (c.toNat - 48) * 10 ^ digits.length := Nat.le_mul_of_pos_left _ (by omega)
    _ ≤ Text.decimalNumber (c :: digits) := by
      rw [Text.decimalNumber, List.foldl_cons, hstart]
      exact le_foldl_digits digits _

namespace Binary64

/-! ## Shortcuts -/

/-- A quotient below half a unit is rounded to zero. -/
theorem nearest_eq_zero {negative : Bool} {num den : Nat} (h : 2 * num < den) :
    nearest negative num den = zero negative := by
  have hquotient : num / den = 0 := Nat.div_eq_of_lt (by omega)
  have hrest : num % den = num := Nat.mod_eq_of_lt (by omega)
  have hround : divHalfEven num den = 0 := by
    unfold divHalfEven
    simp only [hquotient, hrest, if_pos h]
  have hone : den * pow2 0 = den := Nat.mul_one den
  unfold nearest
  simp only [hquotient, show Nat.log2 0 - 52 = 0 from rfl, hone, hround]
  rfl

/-- A quotient beyond the range is rounded to an infinity. -/
theorem ofRatio_eq_infinity {negative : Bool} {num den : Nat} (hden : 0 < den) (h : overflowBound * den ≤ num) :
    ofRatio negative num den = .infinity negative := by
  have hlarge : (ofRatio negative num den).isFinite ≠ true := by
    rw [ne_eq, ofRatio_isFinite_iff hden]
    omega
  have hsign : (ofRatio negative num den).isNegative = negative := normalize_isNegative _ _ _
  have hnan : ofRatio negative num den ≠ .nan := ofRatio_ne_nan
  cases hx : ofRatio negative num den with
  | nan => exact absurd hx hnan
  | infinity sign =>
    rw [hx] at hsign
    rw [show sign = negative from hsign]
  | finite sign significand exponent hcanonical =>
    rw [hx] at hlarge
    exact absurd rfl hlarge

/-- Digits and a power of ten below them are rounded once, also where the answer is found without. -/
theorem ofDecimal_eq_ofRatio (negative : Bool) {digits : List Char} (h : ∀ c ∈ digits, Text.isAsciiDigit c = true)
    (places : Nat) :
    ofDecimal negative digits (-(places : Int)) = ofRatio negative (Text.decimalNumber digits) (pow10 places) := by
  have hpow : 0 < pow10 places := Nat.pow_pos (by decide)
  have hpow10 : pow10 places = 10 ^ places := rfl
  have hscale : 2 * pow2 1074 ≤ 10 ^ 400 := by decide +kernel
  have hbound : overflowBound ≤ 10 ^ 400 := by decide +kernel
  have hadd : ∀ m n : Nat, 10 ^ m * 10 ^ n = 10 ^ (m + n) := fun m n => (Nat.pow_add 10 m n).symm
  rw [← decimalNumber_dropWhile digits]
  unfold ofDecimal
  have hdigits : ∀ c ∈ digits.dropWhile (· == '0'), Text.isAsciiDigit c = true := fun c hc =>
    h c ((List.dropWhile_suffix _).subset hc)
  have hhead := List.head?_dropWhile_not (fun c => c == '0') digits
  generalize digits.dropWhile (· == '0') = significant at hdigits hhead ⊢
  simp only
  cases significant with
  | nil =>
    rw [List.isEmpty_nil, if_pos rfl]
    refine (nearest_eq_zero ?_).symm
    rw [show Text.decimalNumber [] = 0 from rfl, Nat.zero_mul]
    exact hpow
  | cons c rest =>
    have hlt := decimalNumber_lt hdigits
    have hle : 10 ^ rest.length ≤ Text.decimalNumber (c :: rest) :=
      le_decimalNumber (hdigits c List.mem_cons_self) (by simpa using hhead)
    rw [List.isEmpty_cons, if_neg Bool.false_ne_true]
    generalize Text.decimalNumber (c :: rest) = number at hlt hle ⊢
    split
    · rename_i hsize
      refine (ofRatio_eq_infinity hpow ?_).symm
      calc overflowBound * pow10 places ≤ 10 ^ 400 * 10 ^ places := Nat.mul_le_mul_right _ hbound
        _ = 10 ^ (400 + places) := hadd 400 places
        _ ≤ 10 ^ rest.length := Nat.pow_le_pow_right (by decide) (by rw [List.length_cons] at hsize; omega)
        _ ≤ number := hle
    · split
      · rename_i hsize
        refine (nearest_eq_zero ?_).symm
        calc 2 * (number * pow2 1074) = number * (2 * pow2 1074) := by ring
          _ < 10 ^ (c :: rest).length * (2 * pow2 1074) :=
            Nat.mul_lt_mul_of_pos_right hlt (Nat.mul_pos (by decide) (pow2_pos 1074))
          _ ≤ 10 ^ (c :: rest).length * 10 ^ 400 := Nat.mul_le_mul_left _ hscale
          _ = 10 ^ ((c :: rest).length + 400) := hadd _ 400
          _ ≤ pow10 places := Nat.pow_le_pow_right (by decide) (by omega)
      · cases places with
        | zero =>
          change ofRatio negative (number * pow10 0) 1 = ofRatio negative number (pow10 0)
          rw [show pow10 0 = 1 from rfl, Nat.mul_one]
        | succ places =>
          have hexponent : -((places + 1 : Nat) : Int) = Int.negSucc places := rfl
          rw [hexponent]

/-! ## Numerals -/

/-- Digits, and perhaps a point with the digits behind it. -/
def numeral (whole : List Char) : Option (List Char) → List Char
  | none => whole
  | some fraction => whole ++ '.' :: fraction

/-- The number nearest to what a numeral writes. -/
def ofNumeral (whole : List Char) (fraction : Option (List Char)) : Binary64 :=
  ofRatio false (Text.decimalNumber (whole ++ fraction.getD [])) (pow10 (fraction.getD []).length)

/-- Every numeral with a digit is read, and is rounded once. -/
theorem readDecimal?_numeral {whole : List Char} {fraction : Option (List Char)}
    (hdigits : ∀ c ∈ whole ++ fraction.getD [], Text.isAsciiDigit c = true) (hsome : whole ++ fraction.getD [] ≠ []) :
    readDecimal? false (numeral whole fraction) = some (ofNumeral whole fraction) := by
  obtain ⟨hwhole, hfraction⟩ := List.forall_mem_append.1 hdigits
  have hvalue := ofDecimal_eq_ofRatio false hdigits (fraction.getD []).length
  unfold readDecimal? numeral ofNumeral
  rw [← hvalue]
  cases fraction with
  | none =>
    have hempty : whole.isEmpty = false := by simpa using hsome
    simp [List.takeWhile_eq_self_iff.2 hwhole, List.dropWhile_eq_nil_iff.2 hwhole, hempty, readExponent?]
  | some fraction =>
    have hpoint : Text.isAsciiDigit '.' = false := rfl
    simp only [Option.getD_some] at hfraction hsome
    have hempty : (whole.isEmpty && fraction.isEmpty) = false := by simpa using hsome
    simp [List.takeWhile_append_of_pos hwhole, List.dropWhile_append_of_pos hwhole, hpoint,
      List.takeWhile_eq_self_iff.2 hfraction, List.dropWhile_eq_nil_iff.2 hfraction, hempty, readExponent?]

end Binary64

end PageTemplate
