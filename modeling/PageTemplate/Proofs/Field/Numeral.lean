/-
The numerals that a byte is read from. They are hexadecimal, octal or binary
behind a mark, octal behind a zero, or decimal (`Numeral`), and their number is
at most 255.

Against that grammar, what stands behind a mark, or behind the zero of an octal
numeral, may have the mark of its base once more (`Remarked`). Nothing else is
read (`unsigned?_eq_some_iff`).
-/
import PageTemplate.Field.Literal
import PageTemplate.Proofs.Result
import Mathlib.Data.Nat.Digits.Defs

namespace PageTemplate

theorem Text.eq_ofNat_of_alphanumericValue? {c : Char} {v : Nat} (h : alphanumericValue? c = some v) :
    v < 10 ∧ c = Char.ofNat (v + 48) ∨ 10 ≤ v ∧ (c = Char.ofNat (v + 87) ∨ c = Char.ofNat (v + 55)) := by
  unfold alphanumericValue? isAsciiDigit at h
  simp only [Bool.and_eq_true, decide_eq_true_eq] at h
  have hc := Char.ofNat_toNat c
  split at h
  · rename_i hdigit
    have hlow : 48 ≤ c.toNat := hdigit.1
    have hhigh : c.toNat ≤ 57 := hdigit.2
    cases h
    exact .inl ⟨by omega, by rw [Nat.sub_add_cancel hlow, hc]⟩
  · split at h
    · rename_i hletter
      have hlow : 97 ≤ c.toNat := hletter.1
      cases h
      exact .inr ⟨by omega, .inl (by rw [Nat.sub_add_cancel (by omega), hc])⟩
    · split at h <;> cases h
      rename_i hletter
      have hlow : 65 ≤ c.toNat := hletter.1
      exact .inr ⟨by omega, .inr (by rw [Nat.sub_add_cancel (by omega), hc])⟩

namespace Literal

variable {base n : Nat} {c : Char} {digits cs : List Char}

/-! ## Digits -/

/-- Whether a character is a digit of a base, and its value; letters may be small or capital. -/
def IsDigit (base : Nat) (c : Char) (v : Nat) : Prop :=
  v < base ∧ (c = Nat.digitChar v ∨ c = (Nat.digitChar v).toUpper)

/-- Whether digits write a number in a base. -/
def Writes (base : Nat) (digits : List Char) (n : Nat) : Prop :=
  digits ≠ [] ∧ ∃ values, List.Forall₂ (IsDigit base) digits values ∧ n = Nat.ofDigits base values.reverse

theorem isDigit_iff (hbase : base ≤ 16) {v : Nat} :
    IsDigit base c v ↔ Text.alphanumericValue? c = some v ∧ v < base := by
  constructor
  · rintro ⟨hv, hc⟩
    have hsmall : ∀ v < 16, Text.alphanumericValue? (Nat.digitChar v) = some v := by decide
    have hcapital : ∀ v < 16, Text.alphanumericValue? (Nat.digitChar v).toUpper = some v := by decide
    refine ⟨?_, hv⟩
    rcases hc with rfl | rfl
    · exact hsmall v (by omega)
    · exact hcapital v (by omega)
  · rintro ⟨h, hv⟩
    have hdigit : ∀ v < 10, Char.ofNat (v + 48) = Nat.digitChar v := by decide
    have hsmall : ∀ v < 16, 10 ≤ v → Char.ofNat (v + 87) = Nat.digitChar v := by decide
    have hcapital : ∀ v < 16, 10 ≤ v → Char.ofNat (v + 55) = (Nat.digitChar v).toUpper := by decide
    refine ⟨hv, ?_⟩
    rcases Text.eq_ofNat_of_alphanumericValue? h with ⟨hlow, rfl⟩ | ⟨hlow, rfl | rfl⟩
    · exact .inl (hdigit v hlow)
    · exact .inl (hsmall v (by omega) hlow)
    · exact .inr (hcapital v (by omega) hlow)

/-- Takes one more digit into a number. -/
def takeDigit (base acc : Nat) (c : Char) : Option Nat :=
  match Text.alphanumericValue? c with
  | some v => if v < base then some (acc * base + v) else none
  | none => none

theorem numberIn?_eq (base : Nat) (digits : List Char) :
    numberIn? base digits = if digits = [] then none else digits.foldlM (takeDigit base) 0 := rfl

theorem takeDigit_eq_some_iff (hbase : base ≤ 16) {acc : Nat} :
    takeDigit base acc c = some n ↔ ∃ v, IsDigit base c v ∧ acc * base + v = n := by
  simp only [isDigit_iff hbase, takeDigit]
  cases Text.alphanumericValue? c with
  | none => simp
  | some v => simp

theorem foldlM_takeDigit_iff (hbase : base ≤ 16) {acc : Nat} :
    digits.foldlM (takeDigit base) acc = some n ↔
      ∃ values, List.Forall₂ (IsDigit base) digits values ∧
        n = values.foldl (fun acc v => acc * base + v) acc := by
  induction digits generalizing acc with
  | nil => simp [eq_comm]
  | cons c digits ih =>
    simp only [List.foldlM_cons, Option.bind_eq_bind, Option.bind_eq_some_iff,
      takeDigit_eq_some_iff hbase, ih, List.forall₂_cons_left_iff]
    constructor
    · rintro ⟨_, ⟨v, hv, rfl⟩, values, hvalues, rfl⟩
      exact ⟨_, ⟨v, values, hv, hvalues, rfl⟩, rfl⟩
    · rintro ⟨_, ⟨v, values, hv, hvalues, rfl⟩, rfl⟩
      exact ⟨_, ⟨v, hv, rfl⟩, values, hvalues, rfl⟩

theorem numberIn?_eq_some_iff (hbase : base ≤ 16) :
    numberIn? base digits = some n ↔ Writes base digits n := by
  rw [numberIn?_eq, Writes]
  split
  · rename_i hnil
    simp [hnil]
  · rename_i hne
    rw [foldlM_takeDigit_iff hbase, and_iff_right hne]
    refine exists_congr fun values => and_congr_right fun _ => ?_
    rw [Nat.ofDigits_eq_foldr, List.foldr_reverse]
    simp only [Nat.cast_id, Nat.add_comm, Nat.mul_comm]

/-! ## Numerals -/

/-- The marks, each behind its base. -/
def marks : List (Nat × Char) := [(16, 'x'), (16, 'X'), (8, 'o'), (8, 'O'), (2, 'b'), (2, 'B')]

/-- Whether a letter is the mark of a base. -/
def IsMark (base : Nat) (c : Char) : Prop := (base, c) ∈ marks

/-- Digits behind the mark of their base. -/
inductive Marked (base : Nat) : List Char → Nat → Prop
  | mk {c : Char} {digits : List Char} {n : Nat} : IsMark base c → Writes base digits n →
      Marked base ('0' :: c :: digits) n

/-- The numerals, each with its number. -/
inductive Numeral : List Char → Nat → Prop
  | marked {base : Nat} {cs : List Char} {n : Nat} : Marked base cs n → Numeral cs n
  | octal {digits : List Char} {n : Nat} : Writes 8 digits n → Numeral ('0' :: digits) n
  | zero : Numeral ['0'] 0
  | decimal {c : Char} {digits : List Char} {n : Nat} : c ≠ '0' → Writes 10 (c :: digits) n →
      Numeral (c :: digits) n

/-- Numerals that are marked although they stand behind a mark, or a zero, already. -/
inductive Remarked : List Char → Nat → Prop
  | marked {base : Nat} {c : Char} {cs : List Char} {n : Nat} : IsMark base c → Marked base cs n →
      Remarked ('0' :: c :: cs) n
  | octal {cs : List Char} {n : Nat} : Marked 8 cs n → Remarked ('0' :: cs) n

/-! ## Marks -/

theorem letterBase_eq_some_iff : letterBase c = some base ↔ IsMark base c := by
  unfold letterBase IsMark marks
  simp only [List.mem_cons, Prod.mk.injEq, List.not_mem_nil, or_false]
  split
  · rename_i h
    rcases h with rfl | rfl <;> simp [eq_comm]
  · split
    · rename_i h
      rcases h with rfl | rfl <;> simp [eq_comm]
    · split
      · rename_i h
        rcases h with rfl | rfl <;> simp [eq_comm]
      · simp_all

theorem IsMark.base_le (h : IsMark base c) : base ≤ 16 := by
  simp only [IsMark, marks, List.mem_cons, Prod.mk.injEq, List.not_mem_nil, or_false] at h
  omega

theorem IsMark.base_eq {other : Nat} (h : IsMark base c) (h' : IsMark other c) : other = base :=
  Option.some.inj ((letterBase_eq_some_iff.2 h').symm.trans (letterBase_eq_some_iff.2 h))

theorem IsMark.ne_zero (h : IsMark base c) : c ≠ '0' := by
  rintro rfl
  revert h
  simp [IsMark, marks]

/-- A mark is no digit of its own base, nor of one up to ten. -/
theorem IsMark.not_isDigit (h : IsMark base c) {other v : Nat} (hother : other = base ∨ other ≤ 10) :
    ¬ IsDigit other c v := by
  have hbase := h.base_le
  have hvalue : ∀ entry ∈ marks, ∃ value, Text.alphanumericValue? entry.2 = some value ∧
      entry.1 ≤ value ∧ 10 ≤ value := by decide
  obtain ⟨value, hread, hown, hten⟩ := hvalue _ h
  rw [isDigit_iff (by omega), hread]
  rintro ⟨hv, hlt⟩
  cases hv
  omega

theorem Writes.isDigit_of_mem (h : Writes base digits n) (hc : c ∈ digits) : ∃ v, IsDigit base c v := by
  obtain ⟨-, values, hvalues, -⟩ := h
  induction hvalues with
  | nil => cases hc
  | cons hv _ ih =>
    rcases List.mem_cons.1 hc with rfl | hc
    · exact ⟨_, hv⟩
    · exact ih hc

/-- Where there is a mark, no digits of its base stand, nor of one up to ten. -/
theorem IsMark.not_writes (h : IsMark base c) {other : Nat} (hother : other = base ∨ other ≤ 10)
    (hc : c ∈ digits) : ¬ Writes other digits n := fun hwrites =>
  let ⟨_, hv⟩ := hwrites.isDigit_of_mem hc
  h.not_isDigit hother hv

/-! ## Reading -/

theorem numberIn?_dropRepeatedMark_iff (hbase : base ≤ 16) :
    numberIn? base (dropRepeatedMark base digits) = some n ↔ Writes base digits n ∨ Marked base digits n := by
  rw [numberIn?_eq_some_iff hbase]
  unfold dropRepeatedMark
  split
  · rename_i c rest
    split
    · rename_i hletter
      have hmark := letterBase_eq_some_iff.1 hletter
      -- With the mark in front it cannot have been a plain numeral as well.
      have hnot : ¬ Writes base ('0' :: c :: rest) n := hmark.not_writes (.inl rfl) (by simp)
      rw [or_iff_right hnot]
      exact ⟨.mk hmark, fun | .mk _ hwrites => hwrites⟩
    · rename_i hletter
      refine (or_iff_left ?_).symm
      rintro ⟨hmark, -⟩
      exact hletter (letterBase_eq_some_iff.2 hmark)
  · rename_i hshape
    refine (or_iff_left ?_).symm
    rintro ⟨hmark, -⟩
    exact hshape _ _ rfl

theorem not_marked_ten : ¬ Marked 10 cs n := by
  rintro ⟨hmark, -⟩
  revert hmark
  simp [IsMark, marks]

theorem unsigned?_marked (h : IsMark base c) (rest : List Char) :
    unsigned? ('0' :: c :: rest) = numberIn? base (dropRepeatedMark base rest) := by
  simp [unsigned?, splitBase, letterBase_eq_some_iff.2 h]

theorem unsigned?_zero (h : ∀ base, ¬ IsMark base c) (rest : List Char) :
    unsigned? ('0' :: c :: rest) = numberIn? 8 (dropRepeatedMark 8 (c :: rest)) := by
  have hletter : letterBase c = none := by
    rw [Option.eq_none_iff_forall_ne_some]
    exact fun base hbase => h base (letterBase_eq_some_iff.1 hbase)
  simp [unsigned?, splitBase, hletter]

theorem unsigned?_plain (h : ∀ c rest, cs ≠ '0' :: c :: rest) :
    unsigned? cs = numberIn? 10 (dropRepeatedMark 10 cs) := by
  unfold unsigned? splitBase
  split
  rename_i hbase
  split at hbase
  · exact absurd rfl (h _ _)
  · cases hbase
    rfl

theorem writes_zero_iff : Writes 10 ['0'] n ↔ n = 0 := by
  have hzero : numberIn? 10 ['0'] = some 0 := rfl
  rw [← numberIn?_eq_some_iff (by decide), hzero, Option.some.injEq, eq_comm]

theorem numeral_marked_iff (hmark : IsMark base c) {rest : List Char} :
    Writes base rest n ∨ Marked base rest n ↔
      Numeral ('0' :: c :: rest) n ∨ Remarked ('0' :: c :: rest) n := by
  constructor
  · rintro (hwrites | hmarked)
    · exact .inl (.marked (.mk hmark hwrites))
    · exact .inr (.marked hmark hmarked)
  · rintro (hnumeral | hremarked)
    · cases hnumeral with
      | marked h =>
        obtain ⟨hmark', hwrites⟩ := h
        exact .inl (hmark.base_eq hmark' ▸ hwrites)
      | octal h => exact absurd h (hmark.not_writes (.inr (by decide)) List.mem_cons_self)
      | decimal h => exact absurd rfl h
    · cases hremarked with
      | marked hmark' h => exact .inr (hmark.base_eq hmark' ▸ h)
      | octal h =>
        cases h
        exact absurd rfl hmark.ne_zero

theorem numeral_octal_iff (h : ∀ base, ¬ IsMark base c) {rest : List Char} :
    Writes 8 (c :: rest) n ∨ Marked 8 (c :: rest) n ↔
      Numeral ('0' :: c :: rest) n ∨ Remarked ('0' :: c :: rest) n := by
  constructor
  · rintro (hwrites | hmarked)
    · exact .inl (.octal hwrites)
    · exact .inr (.octal hmarked)
  · rintro (hnumeral | hremarked)
    · cases hnumeral with
      | marked hmarked =>
        obtain ⟨hmark, -⟩ := hmarked
        exact absurd hmark (h _)
      | octal hwrites => exact .inl hwrites
      | decimal hne => exact absurd rfl hne
    · cases hremarked with
      | marked hmark => exact absurd hmark (h _)
      | octal hmarked => exact .inr hmarked

theorem numeral_decimal_iff (h : ∀ c rest, cs ≠ '0' :: c :: rest) :
    Writes 10 cs n ↔ Numeral cs n ∨ Remarked cs n := by
  constructor
  · intro hwrites
    cases cs with
    | nil => exact absurd rfl hwrites.1
    | cons c rest =>
      by_cases hc : c = '0'
      · subst hc
        cases rest with
        | nil =>
          rw [writes_zero_iff.1 hwrites]
          exact .inl .zero
        | cons c rest => exact absurd rfl (h c rest)
      · exact .inl (.decimal hc hwrites)
  · rintro (hnumeral | hremarked)
    · cases hnumeral with
      | marked hmarked =>
        cases hmarked
        exact absurd rfl (h _ _)
      | @octal digits _ hwrites =>
        cases digits with
        | nil => exact absurd rfl hwrites.1
        | cons c rest => exact absurd rfl (h c rest)
      | zero => exact writes_zero_iff.2 rfl
      | decimal _ hwrites => exact hwrites
    · cases hremarked with
      | marked => exact absurd rfl (h _ _)
      | octal hmarked =>
        cases hmarked
        exact absurd rfl (h _ _)

/-- A number is read from a numeral, or from one whose mark stands there twice. -/
theorem unsigned?_eq_some_iff : unsigned? cs = some n ↔ Numeral cs n ∨ Remarked cs n := by
  -- The first two characters settle the base; a zero alone is decimal.
  by_cases hshape : ∃ c rest, cs = '0' :: c :: rest
  · obtain ⟨c, rest, rfl⟩ := hshape
    by_cases hmarked : ∃ base, IsMark base c
    · obtain ⟨base, hmark⟩ := hmarked
      rw [unsigned?_marked hmark, numberIn?_dropRepeatedMark_iff hmark.base_le, numeral_marked_iff hmark]
    · rw [not_exists] at hmarked
      rw [unsigned?_zero hmarked, numberIn?_dropRepeatedMark_iff (by decide), numeral_octal_iff hmarked]
  · have hplain : ∀ c rest, cs ≠ '0' :: c :: rest := fun c rest h => hshape ⟨c, rest, h⟩
    rw [unsigned?_plain hplain, numberIn?_dropRepeatedMark_iff (by decide), or_iff_left not_marked_ten,
      numeral_decimal_iff hplain]

/-! ## Bytes -/

/-- What is marked twice is no numeral: the second mark is no digit. -/
theorem Remarked.not_numeral (h : Remarked cs n) (m : Nat) : ¬ Numeral cs m := by
  cases h with
  | marked hmark hmarked =>
    obtain ⟨hmark', -⟩ := hmarked
    rintro (⟨hfirst, hwrites⟩ | hwrites | _ | hne)
    · rw [hmark.base_eq hfirst] at hwrites
      exact hmark'.not_writes (.inl rfl) (by simp) hwrites
    · exact hmark.not_writes (.inr (by decide)) List.mem_cons_self hwrites
    · exact hne rfl
  | octal hmarked =>
    obtain ⟨hmark, -⟩ := hmarked
    rintro (⟨hfirst, -⟩ | hwrites | _ | hne)
    · exact hfirst.ne_zero rfl
    · exact hmark.not_writes (.inl rfl) (by simp) hwrites
    · exact hne rfl

theorem readByte_eq_ok_iff {name text : String} :
    readByte name text = .ok n ↔ n ≤ 255 ∧ unsigned? text.toList = some n := by
  unfold readByte
  cases unsigned? text.toList with
  | none => simp
  | some m =>
    simp only [Option.some.injEq]
    split
    · rename_i hle
      rw [Except.ok.injEq]
      exact ⟨fun h => ⟨h ▸ hle, h⟩, fun h => h.2⟩
    · rename_i hle
      simp only [reduceCtorEq, false_iff]
      rintro ⟨hn, rfl⟩
      exact hle hn

theorem readByte_eq_ok_or (name text : String) :
    (∃ n, readByte name text = .ok n) ∨ readByte name text = .error (.mismatch name .byte text) := by
  unfold readByte
  split
  · split
    · exact .inl ⟨_, rfl⟩
    · exact .inr rfl
  · exact .inr rfl

/-- A byte is read from the numerals up to 255. Against their grammar it is also read where a mark stands
behind a mark, or behind the zero of an octal numeral; no numeral is of this kind. Any other text is
refused. -/
theorem read_byte_iff (name text : String) :
    (∀ value, read .byte name text = .ok value ↔
      ∃ n ≤ 255, value = .byte n ∧ (Numeral text.toList n ∨ Remarked text.toList n)) ∧
    (read .byte name text = .error (.mismatch name .byte text) ↔
      ¬ ∃ n ≤ 255, Numeral text.toList n ∨ Remarked text.toList n) ∧
    ∀ n m, Remarked text.toList n → ¬ Numeral text.toList m := by
  have hread : ∀ n, readByte name text = .ok n ↔
      n ≤ 255 ∧ (Numeral text.toList n ∨ Remarked text.toList n) := fun n => by
    rw [readByte_eq_ok_iff, unsigned?_eq_some_iff]
  refine ⟨fun value => ?_, ⟨fun herror => ?_, fun hnone => ?_⟩, fun n m h => h.not_numeral m⟩
  · rw [read, Except.map_ok_iff]
    constructor
    · rintro ⟨n, hn, rfl⟩
      exact ⟨n, ((hread n).1 hn).1, rfl, ((hread n).1 hn).2⟩
    · rintro ⟨n, hle, rfl, hnumeral⟩
      exact ⟨n, (hread n).2 ⟨hle, hnumeral⟩, rfl⟩
  · rintro ⟨n, hn⟩
    rw [read, Except.map_error_iff, (hread n).2 hn] at herror
    cases herror
  · rw [read, Except.map_error_iff]
    refine (readByte_eq_ok_or name text).resolve_left ?_
    rintro ⟨n, hn⟩
    exact hnone ⟨n, (hread n).1 hn⟩

/-- A hexadecimal numeral whose mark stands there twice. -/
theorem repeated_mark_read : read .byte "R" "0x0x1f" = .ok (.byte 31) ∧ ∀ n, ¬ Numeral "0x0x1f".toList n := by
  have hwrites : Writes 16 ['1', 'f'] 31 := (numberIn?_eq_some_iff (by decide)).1 rfl
  have hmark : IsMark 16 'x' := by simp [IsMark, marks]
  have hremarked : Remarked "0x0x1f".toList 31 := .marked hmark (.mk hmark hwrites)
  exact ⟨rfl, hremarked.not_numeral⟩

end Literal

end PageTemplate
