/-
The literals of durations. A literal is a sign or none, and behind it a lone
zero or parts, each a numeral with a digit and the spelling of a unit right
behind it (`Part`); nothing else is a duration.

The parts are found one after the other to the end of the text. A part is found
whatever stands behind it (`readPart?_text`), but for a minute, which an `s`
behind it makes a millisecond (`readPart?_minute`); so a text of parts is read as
just these parts (`sumParts?_eq_some_iff`). What they come to is never a NaN
(`total_isUnsigned`), and it is rounded to the nearest microsecond, so a literal
has a duration unless that is out of range (`ofText?_written`).
-/
import PageTemplate.Calendar.Duration
import PageTemplate.Proofs.Binary64.Decimal

namespace PageTemplate.Calendar.Duration

open Binary64 (numeral)

variable {cs rest whole : List Char} {fraction : Option (List Char)} {unit : TimeUnit}

/-! ## Numerals -/

theorem isAsciiDigit_point : Text.isAsciiDigit '.' = false := rfl

/-- A numeral ends where neither a digit nor a point can go on with it. -/
theorem splitNumeral_numeral (hdigits : ∀ c ∈ whole ++ fraction.getD [], Text.isAsciiDigit c = true)
    (hrest : ∀ c ∈ rest.head?, Text.isAsciiDigit c = false ∧ c ≠ '.') :
    splitNumeral (numeral whole fraction ++ rest) = (numeral whole fraction, rest) := by
  obtain ⟨hwhole, hfraction⟩ := List.forall_mem_append.1 hdigits
  have htake : rest.takeWhile Text.isAsciiDigit = [] := by
    cases rest with
    | nil => rfl
    | cons c rest => simp [(hrest c rfl).1]
  have hdrop : rest.dropWhile Text.isAsciiDigit = rest := by
    cases rest with
    | nil => rfl
    | cons c rest => simp [(hrest c rfl).1]
  unfold splitNumeral numeral
  cases fraction with
  | none =>
    simp only [List.takeWhile_append_of_pos hwhole, List.dropWhile_append_of_pos hwhole, htake, hdrop, List.append_nil]
    split
    · rename_i tail
      exact absurd rfl (hrest '.' rfl).2
    · rfl
  | some fraction =>
    simp only [Option.getD_some] at hfraction
    simp [List.takeWhile_append_of_pos hwhole, List.dropWhile_append_of_pos hwhole, isAsciiDigit_point,
      List.takeWhile_append_of_pos hfraction, List.dropWhile_append_of_pos hfraction, htake, hdrop]

/-- What is split off is a numeral, perhaps without a digit. -/
theorem splitNumeral_eq (cs : List Char) : ∃ whole fraction rest,
    (∀ c ∈ whole ++ fraction.getD [], Text.isAsciiDigit c = true) ∧
      splitNumeral cs = (numeral whole fraction, rest) ∧ cs = numeral whole fraction ++ rest := by
  have hcs := List.takeWhile_append_dropWhile (p := Text.isAsciiDigit) (l := cs)
  have hwhole : ∀ c ∈ cs.takeWhile Text.isAsciiDigit, Text.isAsciiDigit c = true := fun c => List.mem_takeWhile_imp
  unfold splitNumeral
  simp only
  split
  · rename_i tail hdrop
    have htail := List.takeWhile_append_dropWhile (p := Text.isAsciiDigit) (l := tail)
    refine ⟨cs.takeWhile Text.isAsciiDigit, some (tail.takeWhile Text.isAsciiDigit), _, ?_, rfl, ?_⟩
    · exact List.forall_mem_append.2 ⟨hwhole, fun c => List.mem_takeWhile_imp⟩
    · rw [numeral, List.append_assoc, List.cons_append, htail, ← hdrop, hcs]
  · refine ⟨cs.takeWhile Text.isAsciiDigit, none, _, ?_, rfl, hcs.symm⟩
    simpa using hwhole

/-- A numeral without a digit is nothing at all, or a lone point. -/
theorem numeral_blank_iff (hdigits : ∀ c ∈ whole ++ fraction.getD [], Text.isAsciiDigit c = true) :
    numeral whole fraction = [] ∨ numeral whole fraction = ['.'] ↔ whole ++ fraction.getD [] = [] := by
  have hpoint : whole ≠ ['.'] := by
    rintro rfl
    exact absurd (hdigits '.' (by simp)) (by decide)
  cases fraction with
  | none => simp [numeral, hpoint]
  | some fraction =>
    cases whole with
    | nil => simp [numeral]
    | cons c whole => simp [numeral]

/-- Every numeral with a digit is read. -/
theorem readDecimal?_splitNumeral (hnil : (splitNumeral cs).1 ≠ []) (hpoint : (splitNumeral cs).1 ≠ ['.']) :
    ∃ number, Binary64.readDecimal? false (splitNumeral cs).1 = some number := by
  obtain ⟨whole, fraction, rest, hdigits, hsplit, -⟩ := splitNumeral_eq cs
  rw [hsplit] at hnil hpoint ⊢
  have hsome : whole ++ fraction.getD [] ≠ [] := fun hempty =>
    ((numeral_blank_iff hdigits).2 hempty).elim hnil hpoint
  exact ⟨_, Binary64.readDecimal?_numeral hdigits hsome⟩

/-! ## Units -/

/-- A spelling is found, unless it is that of a minute and an `s` goes on with it. -/
theorem readUnit?_spelling {spelling : List Char} (h : (spelling, unit) ∈ unitSpellings)
    (hrest : spelling = ['m'] → rest.head? ≠ some 's') : readUnit? (spelling ++ rest) = some (unit, rest) := by
  simp only [unitSpellings, List.mem_cons, Prod.mk.injEq, List.not_mem_nil, or_false] at h
  rcases h with ⟨rfl, rfl⟩ | ⟨rfl, rfl⟩ | ⟨rfl, rfl⟩ | ⟨rfl, rfl⟩ | ⟨rfl, rfl⟩ | ⟨rfl, rfl⟩ | ⟨rfl, rfl⟩ | ⟨rfl, rfl⟩
  case inr.inr.inr.inr.inr.inr.inl =>
    have hnext := hrest rfl
    cases rest with
    | nil => rfl
    | cons c rest =>
      have hc : c ≠ 's' := fun h => hnext (by rw [h]; rfl)
      simp [readUnit?, unitSpellings, Ne.symm hc]
  all_goals simp [readUnit?, unitSpellings]

/-- A unit that is found is that of a spelling at the head. -/
theorem readUnit?_ok (h : readUnit? cs = some (unit, rest)) :
    ∃ spelling, (spelling, unit) ∈ unitSpellings ∧ cs = spelling ++ rest := by
  obtain ⟨⟨spelling, unit'⟩, hmem, hfound⟩ := List.exists_of_findSome?_eq_some h
  simp only at hfound
  split at hfound
  · rename_i hprefix
    cases hfound
    obtain ⟨tail, rfl⟩ := List.isPrefixOf_iff_prefix.1 hprefix
    exact ⟨spelling, hmem, by simp⟩
  · cases hfound

/-- A spelling begins with a letter, so that no numeral can go on with it. -/
theorem head_spelling {spelling : List Char} (h : (spelling, unit) ∈ unitSpellings) (rest : List Char) :
    ∀ c ∈ (spelling ++ rest).head?, Text.isAsciiDigit c = false ∧ c ≠ '.' := by
  have htable : ∀ entry ∈ unitSpellings, ∃ c tail, entry.1 = c :: tail ∧ Text.isAsciiDigit c = false ∧ c ≠ '.' := by
    simp [unitSpellings]
    decide
  obtain ⟨c, tail, hspelling, hc⟩ := htable _ h
  rw [show spelling = c :: tail from hspelling]
  rintro _ ⟨⟩
  exact hc

/-! ## Parts -/

/-- A part of a literal: a numeral with a digit, and the spelling of a unit. -/
structure Part where
  whole : List Char
  fraction : Option (List Char)
  spelling : List Char
  unit : TimeUnit
  digits : ∀ c ∈ whole ++ fraction.getD [], Text.isAsciiDigit c = true
  hasDigit : whole ++ fraction.getD [] ≠ []
  spelled : (spelling, unit) ∈ unitSpellings

namespace Part

def text (part : Part) : List Char := numeral part.whole part.fraction ++ part.spelling

/-- The number of the numeral. -/
def number (part : Part) : Binary64 := Binary64.ofNumeral part.whole part.fraction

/-- The worth of the part in microseconds. -/
def micros (part : Part) : Binary64 := part.number.mul part.unit.worth

end Part

/-- The parts one behind the other. -/
def written (parts : List Part) : List Char := parts.flatMap Part.text

/-- What the parts come to, added from the left. -/
def total (sum : Binary64) (parts : List Part) : Binary64 := parts.foldl (fun sum part => sum.add part.micros) sum

@[simp] theorem written_nil : written [] = [] := rfl

@[simp] theorem written_cons (part : Part) (parts : List Part) :
    written (part :: parts) = part.text ++ written parts := rfl

/-- A part begins with a digit or a point, and has something behind it. -/
theorem Part.text_eq_cons (part : Part) :
    ∃ c tail, part.text = c :: tail ∧ tail ≠ [] ∧ (Text.isAsciiDigit c = true ∨ c = '.') := by
  obtain ⟨whole, fraction, spelling, unit, hdigits, hsome, hspelled⟩ := part
  have hspelling : spelling ≠ [] := by
    rintro rfl
    exact absurd hspelled (by simp [unitSpellings])
  obtain ⟨c, tail, hnumeral, hc⟩ :
      ∃ c tail, numeral whole fraction = c :: tail ∧ (Text.isAsciiDigit c = true ∨ c = '.') := by
    cases whole with
    | cons c whole => cases fraction <;> exact ⟨c, _, rfl, .inl (hdigits c (by simp))⟩
    | nil =>
      cases fraction with
      | none => exact absurd rfl hsome
      | some fraction => exact ⟨'.', _, rfl, .inr rfl⟩
  refine ⟨c, tail ++ spelling, ?_, by simp [hspelling], hc⟩
  rw [Part.text, hnumeral, List.cons_append]

theorem head_written (parts : List Part) : ∀ c ∈ (written parts).head?, Text.isAsciiDigit c = true ∨ c = '.' := by
  cases parts with
  | nil => simp
  | cons part parts =>
    obtain ⟨c, tail, htext, -, hc⟩ := part.text_eq_cons
    rw [written_cons, htext]
    rintro _ ⟨⟩
    exact hc

theorem length_le_length_written (parts : List Part) : parts.length ≤ (written parts).length := by
  induction parts with
  | nil => simp
  | cons part parts ih =>
    obtain ⟨c, tail, htext, -, -⟩ := part.text_eq_cons
    simp only [written_cons, htext, List.length_cons, List.length_append]
    omega

/-- What the numeral of a part leaves. -/
theorem readPart?_numeral (hdigits : ∀ c ∈ whole ++ fraction.getD [], Text.isAsciiDigit c = true)
    (hsome : whole ++ fraction.getD [] ≠ []) (hrest : ∀ c ∈ rest.head?, Text.isAsciiDigit c = false ∧ c ≠ '.') :
    readPart? (numeral whole fraction ++ rest) =
      (readUnit? rest).map fun found => (Binary64.ofNumeral whole fraction, found) := by
  have hblank := mt (numeral_blank_iff hdigits).1 hsome
  rw [not_or] at hblank
  unfold readPart?
  simp only [splitNumeral_numeral hdigits hrest, Binary64.readDecimal?_numeral hdigits hsome]
  rw [if_neg (by simpa using hblank)]
  cases readUnit? rest <;> rfl

/-- A part is read, whatever stands behind it; only a minute has no `s` behind it. -/
theorem readPart?_text (part : Part) (hrest : part.spelling = ['m'] → rest.head? ≠ some 's') :
    readPart? (part.text ++ rest) = some (part.number, part.unit, rest) := by
  rw [Part.text, List.append_assoc, readPart?_numeral part.digits part.hasDigit (head_spelling part.spelled rest),
    readUnit?_spelling part.spelled hrest]
  rfl

/-- A minute with an `s` behind it is a millisecond. -/
theorem readPart?_minute (part : Part) (h : part.spelling = ['m']) (rest : List Char) :
    readPart? (part.text ++ 's' :: rest) = some (part.number, .millisecond, rest) := by
  have hhead := head_spelling part.spelled ('s' :: rest)
  have hunit : readUnit? (['m'] ++ 's' :: rest) = some (.millisecond, rest) := by simp [readUnit?, unitSpellings]
  rw [Part.text, List.append_assoc, readPart?_numeral part.digits part.hasDigit hhead, h, hunit]
  rfl

/-- What is read is a part at the head. -/
theorem readPart?_ok {number : Binary64} (h : readPart? cs = some (number, unit, rest)) :
    ∃ part : Part, cs = part.text ++ rest ∧ number = part.number ∧ unit = part.unit := by
  obtain ⟨whole, fraction, tail, hdigits, hsplit, rfl⟩ := splitNumeral_eq cs
  unfold readPart? at h
  simp only [hsplit] at h
  split at h
  · cases h
  · rename_i hblank
    have hsome : whole ++ fraction.getD [] ≠ [] := fun hempty =>
      hblank (by simpa using (numeral_blank_iff hdigits).2 hempty)
    rw [Binary64.readDecimal?_numeral hdigits hsome] at h
    split at h
    · cases h
    · rename_i hunit
      cases h
      obtain ⟨spelling, hspelled, rfl⟩ := readUnit?_ok hunit
      exact ⟨⟨whole, fraction, spelling, _, hdigits, hsome, hspelled⟩, by simp [Part.text], rfl, rfl⟩

/-- Every part takes characters. -/
theorem readPart?_length {number : Binary64} (h : readPart? cs = some (number, unit, rest)) :
    rest.length < cs.length := by
  obtain ⟨part, rfl, -, -⟩ := readPart?_ok h
  obtain ⟨c, tail, htext, -, -⟩ := part.text_eq_cons
  rw [htext, List.cons_append, List.length_cons, List.length_append]
  omega

/-- Parts are added one after the other to the end of the text. -/
theorem sumParts?_written {parts : List Part} {sum : Binary64} {fuel : Nat} (hfuel : parts.length ≤ fuel) :
    sumParts? sum fuel (written parts) = some (total sum parts) := by
  induction parts generalizing sum fuel with
  | nil => cases fuel <;> rfl
  | cons part parts ih =>
    obtain ⟨c, tail, htext, -, -⟩ := part.text_eq_cons
    have hpart : readPart? (part.text ++ written parts) = some (part.number, part.unit, written parts) :=
      readPart?_text part fun _ hs => absurd (head_written parts 's' hs) (by decide)
    cases fuel with
    | zero => simp at hfuel
    | succ fuel =>
      rw [written_cons]
      rw [htext, List.cons_append] at hpart ⊢
      simp only [sumParts?, hpart]
      exact ih (by simpa using hfuel)

/-- What is added to the end is a text of parts. -/
theorem sumParts?_ok {sum result : Binary64} {fuel : Nat} (h : sumParts? sum fuel cs = some result) :
    ∃ parts, cs = written parts ∧ result = total sum parts := by
  induction fuel generalizing sum cs with
  | zero =>
    cases cs with
    | nil => cases h; exact ⟨[], rfl, rfl⟩
    | cons c cs => cases h
  | succ fuel ih =>
    cases cs with
    | nil => cases h; exact ⟨[], rfl, rfl⟩
    | cons c cs =>
      simp only [sumParts?] at h
      split at h
      · cases h
      · rename_i hpart
        obtain ⟨part, hcs, rfl, rfl⟩ := readPart?_ok hpart
        obtain ⟨parts, rfl, rfl⟩ := ih h
        exact ⟨part :: parts, hcs, rfl⟩

/-- With as much fuel as there are characters, just the texts of parts are added up. -/
theorem sumParts?_eq_some_iff {sum result : Binary64} {fuel : Nat} (hfuel : cs.length ≤ fuel) :
    sumParts? sum fuel cs = some result ↔ ∃ parts, cs = written parts ∧ result = total sum parts := by
  constructor
  · exact sumParts?_ok
  · rintro ⟨parts, rfl, rfl⟩
    exact sumParts?_written (Nat.le_trans (length_le_length_written parts) hfuel)

/-! ## The sum -/

theorem worth_isUnsigned (unit : TimeUnit) :
    unit.worth.IsUnsigned ∧ unit.worth.isFinite = true ∧ unit.worth.magnitude ≠ 0 := by
  cases unit <;> refine ⟨Binary64.isUnsigned_ofRatio _ _, ?_⟩ <;> decide +kernel

theorem Part.micros_isUnsigned (part : Part) : part.micros.IsUnsigned := by
  obtain ⟨hworth, hfinite, hpos⟩ := worth_isUnsigned part.unit
  exact (Binary64.isUnsigned_ofRatio _ _).mul hworth hfinite hpos

/-- However many parts there are, their sum is a number or the infinity above all. -/
theorem total_isUnsigned {sum : Binary64} (h : sum.IsUnsigned) (parts : List Part) : (total sum parts).IsUnsigned := by
  induction parts generalizing sum with
  | nil => exact h
  | cons part parts ih => exact ih (h.add part.micros_isUnsigned)

/-! ## Literals -/

theorem inRange_iff {n : Int} :
    inRange n = true ↔ -(999999999 * microsPerDay) ≤ n ∧ n < 1000000000 * microsPerDay := by
  unfold inRange microsPerDay
  simp only [Bool.and_eq_true, decide_eq_true_eq]
  rw [Int.fdiv_eq_ediv_of_nonneg n (by decide)]
  omega

/-- Whether `d` is a number of microseconds rounded to a whole one. It is none only where that is
out of range, or where an infinity has none. -/
def Rounds (micros : Binary64) (d : Option Duration) : Prop :=
  (micros.round = .error .infinityToInteger ∧ micros.isInfinite = true ∧ d = none) ∨
    ∃ n, micros.round = .ok n ∧ micros.IsNearest n ∧
      d = if -(999999999 * microsPerDay) ≤ n ∧ n < 1000000000 * microsPerDay then some ⟨n⟩ else none

theorem ofMicros?_rounds {micros : Binary64} (h : micros ≠ .nan) : Rounds micros (ofMicros? micros) := by
  cases hmicros : micros with
  | nan => exact absurd hmicros h
  | infinity negative => exact .inl ⟨rfl, rfl, rfl⟩
  | finite negative significand exponent hcanonical =>
    obtain ⟨n, hround, hnearest⟩ := Binary64.round_isNearest (x := .finite negative significand exponent hcanonical) rfl
    refine .inr ⟨n, hround, hnearest, ?_⟩
    simp only [ofMicros?, hround, inRange_iff]

/-- The signs, each with whether the number behind it is negated. -/
def signs : List (List Char × Bool) := [([], false), (['+'], false), (['-'], true)]

/-- What the parts come to, in microseconds, negated behind a minus. -/
def signedTotal (negative : Bool) (parts : List Part) : Binary64 :=
  if negative then (total (Binary64.zero false) parts).neg else total (Binary64.zero false) parts

theorem signedTotal_ne_nan (negative : Bool) (parts : List Part) : signedTotal negative parts ≠ .nan := by
  have hunsigned := total_isUnsigned Binary64.isUnsigned_zero parts
  unfold signedTotal
  split
  · exact hunsigned.neg_ne_nan
  · exact hunsigned.1

/-- A sign is told from what stands behind it, unless another sign does. -/
theorem splitSign_signs {sign : List Char × Bool} (hsign : sign ∈ signs)
    (hrest : ∀ c ∈ rest.head?, c ≠ '+' ∧ c ≠ '-') : Binary64.splitSign (sign.1 ++ rest) = (sign.2, rest) := by
  simp only [signs, List.mem_cons, List.not_mem_nil, or_false] at hsign
  rcases hsign with rfl | rfl | rfl
  · rw [List.nil_append]
    unfold Binary64.splitSign
    split
    · exact absurd rfl (hrest '-' rfl).2
    · exact absurd rfl (hrest '+' rfl).1
    · rfl
  · rfl
  · rfl

theorem splitSign_eq (cs : List Char) :
    ∃ sign ∈ signs, ∃ rest, cs = sign.1 ++ rest ∧ Binary64.splitSign cs = (sign.2, rest) := by
  unfold Binary64.splitSign
  split
  · exact ⟨(['-'], true), by simp [signs], _, rfl, rfl⟩
  · exact ⟨(['+'], false), by simp [signs], _, rfl, rfl⟩
  · exact ⟨([], false), by simp [signs], _, rfl, rfl⟩

theorem ofText?_zero {s : String} {sign : List Char × Bool} (hsign : sign ∈ signs)
    (hs : s.toList = sign.1 ++ ['0']) : ofText? s = some ⟨0⟩ := by
  unfold ofText?
  rw [hs, splitSign_signs hsign (by simp)]
  rfl

theorem ofText?_written {s : String} {sign : List Char × Bool} (hsign : sign ∈ signs) {parts : List Part}
    (hparts : parts ≠ []) (hs : s.toList = sign.1 ++ written parts) :
    Rounds (signedTotal sign.2 parts) (ofText? s) := by
  have hhead : ∀ c ∈ (written parts).head?, c ≠ '+' ∧ c ≠ '-' := fun c hc => by
    have hstart := head_written parts c hc
    constructor <;> rintro rfl <;> exact absurd hstart (by decide)
  have hsum : sumParts? (Binary64.zero false) (written parts).length (written parts) =
      some (total (Binary64.zero false) parts) := sumParts?_written (length_le_length_written parts)
  have hbody : ∃ c tail, written parts = c :: tail ∧ tail ≠ [] := by
    obtain ⟨part, more, rfl⟩ := List.exists_cons_of_ne_nil hparts
    obtain ⟨c, tail, htext, htail, -⟩ := part.text_eq_cons
    exact ⟨c, tail ++ written more, by rw [written_cons, htext, List.cons_append], by simp [htail]⟩
  obtain ⟨c, tail, hwritten, htail⟩ := hbody
  have htext : ofText? s = ofMicros? (signedTotal sign.2 parts) := by
    unfold ofText?
    rw [hs, splitSign_signs hsign hhead]
    simp only [hsum]
    rw [hwritten, if_neg (by simp [htail]), if_neg (by simp), signedTotal]
  rw [htext]
  exact ofMicros?_rounds (signedTotal_ne_nan _ _)

/-- Nothing else is a duration. -/
theorem ofText?_eq_none {s : String} (hzero : ∀ sign ∈ signs, s.toList ≠ sign.1 ++ ['0'])
    (hwritten : ∀ sign ∈ signs, ∀ parts, parts ≠ [] → s.toList ≠ sign.1 ++ written parts) : ofText? s = none := by
  obtain ⟨sign, hsign, rest, hs, hsplit⟩ := splitSign_eq s.toList
  unfold ofText?
  rw [hsplit]
  simp only
  split
  · rename_i hrest
    exact absurd (hrest ▸ hs) (hzero sign hsign)
  · split
    · rfl
    · rename_i hnil
      split
      · rfl
      · rename_i hsum
        obtain ⟨parts, rfl, -⟩ := sumParts?_ok hsum
        exact absurd hs (hwritten sign hsign parts (by rintro rfl; exact hnil rfl))

/-- A literal is read part by part to its end, and has a duration unless that is out of range. -/
theorem ofText?_reads (s : String) :
    -- A step takes one part off the head, and ends with the text.
    (∀ cs number unit rest, readPart? cs = some (number, unit, rest) →
      ∃ part : Part, cs = part.text ++ rest ∧ number = part.number ∧ unit = part.unit ∧ rest.length < cs.length) ∧
    (∀ sum fuel cs, cs.length ≤ fuel → sumParts? sum fuel cs = sumParts? sum cs.length cs) ∧
    -- Whatever the units stand behind is a number.
    (∀ cs, (splitNumeral cs).1 ≠ [] → (splitNumeral cs).1 ≠ ['.'] →
      ∃ number, Binary64.readDecimal? false (splitNumeral cs).1 = some number) ∧
    (∀ (part : Part) rest, part.spelling = ['m'] →
      readPart? (part.text ++ 's' :: rest) = some (part.number, .millisecond, rest)) ∧
    -- Only a lone zero and parts are durations.
    ((∀ sign ∈ signs, s.toList ≠ sign.1 ++ ['0'] ∧ ∀ parts, parts ≠ [] → s.toList ≠ sign.1 ++ written parts) →
      ofText? s = none) ∧
    (∀ sign ∈ signs, s.toList = sign.1 ++ ['0'] → ofText? s = some ⟨0⟩) ∧
    ∀ sign ∈ signs, ∀ parts, parts ≠ [] → s.toList = sign.1 ++ written parts →
      Rounds (signedTotal sign.2 parts) (ofText? s) := by
  refine ⟨fun cs number unit rest h => ?_, fun sum fuel cs hfuel => ?_, fun cs => readDecimal?_splitNumeral,
    fun part rest h => readPart?_minute part h rest, fun h => ?_, fun sign hsign => ofText?_zero hsign,
    fun sign hsign parts => ofText?_written hsign⟩
  · obtain ⟨part, hcs, hnumber, hunit⟩ := readPart?_ok h
    exact ⟨part, hcs, hnumber, hunit, readPart?_length h⟩
  · refine Option.ext fun result => ?_
    rw [sumParts?_eq_some_iff hfuel, sumParts?_eq_some_iff (Nat.le_refl _)]
  · exact ofText?_eq_none (fun sign hsign => (h sign hsign).1) fun sign hsign => (h sign hsign).2

/-- The `m` in front of another numeral is a minute, the one in front of an `s` is not. -/
theorem ofText?_reads_minute_millisecond : ∃ parts : List Part, parts.length = 2 ∧
    Rounds (signedTotal true parts) (ofText? "-1m2.5ms") ∧ ofText? "-1m2.5ms" = some ⟨-60002500⟩ := by
  have hone : ∀ c ∈ ['1'] ++ [], Text.isAsciiDigit c = true := by simp [Text.isAsciiDigit]
  have htwo : ∀ c ∈ ['2'] ++ ['5'], Text.isAsciiDigit c = true := by simp [Text.isAsciiDigit]
  refine ⟨[⟨['1'], none, ['m'], .minute, hone, by simp, by simp [unitSpellings]⟩,
    ⟨['2'], some ['5'], ['m', 's'], .millisecond, htwo, by simp, by simp [unitSpellings]⟩], rfl, ?_, by decide +kernel⟩
  exact (ofText?_reads "-1m2.5ms").2.2.2.2.2.2 (['-'], true) (by simp [signs]) _ (by simp) rfl

end PageTemplate.Calendar.Duration
