/-
The search for a size, try by try, whatever the measure answers.

Where the arithmetic does not fail, the tries follow a path of sizes that the
widths of the earlier tries settle, and go along it to the first one that fits,
or to the last one that is allowed (`search_fits`, `search_exhausted`). In
binary64 it does not fail as long as the widths are in range (`leads_path`), so
running out of tries is the only failure.

A size that is found is the one measured last, and the width is the width at
this size (`search_tries`). The offset is that of the last try that left some of
the width free: where the text found is as wide as it may be, an earlier try may
have been narrower and yet not have fitted, and then the text is moved by what
that try left free (`offset_of_movedBy`).
-/
import PageTemplate.Proofs.Drawing.Fitting

namespace PageTemplate

namespace Fit

variable {Size Failure : Type} {arithmetic : FitArithmetic Size Failure} {allowed : Int}

/-! ## The path of the sizes -/

section Path

variable {measure : Nat → Size → Bool × Int} {size : Nat → Size}

/-- A measure that never fails. -/
def answering (measure : Nat → Size → Bool × Int) : Nat → Size → Except Failure (Bool × Int) :=
  fun place size => .ok (measure place size)

/-- The try in some place of a path of sizes. -/
def tryAt (measure : Nat → Size → Bool × Int) (size : Nat → Size) (place : Nat) : FitTry Size :=
  ⟨size place, some (measure place (size place))⟩

/-- Whether each size of a path is the one that the search goes on with, after the width of the try
before. -/
def Leads (arithmetic : FitArithmetic Size Failure) (measure : Nat → Size → Bool × Int) (allowed : Int)
    (size : Nat → Size) : Prop :=
  ∀ place offset, ∃ moved, adjust arithmetic allowed (measure place (size place)).2 (size place) offset =
    .ok (size (place + 1), moved)

/-- A try that fits ends the search. -/
theorem search_of_fits (h : Leads arithmetic measure allowed size) {place : Nat} (offset : Int) (remaining : Nat)
    (hfits : (measure place (size place)).1 = true) :
    ∃ found, search arithmetic (answering measure) allowed (remaining + 1) place (size place) offset =
      ([tryAt measure size place], .ok found) ∧ found.tries = place + 1 := by
  obtain ⟨moved, hadjust⟩ := h place offset
  refine ⟨⟨size (place + 1), moved, (measure place (size place)).2, place + 1⟩, ?_, rfl⟩
  rw [search]
  simp only [answering, hadjust]
  rw [if_pos hfits]
  rfl

/-- A try that does not fit is followed by the search from the next size on. -/
theorem search_of_misfits (h : Leads arithmetic measure allowed size) {place : Nat} (offset : Int) (remaining : Nat)
    (hmisfits : (measure place (size place)).1 = false) :
    ∃ moved, search arithmetic (answering measure) allowed (remaining + 1) place (size place) offset =
      (tryAt measure size place ::
        (search arithmetic (answering measure) allowed remaining (place + 1) (size (place + 1)) moved).1,
        (search arithmetic (answering measure) allowed remaining (place + 1) (size (place + 1)) moved).2) := by
  obtain ⟨moved, hadjust⟩ := h place offset
  refine ⟨moved, ?_⟩
  rw [search]
  simp only [answering, hadjust]
  rw [if_neg (by simp [hmisfits])]
  rfl

/-- The search goes along the path to the first size that fits, if the tries allowed get there. -/
theorem search_fits (h : Leads arithmetic measure allowed size) {remaining place last n : Nat} (offset : Int)
    (hlast : place + n = last) (hn : n < remaining)
    (hmisfits : ∀ k, place ≤ k → k < last → (measure k (size k)).1 = false)
    (hfits : (measure last (size last)).1 = true) :
    ∃ found, search arithmetic (answering measure) allowed remaining place (size place) offset =
      ((List.range' place (n + 1)).map (tryAt measure size), .ok found) ∧ found.tries = last + 1 := by
  induction n generalizing remaining place offset with
  | zero =>
    obtain ⟨more, rfl⟩ : ∃ more, remaining = more + 1 := ⟨remaining - 1, by omega⟩
    obtain rfl : place = last := hlast
    exact search_of_fits h offset more hfits
  | succ n ih =>
    obtain ⟨more, rfl⟩ : ∃ more, remaining = more + 1 := ⟨remaining - 1, by omega⟩
    obtain ⟨moved, hsearch⟩ := search_of_misfits h offset more (hmisfits place (by omega) (by omega))
    obtain ⟨found, hrest, htries⟩ := @ih more (place + 1) moved (by omega) (by omega)
      (fun k hk hk' => hmisfits k (by omega) hk')
    refine ⟨found, ?_, htries⟩
    rw [hsearch, hrest]
    rfl

/-- Where no size fits that the tries allowed get to, the search measures them all and gives up. -/
theorem search_exhausted (h : Leads arithmetic measure allowed size) {remaining place last : Nat} (offset : Int)
    (hlast : place + remaining = last) (hmisfits : ∀ k, place ≤ k → k < last → (measure k (size k)).1 = false) :
    search arithmetic (answering measure) allowed remaining place (size place) offset =
      ((List.range' place remaining).map (tryAt measure size), .error (.exhausted last)) := by
  induction remaining generalizing place offset with
  | zero => rw [← hlast]; rfl
  | succ remaining ih =>
    obtain ⟨moved, hsearch⟩ := search_of_misfits h offset remaining (hmisfits place (by omega) (by omega))
    rw [hsearch, ih moved (by omega) fun k hk hk' => hmisfits k (by omega) hk']
    rfl

end Path

/-! ## The path in binary64 -/

/-- The sizes at which a text is measured: its size in pixels, and after a try that came out too wide the
size times the width allowed over the width measured. -/
def path (measure : Nat → Binary64 → Bool × Int) (allowed : Int) (points resolution : Binary64) : Nat → Binary64
  | 0 => (points.div (Binary64.ofRatio false 72 1)).mul resolution
  | place + 1 =>
    let size := path measure allowed points resolution place
    let width := (measure place size).2
    if allowed < width then size.mul (Binary64.ofRatio false allowed.natAbs width.natAbs) else size

/-- A width can be moved into while it is in range. -/
theorem offset_of_lt (alignment : Alignment) {width : Int} (hallowed : allowed.natAbs < Binary64.overflowBound)
    (hwidth : width.natAbs < Binary64.overflowBound) : ∃ moved, alignment.offset (allowed - width) = .ok moved := by
  cases hoffset : alignment.offset (allowed - width) with
  | ok moved => exact ⟨moved, rfl⟩
  | error e =>
    obtain ⟨-, -, hlarge⟩ := Alignment.offset_error hoffset
    omega

/-- Widths that are in range settle the next size, and no quotient of them lacks a number. -/
theorem leads_path {measure : Nat → Binary64 → Bool × Int} {alignment : Alignment} {points resolution : Binary64}
    (hpos : 0 < allowed) (hallowed : allowed.natAbs < Binary64.overflowBound)
    (hwidths : ∀ place size, (measure place size).2.natAbs < Binary64.overflowBound) :
    Leads (binary64Arithmetic alignment) measure allowed (path measure allowed points resolution) := by
  intro place offset
  rw [path]
  have hwidth := hwidths place (path measure allowed points resolution place)
  generalize path measure allowed points resolution place = size at hwidth ⊢
  generalize (measure place size).2 = width at hwidth ⊢
  unfold adjust
  by_cases hlt : allowed < width
  · have hbound := Binary64.overflowBound_pos
    have hle : width.natAbs ≤ Binary64.overflowBound * width.natAbs := Nat.le_mul_of_pos_left _ (by omega)
    have hquotient := Binary64.ofQuotient_of_lt (a := allowed) (b := width) (by omega) (by omega)
    have hsign : (decide (allowed < 0) != decide (width < 0)) = false := by
      rw [decide_eq_false (by omega), decide_eq_false (by omega)]
      rfl
    rw [hsign] at hquotient
    refine ⟨offset, ?_⟩
    simp only [if_pos hlt, binary64Arithmetic, hquotient, Except.map]
  · rw [if_neg hlt, if_neg hlt]
    split
    · obtain ⟨moved, hmoved⟩ := offset_of_lt alignment hallowed hwidth
      exact ⟨moved, by simp [binary64Arithmetic, hmoved, Except.map]⟩
    · exact ⟨offset, rfl⟩

/-- A text is measured at the sizes of its path, in their order, up to the first one that fits, and at ten
of them at most. It is not fitted just where none of these ten fits, for want of tries and for no other
reason. -/
theorem fit_follows_path (content : String) (measure : Nat → Binary64 → Bool × Int) (alignment : Alignment)
    (points resolution : Binary64) (hpos : 0 < allowed) (hallowed : allowed.natAbs < Binary64.overflowBound)
    (hwidths : ∀ place size, (measure place size).2.natAbs < Binary64.overflowBound) :
    let fitted := fit content points allowed (answering measure) alignment resolution
    let size := path measure allowed points resolution
    (∀ n < 10, (∀ k < n, (measure k (size k)).1 = false) → (measure n (size n)).1 = true →
      fitted.1 = (List.range (n + 1)).map (tryAt measure size) ∧
        ∃ found, fitted.2 = .ok found ∧ found.tries = n + 1) ∧
    ((∀ k < 10, (measure k (size k)).1 = false) → fitted.1 = (List.range 10).map (tryAt measure size)) ∧
    ∀ fault, fitted.2 = .error fault ↔
      fault = .exhausted content allowed 10 ∧ ∀ k < 10, (measure k (size k)).1 = false := by
  intro fitted size
  have hleads : Leads (binary64Arithmetic alignment) measure allowed size := leads_path hpos hallowed hwidths
  have hfirst : pixelSize points resolution = size 0 := rfl
  have hfits : ∀ n < 10, (∀ k < n, (measure k (size k)).1 = false) → (measure n (size n)).1 = true →
      fitted.1 = (List.range (n + 1)).map (tryAt measure size) ∧
        ∃ found, fitted.2 = .ok found ∧ found.tries = n + 1 := by
    intro n hn hmisfits hfits
    obtain ⟨found, hsearch, htries⟩ := search_fits hleads 0 (Nat.zero_add n) hn
      (fun k _ hk => hmisfits k hk) hfits
    have hfitted : fitted = ((List.range (n + 1)).map (tryAt measure size), .ok found) := by
      simp only [fitted, fit, hfirst, fitTries, hsearch, List.range_eq_range']
    rw [hfitted]
    exact ⟨rfl, found, rfl, htries⟩
  have hexhausted : (∀ k < 10, (measure k (size k)).1 = false) →
      fitted = ((List.range 10).map (tryAt measure size), .error (.exhausted content allowed 10)) := by
    intro hmisfits
    have hsearch := search_exhausted hleads 0 (Nat.zero_add 10) fun k _ hk => hmisfits k hk
    simp only [fitted, fit, hfirst, fitTries, hsearch, List.range_eq_range']
  refine ⟨hfits, fun hmisfits => by rw [hexhausted hmisfits], fun fault => ⟨fun hfault => ?_, ?_⟩⟩
  · by_cases hnone : ∀ k < 10, (measure k (size k)).1 = false
    · rw [hexhausted hnone] at hfault
      cases hfault
      exact ⟨rfl, hnone⟩
    · -- The first of the sizes that fit ends the search without a fault.
      have hsome : ∃ n, n < 10 ∧ (measure n (size n)).1 = true := by simpa using hnone
      obtain ⟨hn, hfit⟩ := Nat.find_spec hsome
      obtain ⟨-, found, hfound, -⟩ := hfits (Nat.find hsome) hn
        (fun k hk => by simpa [show k < 10 by omega] using Nat.find_min hsome hk) hfit
      rw [hfound] at hfault
      cases hfault
  · rintro ⟨rfl, hmisfits⟩
    rw [hexhausted hmisfits]

/-! A text that is twice as wide as it may be at first, and one that never fits. -/

def shrinkingMeasure (place : Nat) (_ : Binary64) : Bool × Int := if place = 0 then (false, 200) else (true, 50)

def stubbornMeasure (_ : Nat) (_ : Binary64) : Bool × Int := (false, 100)

theorem fit_follows_path_halved :
    (fit "x" (Binary64.ofRatio false 20 1) 100 (answering shrinkingMeasure) .right (Binary64.ofRatio false 72 1)).1 =
        [⟨Binary64.ofRatio false 20 1, some (false, 200)⟩, ⟨Binary64.ofRatio false 10 1, some (true, 50)⟩] ∧
      (fit "x" (Binary64.ofRatio false 20 1) 100 (answering stubbornMeasure) .left (Binary64.ofRatio false 72 1)).2 =
        .error (.exhausted "x" 100 10) := by
  have hallowed : (100 : Int).natAbs < Binary64.overflowBound := by decide +kernel
  have hshrinking : ∀ place size, (shrinkingMeasure place size).2.natAbs < Binary64.overflowBound := by
    intro place size
    have hbound := Binary64.overflowBound_pos
    unfold shrinkingMeasure
    split <;> simp only [Int.reduceAbs] <;> omega
  obtain ⟨hfound, -, -⟩ := fit_follows_path "x" shrinkingMeasure .right (Binary64.ofRatio false 20 1)
    (Binary64.ofRatio false 72 1) (by decide) hallowed hshrinking
  obtain ⟨-, -, hfails⟩ := fit_follows_path "x" stubbornMeasure .left (Binary64.ofRatio false 20 1)
    (Binary64.ofRatio false 72 1) (by decide) hallowed fun _ _ => hallowed
  refine ⟨?_, (hfails _).2 ⟨rfl, fun _ _ => rfl⟩⟩
  rw [(hfound 1 (by decide) (by decide) (by decide)).1]
  have hfirst : path shrinkingMeasure 100 (Binary64.ofRatio false 20 1) (Binary64.ofRatio false 72 1) 0 =
    Binary64.ofRatio false 20 1 := by decide +kernel
  have hsecond : path shrinkingMeasure 100 (Binary64.ofRatio false 20 1) (Binary64.ofRatio false 72 1) 1 =
    Binary64.ofRatio false 10 1 := by decide +kernel
  simp [List.range_succ, tryAt, hfirst, hsecond, shrinkingMeasure]

/-! ## What was found -/

/-- The width that a try left free, if it came out narrower than it may be. -/
def free? (allowed : Int) : FitTry Size → Option Int
  | ⟨_, some (_, width)⟩ => if width < allowed then some (allowed - width) else none
  | ⟨_, none⟩ => none

/-- The width that the last of the tries that left some of it free left free; nothing if none did. -/
def leftFree (allowed : Int) (tries : List (FitTry Size)) : Int := ((tries.filterMap (free? allowed)).getLast?).getD 0

/-- Whether an offset is the one that some tries lead to from the offset before them: that of the last
one which left some of the width free. -/
def MovedBy (arithmetic : FitArithmetic Size Failure) (allowed before : Int) (tries : List (FitTry Size))
    (after : Int) : Prop :=
  match (tries.filterMap (free? allowed)).getLast? with
  | none => after = before
  | some free => arithmetic.shift free = .ok after

section Found

variable {measure : Nat → Size → Except Failure (Bool × Int)}

/-- One try moves the text by what it leaves free. -/
theorem movedBy_of_adjust {width offset offset' : Int} {size size' : Size} (fits : Bool)
    (h : adjust arithmetic allowed width size offset = .ok (size', offset')) :
    MovedBy arithmetic allowed offset [⟨size, some (fits, width)⟩] offset' := by
  unfold adjust at h
  unfold MovedBy
  split at h
  · obtain ⟨_, -, hpair⟩ := Except.map_ok_iff.1 h
    cases hpair
    have hnot : ¬ width < allowed := by omega
    simp [free?, hnot]
  · split at h
    · rename_i hlt
      obtain ⟨_, hshift, hpair⟩ := Except.map_ok_iff.1 h
      cases hpair
      simp [free?, hlt, hshift]
    · rename_i hnot
      cases h
      simp [free?, hnot]

/-- What a first try and the further ones come to together. -/
theorem MovedBy.cons {before between after : Int} {attempt : FitTry Size} {tries : List (FitTry Size)}
    (hfirst : MovedBy arithmetic allowed before [attempt] between)
    (hrest : MovedBy arithmetic allowed between tries after) :
    MovedBy arithmetic allowed before (attempt :: tries) after := by
  unfold MovedBy at *
  cases hfree : free? allowed attempt with
  | none =>
    simp only [List.filterMap_cons, hfree, List.filterMap_nil, List.getLast?_nil] at hfirst ⊢
    rwa [hfirst] at hrest
  | some free =>
    simp only [List.filterMap_cons, hfree, List.filterMap_nil, List.getLast?_cons] at hfirst ⊢
    cases hlast : (tries.filterMap (free? allowed)).getLast? with
    | none =>
      rw [hlast] at hrest
      rwa [hrest]
    | some free' =>
      rw [hlast] at hrest
      exact hrest

/-- A search that finds a size went through tries that did not fit to one that did, and adjusted the size
of that one. -/
theorem search_tries {remaining used : Nat} {size : Size} {offset : Int} {tries : List (FitTry Size)}
    {found : Fit Size} (h : search arithmetic measure allowed remaining used size offset = (tries, .ok found)) :
    ∃ earlier last before, tries = earlier ++ [⟨last, some (true, found.width)⟩] ∧
      found.tries = used + tries.length ∧ measure (used + earlier.length) last = .ok (true, found.width) ∧
      adjust arithmetic allowed found.width last before = .ok (found.size, found.offset) ∧
      MovedBy arithmetic allowed offset tries found.offset := by
  induction remaining generalizing used size offset tries with
  | zero => cases h
  | succ remaining ih =>
    obtain ⟨fits, width, next, moved, hmeasure, hadjust, hend⟩ := search_succ_ok h
    have hfirst := movedBy_of_adjust fits hadjust
    obtain ⟨rfl, rfl, rfl⟩ | ⟨-, more, rfl, hrest⟩ := hend
    · exact ⟨[], size, offset, rfl, rfl, hmeasure, hadjust, hfirst⟩
    · obtain ⟨earlier, last, before, rfl, hcount, hlast, hfound, hmoved⟩ := ih hrest
      refine ⟨⟨size, some (fits, width)⟩ :: earlier, last, before, rfl, ?_, ?_, hfound, hfirst.cons hmoved⟩
      · simp only [hcount, List.length_cons]
        omega
      · rwa [List.length_cons, Nat.add_comm earlier.length, ← Nat.add_assoc]

end Found

theorem leftFree_nonneg (tries : List (FitTry Size)) : 0 ≤ leftFree allowed tries := by
  unfold leftFree
  cases hlast : (tries.filterMap (free? allowed)).getLast? with
  | none => exact Int.le_refl 0
  | some free =>
    obtain ⟨attempt, -, hfree⟩ := List.mem_filterMap.1 (List.mem_of_getLast? hlast)
    unfold free? at hfree
    split at hfree
    · split at hfree
      · cases hfree
        simp only [Option.getD_some]
        omega
      · cases hfree
    · cases hfree

theorem leftFree_concat {earlier : List (FitTry Size)} {size : Size} {fits : Bool} {width : Int} :
    leftFree allowed (earlier ++ [⟨size, some (fits, width)⟩]) =
      if width < allowed then allowed - width else leftFree allowed earlier := by
  unfold leftFree
  by_cases hlt : width < allowed
  · simp [free?, hlt]
  · simp [free?, hlt]

section Binary64

variable {content : String} {points resolution : Binary64} {alignment : Alignment}
  {measure : Nat → Binary64 → Except ArithmeticError (Bool × Int)} {tries : List (FitTry Binary64)}
  {found : Fit Binary64}

theorem offset_zero (alignment : Alignment) : alignment.offset 0 = .ok 0 := by cases alignment <;> decide +kernel

theorem offset_of_movedBy {after : Int} (h : MovedBy (binary64Arithmetic alignment) allowed 0 tries after) :
    alignment.offset (leftFree allowed tries) = .ok after := by
  unfold MovedBy at h
  unfold leftFree
  cases hlast : (tries.filterMap (free? allowed)).getLast? with
  | none =>
    rw [hlast] at h
    rw [h]
    exact offset_zero alignment
  | some free =>
    rw [hlast] at h
    exact h

theorem search_of_fit_ok (h : fit content points allowed measure alignment resolution = (tries, .ok found)) :
    search (binary64Arithmetic alignment) measure allowed fitTries 0 (pixelSize points resolution) 0 =
      (tries, .ok found) := by
  unfold fit at h
  generalize search _ _ _ _ _ _ _ = searched at h ⊢
  obtain ⟨tries', result⟩ := searched
  rcases result with (_ | _) | _ <;> cases h
  rfl

/-- A size that is found is the one measured last, its width is what the measure said of it then, and as
many tries were made as are told. The text is moved by what the last try that was narrower than allowed
left free. That is what it leaves free itself, and it stays inside its width, unless it is as wide as it
may be, while an earlier try was narrower and moved it, and yet did not fit. -/
theorem fit_found_iff
    (hfits : ∀ place size width, measure place size = .ok (true, width) → width ≤ allowed)
    (h : fit content points allowed measure alignment resolution = (tries, .ok found)) :
    ∃ earlier, tries = earlier ++ [⟨found.size, some (true, found.width)⟩] ∧ found.tries = tries.length ∧
      measure earlier.length found.size = .ok (true, found.width) ∧
      alignment.offset (leftFree allowed tries) = .ok found.offset ∧ 0 ≤ found.offset ∧
      (alignment.offset (allowed - found.width) = .ok found.offset ↔
        found.width < allowed ∨ alignment.offset (leftFree allowed earlier) = .ok 0) ∧
      (found.offset + found.width ≤ allowed ↔
        found.width < allowed ∨ alignment.offset (leftFree allowed earlier) = .ok 0) := by
  obtain ⟨earlier, last, before, rfl, hcount, hmeasure, hadjust, hmoved⟩ := search_tries (search_of_fit_ok h)
  have hle : found.width ≤ allowed := hfits _ _ _ hmeasure
  obtain ⟨rfl, -⟩ := adjust_of_le hadjust hle
  have hoffset := offset_of_movedBy hmoved
  obtain ⟨hnonneg, hfree⟩ := Alignment.offset_within (leftFree_nonneg _) hoffset
  rw [Nat.zero_add] at hcount hmeasure
  refine ⟨earlier, rfl, hcount, hmeasure, hoffset, hnonneg, ?_⟩
  rw [leftFree_concat] at hoffset hfree
  by_cases hlt : found.width < allowed
  · rw [if_pos hlt] at hoffset hfree
    exact ⟨by simp [hoffset, hlt], by simp only [hlt, true_or, iff_true]; omega⟩
  · -- Nothing is left free in the end, so it depends on what the earlier tries moved the text by.
    obtain hfull : found.width = allowed := by omega
    rw [if_neg hlt] at hoffset
    rw [hoffset, hfull, Int.sub_self, offset_zero]
    simp only [Except.ok.injEq, lt_irrefl, false_or]
    omega

/-! A text that is wide enough at first, but does not fit until it takes all of its width. -/

def waveringMeasure (place : Nat) (_ : Binary64) : Bool × Int := if place = 0 then (false, 50) else (true, 100)

theorem fit_found_iff_halved : ∃ tries found,
    fit "x" (Binary64.ofRatio false 20 1) 100 (answering shrinkingMeasure) .right (Binary64.ofRatio false 72 1) =
        (tries, .ok found) ∧ found.tries = tries.length ∧ found.width = 50 ∧ found.offset = 50 ∧
      Alignment.right.offset (100 - found.width) = .ok found.offset := by
  have hvalue : (fit "x" (Binary64.ofRatio false 20 1) 100 (answering shrinkingMeasure) .right
      (Binary64.ofRatio false 72 1)).2.toOption.map (fun found => (found.width, found.offset)) = some (50, 50) := by
    decide +kernel
  generalize hfit : fit "x" (Binary64.ofRatio false 20 1) 100 (answering shrinkingMeasure) .right
    (Binary64.ofRatio false 72 1) = fitted at hvalue ⊢
  obtain ⟨tries, result⟩ := fitted
  obtain ⟨found, hfound, hpair⟩ := Option.map_eq_some_iff.1 hvalue
  obtain rfl : result = .ok found := Except.eq_ok_of_toOption hfound
  obtain ⟨hwidth, hoffset⟩ : found.width = 50 ∧ found.offset = 50 := Prod.ext_iff.1 hpair
  have hfits : ∀ place size width,
      (answering shrinkingMeasure place size : Except ArithmeticError _) = .ok (true, width) → width ≤ 100 := by
    intro place size width hmeasure
    unfold answering shrinkingMeasure at hmeasure
    split at hmeasure <;> cases hmeasure
    decide
  obtain ⟨_, -, hcount, -, -, -, hright, -⟩ := fit_found_iff hfits hfit
  exact ⟨tries, found, rfl, hcount, hwidth, hoffset, hright.2 (.inl (by omega))⟩

/-- The text takes all of its width, and yet it is moved by what the first try left free. -/
theorem offset_of_narrower_try :
    (∀ place size width, waveringMeasure place size = (true, width) → width ≤ 100) ∧
    ∃ found, (fit "x" (Binary64.ofRatio false 12 1) 100 (answering waveringMeasure) .right
        (Binary64.ofRatio false 72 1)).2 = .ok found ∧
      found.width = 100 ∧ found.offset = 50 ∧ Alignment.right.offset (100 - found.width) = .ok 0 := by
  have hvalue : (fit "x" (Binary64.ofRatio false 12 1) 100 (answering waveringMeasure) .right
      (Binary64.ofRatio false 72 1)).2.toOption.map (fun found => (found.width, found.offset)) = some (100, 50) := by
    decide +kernel
  obtain ⟨found, hfound, hpair⟩ := Option.map_eq_some_iff.1 hvalue
  obtain ⟨hwidth, hoffset⟩ : found.width = 100 ∧ found.offset = 50 := Prod.ext_iff.1 hpair
  refine ⟨fun place size width hmeasure => ?_, found, Except.eq_ok_of_toOption hfound, hwidth, hoffset, ?_⟩
  · unfold waveringMeasure at hmeasure
    split at hmeasure <;> cases hmeasure
    decide
  · rw [hwidth]
    rfl

end Binary64

end Fit

end PageTemplate
