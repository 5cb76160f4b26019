/-
The search for a size in exact numbers, for a text as wide as some constant times
its size, rounded up. The size is scaled by a width that has been rounded up, so
the text comes out narrower than it has to rather than wider, and since the width
that is allowed is an integer, rounding up again does not pass it
(`ceil_rescaled_le`). So the second try fits, if the first one does not.
-/
import Mathlib.Algebra.Order.Floor.Ring
import Mathlib.Data.Rat.Floor
import PageTemplate.Proofs.Drawing.Searching

namespace PageTemplate.Fit

section Exact

variable {K : Type} [Field K]

/-- The arithmetic of sizes in exact numbers, which never fails. Half of a free width is cut to an integer. -/
def exactArithmetic (alignment : Alignment) : FitArithmetic K Empty where
  scale := fun size allowed measured => .ok (size * (allowed / measured))
  shift := fun free =>
    match alignment with
    | .left => .ok 0
    | .right => .ok free
    | .centre => .ok (free.tdiv 2)

/-- The size in pixels of a size in points, in exact numbers. -/
def exactPixelSize (points resolution : K) : K := points / 72 * resolution

/-- `fit` in exact numbers. -/
def exactFit (points : K) (allowed : Int) (measure : Nat → K → Except Empty (Bool × Int)) (alignment : Alignment)
    (resolution : K) : List (FitTry K) × Except (FitFailure Empty) (Fit K) :=
  search (exactArithmetic alignment) measure allowed fitTries 0 (exactPixelSize points resolution) 0

variable [LinearOrder K] [FloorRing K] {c size : K} {allowed : Int}

/-- A text as wide as a constant times its size, rounded up, fits if it is not wider than allowed. -/
def proportional (c : K) (allowed : Int) (_place : Nat) (size : K) : Bool × Int :=
  (decide (⌈c * size⌉ ≤ allowed), ⌈c * size⌉)

theorem tryAt_of_le {size : Nat → K} {place : Nat} (h : ⌈c * size place⌉ ≤ allowed) :
    tryAt (proportional c allowed) size place = ⟨size place, some (true, ⌈c * size place⌉)⟩ := by
  rw [tryAt, proportional, decide_eq_true h]

theorem tryAt_of_lt {size : Nat → K} {place : Nat} (h : allowed < ⌈c * size place⌉) :
    tryAt (proportional c allowed) size place = ⟨size place, some (false, ⌈c * size place⌉)⟩ := by
  rw [tryAt, proportional, decide_eq_false (not_le.2 h)]

/-- The size after a try that came out too wide. -/
def rescaled (c : K) (allowed : Int) (size : K) : K := size * (allowed / ⌈c * size⌉)

/-- The sizes at which such a text is measured. -/
def exactPath (c : K) (allowed : Int) (first : K) : Nat → K
  | 0 => first
  | place + 1 =>
    let size := exactPath c allowed first place
    if allowed < ⌈c * size⌉ then rescaled c allowed size else size

/-- Each size is the one that the search goes on with. -/
theorem leads_exactPath (alignment : Alignment) (c : K) (allowed : Int) (first : K) :
    Leads (exactArithmetic alignment) (proportional c allowed) allowed (exactPath c allowed first) := by
  intro place offset
  rw [exactPath]
  generalize exactPath c allowed first place = size
  simp only [proportional]
  unfold adjust
  split
  · exact ⟨offset, rfl⟩
  · split
    · cases alignment <;> exact ⟨_, rfl⟩
    · exact ⟨offset, rfl⟩

/-- The search goes along the path of sizes to the first one that fits, and that is the size found. -/
theorem exactFit_found (c points resolution : K) (alignment : Alignment) {n : Nat} (hn : n < fitTries)
    (hwide : ∀ k < n, allowed < ⌈c * exactPath c allowed (exactPixelSize points resolution) k⌉)
    (hfits : ⌈c * exactPath c allowed (exactPixelSize points resolution) n⌉ ≤ allowed) :
    let size := exactPath c allowed (exactPixelSize points resolution)
    ∃ found, exactFit points allowed (answering (proportional c allowed)) alignment resolution =
        ((List.range (n + 1)).map (tryAt (proportional c allowed) size), .ok found) ∧
      found.tries = n + 1 ∧ found.size = size n ∧ found.width = ⌈c * found.size⌉ := by
  intro size
  have hleads := leads_exactPath alignment c allowed (exactPixelSize points resolution)
  obtain ⟨found, hsearch, htries⟩ := search_fits hleads 0 (Nat.zero_add n) hn
    (fun k _ hk => decide_eq_false (not_le.2 (hwide k hk))) (decide_eq_true hfits)
  rw [← List.range_eq_range'] at hsearch
  refine ⟨found, hsearch, htries, ?_⟩
  -- The size found is that of the last try, since a text that fits keeps its size.
  obtain ⟨earlier, last, before, hearlier, -, hmeasure, hadjust, -⟩ := search_tries hsearch
  have hlast := congrArg List.getLast? hearlier
  rw [List.range_succ, List.map_append, List.map_singleton, List.getLast?_concat, List.getLast?_concat] at hlast
  have hsize : size n = last := congrArg FitTry.size (Option.some.inj hlast)
  have hwidth : ⌈c * last⌉ = found.width := congrArg Prod.snd (Except.ok.inj hmeasure)
  have hle : found.width ≤ allowed := by rwa [← hwidth, ← hsize]
  obtain ⟨hfound, -⟩ := adjust_of_le hadjust hle
  rw [hfound]
  exact ⟨hsize.symm, hwidth.symm⟩

variable [IsStrictOrderedRing K]

/-- The width at the size scaled by a width that was rounded up is not wider than allowed, rounded up
again. -/
theorem ceil_rescaled_le (hallowed : 0 ≤ allowed) (hwide : allowed < ⌈c * size⌉) :
    ⌈c * rescaled c allowed size⌉ ≤ allowed := by
  have hwidth : (0 : K) < ⌈c * size⌉ := Int.cast_pos.2 (by omega)
  have hfactor : (0 : K) ≤ allowed / ⌈c * size⌉ := div_nonneg (Int.cast_nonneg hallowed) hwidth.le
  rw [Int.ceil_le]
  calc c * rescaled c allowed size
      = c * size * (allowed / ⌈c * size⌉) := (mul_assoc _ _ _).symm
    _ ≤ ⌈c * size⌉ * (allowed / ⌈c * size⌉) := mul_le_mul_of_nonneg_right (Int.le_ceil _) hfactor
    _ = allowed := mul_div_cancel₀ _ hwidth.ne'

/-- A text whose width is proportional to its size and rounded up is fitted at the first try, or at the
second one where the first came out too wide. -/
theorem exactFit_within_two (c points resolution : K) (alignment : Alignment) (hallowed : 0 ≤ allowed) :
    let first := exactPixelSize points resolution
    ∃ tries found, exactFit points allowed (answering (proportional c allowed)) alignment resolution =
        (tries, .ok found) ∧
      found.tries = tries.length ∧ found.width = ⌈c * found.size⌉ ∧ found.width ≤ allowed ∧
      (⌈c * first⌉ ≤ allowed ∧ found.size = first ∧ tries = [⟨first, some (true, found.width)⟩] ∨
        allowed < ⌈c * first⌉ ∧ found.size = rescaled c allowed first ∧
          tries = [⟨first, some (false, ⌈c * first⌉)⟩, ⟨found.size, some (true, found.width)⟩]) := by
  intro first
  rcases le_or_gt ⌈c * first⌉ allowed with hfits | hwide
  · obtain ⟨found, hfound, htries, hsize, hwidth⟩ := exactFit_found c points resolution alignment (n := 0)
      (by decide) (fun k hk => absurd hk (Nat.not_lt_zero k)) hfits
    change found.size = first at hsize
    have hle : found.width ≤ allowed := by rwa [hwidth, hsize]
    have htry : tryAt (proportional c allowed) (exactPath c allowed first) 0 = ⟨first, some (true, found.width)⟩ := by
      rw [tryAt_of_le hfits, hwidth, hsize]
      rfl
    exact ⟨_, found, hfound, by simpa using htries, hwidth, hle, .inl ⟨hfits, hsize, congrArg ([·]) htry⟩⟩
  · have hsecond : exactPath c allowed first 1 = rescaled c allowed first := if_pos hwide
    have hnarrow : ⌈c * exactPath c allowed first 1⌉ ≤ allowed := hsecond ▸ ceil_rescaled_le hallowed hwide
    obtain ⟨found, hfound, htries, hsize, hwidth⟩ := exactFit_found c points resolution alignment (n := 1)
      (by decide) (fun k hk => by rwa [Nat.lt_one_iff.1 hk]) hnarrow
    have hle : found.width ≤ allowed := by rwa [hwidth, hsize]
    have hfirst : tryAt (proportional c allowed) (exactPath c allowed first) 0 =
        ⟨first, some (false, ⌈c * first⌉)⟩ := tryAt_of_lt hwide
    have hlast : tryAt (proportional c allowed) (exactPath c allowed first) 1 =
        ⟨found.size, some (true, found.width)⟩ := by
      rw [tryAt_of_le hnarrow, hwidth, hsize]
    exact ⟨_, found, hfound, by simpa using htries, hwidth, hle, .inr ⟨hwide, hsize.trans hsecond,
      congrArg₂ ([·, ·]) hfirst hlast⟩⟩

end Exact

/-- A text that is 27/5 wide at first counts as 6 wide where 5 is allowed, and is 5 wide after it has been
scaled by 5/6. -/
theorem exactFit_within_two_shrunk : ∃ tries found,
    exactFit (12 : ℚ) 5 (answering (proportional (9 / 20) 5)) .left 72 = (tries, .ok found) ∧
      found.tries = 2 ∧ found.size = 10 ∧ found.width = 5 := by
  have hfirst : ⌈(9 / 20 : ℚ) * exactPixelSize 12 72⌉ = 6 := by norm_num [exactPixelSize, Int.ceil_eq_iff]
  have hsecond : rescaled (9 / 20 : ℚ) 5 (exactPixelSize 12 72) = 10 := by
    norm_num [rescaled, hfirst, exactPixelSize]
  obtain ⟨tries, found, hfound, htries, hwidth, -, ⟨hfits, -⟩ | ⟨-, hsize, rfl⟩⟩ :=
    exactFit_within_two (9 / 20 : ℚ) 12 72 .left (show (0 : Int) ≤ 5 by decide)
  · rw [hfirst] at hfits
    exact absurd hfits (by decide)
  · rw [hsecond] at hsize
    refine ⟨_, found, hfound, htries, hsize, ?_⟩
    rw [hwidth, hsize]
    norm_num [Int.ceil_eq_iff]

end PageTemplate.Fit
