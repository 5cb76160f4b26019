/-
The search for a size at which a line of text fits its width.

The text is measured at a size. While it does not fit, and ten tries are not
used up, it is measured again: where it came out too wide the size is first
scaled by the width allowed over the width measured. The size never grows
back, so some of the width may stay free, and the alignment says how far the
text moves into it.

The search is written for any arithmetic of sizes and any measure, which may
answer differently from one try to the next, so that laws about it can be
stated for exact numbers too. `fit` is the search in binary64.
-/
import PageTemplate.Binary64.Shortest
import PageTemplate.Drawing.Alignment
import PageTemplate.Fault.Failure
import PageTemplate.Journal

namespace PageTemplate

/-- How many times a text is measured at most. -/
def fitTries : Nat := 10

/-- One try: the size, and what the measure said, whether the text fits and how wide it is. A measure
that failed said nothing. -/
structure FitTry (Size : Type) where
  size : Size
  answer : Option (Bool × Int)

/-- A size that fits: the size, how far to move the text, its width, and the tries it took. -/
structure Fit (Size : Type) where
  size : Size
  offset : Int
  width : Int
  tries : Nat

/-- Why no size was found: the tries ran out, or the arithmetic failed. -/
inductive FitFailure (Failure : Type) where
  | exhausted (tries : Nat)
  | arithmetic (e : Failure)

/-- The arithmetic of sizes: how a size is scaled by a quotient of two widths, and how far a text
moves into a free width. -/
structure FitArithmetic (Size Failure : Type) where
  scale : Size → (allowed measured : Int) → Except Failure Size
  shift : (free : Int) → Except Failure Int

namespace Fit

variable {Size Failure : Type}

/-- The size and the offset after a text came out `measured` wide. -/
def adjust (arithmetic : FitArithmetic Size Failure) (allowed measured : Int) (size : Size)
    (offset : Int) : Except Failure (Size × Int) :=
  if allowed < measured then (arithmetic.scale size allowed measured).map fun size => (size, offset)
  else if measured < allowed then
    (arithmetic.shift (allowed - measured)).map fun offset => (size, offset)
  else .ok (size, offset)

/-- Searches on with `remaining` tries left after `used` tries, and tells the tries made. -/
def search (arithmetic : FitArithmetic Size Failure)
    (measure : Nat → Size → Except Failure (Bool × Int)) (allowed : Int) :
    (remaining used : Nat) → Size → (offset : Int) →
      List (FitTry Size) × Except (FitFailure Failure) (Fit Size)
  | 0, used, _, _ => ([], .error (.exhausted used))
  | remaining + 1, used, size, offset =>
    match measure used size with
    | .error e => ([⟨size, none⟩], .error (.arithmetic e))
    | .ok (fits, width) =>
      let here : FitTry Size := ⟨size, some (fits, width)⟩
      match adjust arithmetic allowed width size offset with
      | .error e => ([here], .error (.arithmetic e))
      | .ok (next, offset) =>
        if fits then ([here], .ok ⟨next, offset, width, used + 1⟩)
        else
          let (tries, result) := search arithmetic measure allowed remaining (used + 1) next offset
          (here :: tries, result)

end Fit

/-- Why a text was not fitted. -/
inductive FitFault where
  | exhausted (content : String) (allowed : Int) (tries : Nat)
  | number (e : ArithmeticError)
  deriving DecidableEq, Inhabited

/-- The wording of each fault. -/
def FitFault.message : FitFault → String
  | .exhausted content allowed tries =>
    "unable to fit text " ++ content ++ " into maxWidth " ++ toString allowed ++ " after " ++
      toString tries ++ " tries"
  | .number e => e.message

/-- The kind of each fault. -/
def FitFault.kind : FitFault → FaultKind
  | .exhausted .. => .iteration
  | .number e => e.kind

namespace Fit

/-- The arithmetic of sizes in binary64. -/
def binary64Arithmetic (alignment : Alignment) : FitArithmetic Binary64 ArithmeticError where
  scale := fun size allowed measured =>
    (Binary64.ofQuotient allowed measured).map fun factor => size.mul factor
  shift := alignment.offset

/-- The size in pixels of a size in points, at some resolution: 72 points make an inch. -/
def pixelSize (points resolution : Binary64) : Binary64 :=
  (points.div (Binary64.ofRatio false 72 1)).mul resolution

/-- Fits a text: the tries made, and the size found. -/
def fit (content : String) (points : Binary64) (allowed : Int)
    (measure : Nat → Binary64 → Except ArithmeticError (Bool × Int)) (alignment : Alignment)
    (resolution : Binary64) : List (FitTry Binary64) × Except FitFault (Fit Binary64) :=
  let (tries, result) :=
    search (binary64Arithmetic alignment) measure allowed fitTries 0 (pixelSize points resolution) 0
  (tries,
    match result with
    | .ok found => .ok found
    | .error (.exhausted used) => .error (.exhausted content allowed used)
    | .error (.arithmetic e) => .error (.number e))

/-- What the journal tells of the tries whose measure answered, numbered from `place`. -/
def entries (content : String) (place : Nat) : List (FitTry Binary64) → List JournalEntry
  | [] => []
  | ⟨_, none⟩ :: rest => entries content (place + 1) rest
  | ⟨size, some (_, width)⟩ :: rest =>
    JournalEntry.debug "textfit" ("fit try " ++ toString place ++ " for " ++ Text.quoted content ++
      ": size=" ++ size.toFixed 3 ++ " width=" ++ toString width) :: entries content (place + 1) rest

end Fit

end PageTemplate
