/-
The shortest decimal text of a binary64 number: of all decimals that read back
as the number those with the fewest digits, and of these the one nearest to it.

The search is exact. The reals that read back form an interval around the
value, whose ends belong to it when the significand is even. For one, two, …
seventeen digits the two neighbours of the value on that decimal grid are
tested, and the first grid with a hit wins.
-/
import PageTemplate.Binary64.Basic

namespace PageTemplate.Binary64

/-- How decimal digits of a number are laid out as text. -/
structure Layout where
  /-- The least decimal exponent that is written positionally. -/
  leastPositional : Int
  /-- The first decimal exponent above them that is not. -/
  firstScientific : Int
  /-- Whether a number without fractional digits is written with a final `.0`. -/
  keepsPoint : Bool
  /-- The least number of digits of a written exponent. -/
  exponentDigits : Nat

/-- Positional from `0.0001` to below `10^16`, with a point always, else an exponent of at least
two digits. -/
def defaultLayout : Layout := ⟨-4, 16, true, 2⟩

/-- A rational number `num / den` times `10^shift`, as a quotient of naturals. -/
def scaleByTen (num den : Nat) (shift : Int) : Nat × Nat :=
  match shift with
  | .ofNat k => (num * pow10 k, den)
  | .negSucc k => (num, den * pow10 (k + 1))

/-- The decimal exponent of `num / den`: the `p` with `10^p ≤ num / den < 10^(p+1)`, found from an
estimate by the binary logarithms that is off by at most one or two. -/
def decimalExponent (num den : Nat) : Int :=
  let bits : Int := (Nat.log2 num : Int) - (Nat.log2 den : Int)
  let guess : Int := Int.fdiv (bits * 30103) 100000
  let atLeast := fun p : Int =>
    let (n, d) := scaleByTen num den (-p)
    decide (d ≤ n)
  if atLeast (guess + 2) then guess + 2
  else if atLeast (guess + 1) then guess + 1
  else if atLeast guess then guess
  else if atLeast (guess - 1) then guess - 1
  else guess - 2

/-- The candidates with `count` digits for the value `num / den`, whose neighbouring midpoints are
`low / den` and `high / den`: the nearest grid point that lies between them. -/
def candidate? (num low high den : Nat) (closed : Bool) (exponent : Int) (count : Nat) :
    Option Nat :=
  let shift : Int := (count : Int) - 1 - exponent
  let (n, d) := scaleByTen num den shift
  let (l, _) := scaleByTen low den shift
  let (h, _) := scaleByTen high den shift
  let below := n / d
  let inside := fun c : Nat =>
    if closed then decide (l ≤ c * d) && decide (c * d ≤ h)
    else decide (l < c * d) && decide (c * d < h)
  let fromBelow := n - below * d
  let fromAbove := (below + 1) * d - n
  match inside below && below != 0, inside (below + 1) with
  | true, false => some below
  | false, true => some (below + 1)
  | true, true =>
    if fromBelow < fromAbove then some below
    else if fromAbove < fromBelow then some (below + 1)
    else if below % 2 = 0 then some below else some (below + 1)
  | false, false => none

/-- The first hit among `count`, `count + 1`, … digits. -/
def searchDigits (num low high den : Nat) (closed : Bool) (exponent : Int) :
    (fuel count : Nat) → Nat × Nat
  | 0, count => (0, count)
  | fuel + 1, count =>
    match candidate? num low high den closed exponent count with
    | some c => (c, count)
    | none => searchDigits num low high den closed exponent fuel (count + 1)

/-- The digits of a non-zero finite magnitude, without trailing zeros, and the decimal exponent of
the first. -/
def shortestDigits (significand exponent : Nat) : List Char × Int :=
  let value := 4 * significand * pow2 exponent
  let half := pow2 exponent
  let low := value - (if significand = 4503599627370496 ∧ exponent ≠ 0 then half else 2 * half)
  let high := value + 2 * half
  let den := 4 * pow2 1074
  let place := decimalExponent value den
  let (digits, count) := searchDigits value low high den (significand % 2 == 0) place 17 1
  let text := (Nat.toDigits 10 digits)
  let place := place + ((text.length : Int) - (count : Int))
  let kept := (text.reverse.dropWhile (· == '0')).reverse
  (kept, place)

/-- The digits of an exponent with its sign, padded to the layout's width. -/
def exponentText (layout : Layout) (e : Int) : List Char :=
  let digits := Nat.toDigits 10 e.natAbs
  let sign := if e < 0 then '-' else '+'
  'e' :: sign :: (List.replicate (layout.exponentDigits - digits.length) '0' ++ digits)

/-- Lays out digits whose first stands for `10^place`. -/
def layOut (layout : Layout) (digits : List Char) (place : Int) : List Char :=
  if layout.leastPositional ≤ place ∧ place < layout.firstScientific then
    match place with
    | .ofNat p =>
      let whole := digits.take (p + 1) ++ List.replicate (p + 1 - digits.length) '0'
      let fraction := digits.drop (p + 1)
      if fraction.isEmpty then whole ++ (if layout.keepsPoint then ['.', '0'] else [])
      else whole ++ '.' :: fraction
    | .negSucc p => '0' :: '.' :: (List.replicate p '0' ++ digits)
  else
    let mantissa :=
      match digits with
      | [] => []
      | [d] => [d]
      | d :: rest => d :: '.' :: rest
    mantissa ++ exponentText layout place

/-- The shortest text that reads back as the number. -/
def toText : Binary64 → String
  | .nan => "nan"
  | .infinity n => if n then "-inf" else "inf"
  | .finite n m e _ =>
    let body :=
      if m = 0 then ['0', '.', '0']
      else
        let (digits, place) := shortestDigits m e
        layOut defaultLayout digits place
    String.ofList (if n then '-' :: body else body)

/-- The number with exactly `places` decimals, a half going to the even digit. -/
def toFixed (places : Nat) : Binary64 → String
  | .nan => "nan"
  | .infinity n => if n then "-inf" else "inf"
  | x@(.finite n ..) =>
    let scaled := divHalfEven (x.magnitude * pow10 places) (pow2 1074)
    let digits := Nat.toDigits 10 scaled
    let padded := List.replicate (places + 1 - digits.length) '0' ++ digits
    let whole := padded.take (padded.length - places)
    let fraction := padded.drop (padded.length - places)
    let body := if places = 0 then whole else whole ++ '.' :: fraction
    String.ofList (if n then '-' :: body else body)

end PageTemplate.Binary64
