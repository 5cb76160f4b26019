/-
Pictures, of which only the size in pixels matters here. A picture is a PNG
file: a signature, and then chunks. A chunk is its length, a name of four
letters, data of that length, and a checksum of name and data.

A file is read up to the chunk in which the pixels begin. What comes before has
to be sound: whole chunks with the right checksum, and data as long as their
names ask for. The header among them tells the size, which is not zero, and how
pixels are coloured.
-/
import PageTemplate.Platform.Checksum

namespace PageTemplate.Plain.Pictures

/-- The size of a picture in pixels. -/
structure Size where
  width : Nat
  height : Nat
  deriving DecidableEq, Inhabited

/-- The eight bytes that begin every PNG file. -/
def signature : List UInt8 := [0x89, 0x50, 0x4E, 0x47, 0x0D, 0x0A, 0x1A, 0x0A]

/-- The number that bytes write, the greatest first. -/
def number (bytes : List UInt8) : Nat := bytes.foldl (fun acc b => acc * 256 + b.toNat) 0

/-- The four bytes of a number below `2^32`. -/
def fourBytes (n : Nat) : List UInt8 :=
  [UInt8.ofNat (n / 16777216), UInt8.ofNat (n / 65536), UInt8.ofNat (n / 256), UInt8.ofNat n]

/-- The bytes of a name. -/
def nameBytes (name : String) : List UInt8 := name.toList.map fun c => UInt8.ofNat c.toNat

/-- What the parts of a pixel are. -/
inductive Colouring where
  | grey
  | trueColour
  | palette
  | greyWithOpacity
  | trueColourWithOpacity
  deriving DecidableEq, Inhabited

/-- The colouring of a number, with the numbers of bits that its parts may have. -/
def Colouring.ofNumber? : Nat → Option (Colouring × List Nat)
  | 0 => some (.grey, [1, 2, 4, 8, 16])
  | 2 => some (.trueColour, [8, 16])
  | 3 => some (.palette, [1, 2, 4, 8])
  | 4 => some (.greyWithOpacity, [8, 16])
  | 6 => some (.trueColourWithOpacity, [8, 16])
  | _ => none

/-- The colouring of a number, if its parts may have so many bits. -/
def Colouring.of? (bits colours : Nat) : Option Colouring :=
  match Colouring.ofNumber? colours with
  | some (colouring, allowed) => if allowed.contains bits then some colouring else none
  | none => none

/-- What the chunks so far tell of a picture. -/
structure Told where
  size : Size := ⟨0, 0⟩
  colouring : Option Colouring := none
  deriving DecidableEq, Inhabited

/-- The byte after the name that ends at the first zero byte of some data. Where none ends it, it is
the first byte. -/
def afterName? (data : List UInt8) : Option UInt8 :=
  match data.idxOf? 0 with
  | some i => data[i + 1]?
  | none => data.head?

/-- Whether the data of a chunk are sound: those of known names have a least length, and what is
compressed is so in the one known way, zero. -/
def isSound (colouring : Option Colouring) (name : String) (data : List UInt8) : Bool :=
  match name with
  | "IHDR" => 13 ≤ data.length && data[11]? == some 0
  | "sRGB" => 1 ≤ data.length
  | "gAMA" => 4 ≤ data.length
  | "acTL" => 8 ≤ data.length
  | "pHYs" => 9 ≤ data.length
  | "cHRM" => data.length % 4 == 0
  | "tRNS" =>
    match colouring with
    | some .grey => 2 ≤ data.length
    | some .trueColour => 6 ≤ data.length
    | _ => true
  | "iCCP" => afterName? data == some 0
  | "zTXt" => !data.contains 0 || (afterName? data).all (· == 0)
  | _ => true

/-- What is told after a chunk. A header with an unknown colouring leaves the one told before. -/
def Told.take (t : Told) (name : String) (data : List UInt8) : Told :=
  if name = "IHDR" then
    let byte := fun i => ((data[i]?).getD 0).toNat
    { size := ⟨number (data.take 4), number ((data.drop 4).take 4)⟩
      colouring := (Colouring.of? (byte 8) (byte 9)).orElse fun _ => t.colouring }
  else t

/-- Whether a byte may stand in the name of a chunk. -/
def isNameByte (b : UInt8) : Bool :=
  let c := Char.ofNat b.toNat
  c.isAlphanum || c == '_'

/-- Reads chunks up to the one in which the pixels begin, or the last one. -/
def readChunks (t : Told) (bytes : List UInt8) : Option Told :=
  if _h : bytes.length < 8 then none
  else
    let length := number (bytes.take 4)
    let nameBytes := (bytes.drop 4).take 4
    let name := String.ofList (nameBytes.map fun b => Char.ofNat b.toNat)
    if !nameBytes.all isNameByte then none
    else if name = "IDAT" ∨ name = "IEND" then some t
    else
      let data := (bytes.drop 8).take length
      let rest := bytes.drop (8 + length)
      if data.length = length ∧ isSound t.colouring name data ∧ 4 ≤ rest.length ∧
          number (rest.take 4) = (Checksum.ofBytes (nameBytes ++ data)).toNat then
        readChunks (t.take name data) (bytes.drop (12 + length))
      else none
termination_by bytes.length
decreasing_by simp only [List.length_drop]; omega

/-- The size of the picture whose file the bytes are. -/
def sizeOf? (bytes : List UInt8) : Option Size :=
  if signature.isPrefixOf bytes then
    match readChunks {} (bytes.drop signature.length) with
    | some t => if t.colouring.isSome ∧ 0 < t.size.width ∧ 0 < t.size.height then some t.size else none
    | none => none
  else none

/-- A chunk as it is written. -/
def chunk (name : String) (data : List UInt8) : List UInt8 :=
  fourBytes data.length ++ nameBytes name ++ data ++
    fourBytes (Checksum.ofBytes (nameBytes name ++ data)).toNat

/-- The beginning of the file of a picture in true colours: all but its pixels. -/
def header (p : Size) : List UInt8 :=
  signature ++ chunk "IHDR" (fourBytes p.width ++ fourBytes p.height ++ [8, 2, 0, 0, 0]) ++
    chunk "IDAT" []

end PageTemplate.Plain.Pictures
