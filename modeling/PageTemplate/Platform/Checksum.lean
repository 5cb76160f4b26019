/-
The cyclic redundancy check of 32 bits. Bytes are read as a polynomial over two
elements, the low bit of each byte first, and the check is what is left of it
after division by a fixed one.
-/
namespace PageTemplate.Plain.Checksum

/-- The polynomial of the division, its highest power at the low bit and without the power 32. -/
def polynomial : UInt32 := 0xEDB88320

/-- What is left after one more bit. -/
def shift (left : UInt32) : UInt32 :=
  if left &&& 1 = 1 then (left >>> 1) ^^^ polynomial else left >>> 1

/-- What is left after one more byte. -/
def step (left : UInt32) (b : UInt8) : UInt32 := Nat.repeat shift 8 (left ^^^ b.toUInt32)

/-- The check of some bytes. All bits are turned before and after, so that leading zeros count. -/
def ofBytes (bytes : List UInt8) : UInt32 := ~~~(bytes.foldl step 0xFFFFFFFF)

end PageTemplate.Plain.Checksum
