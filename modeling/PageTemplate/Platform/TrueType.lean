/-
What makes bytes a TrueType font: a table directory behind the mark of the
format, whose tables lie inside the file and include those without which no
text can be set.
-/
namespace PageTemplate.Plain.TrueType

/-- The number that bytes write, the greatest first. -/
def number (bytes : List UInt8) : Nat := bytes.foldl (fun acc b => acc * 256 + b.toNat) 0

/-- The number of `size` bytes at an offset. -/
def numberAt (bytes : List UInt8) (offset size : Nat) : Nat := number ((bytes.drop offset).take size)

/-- The marks of the format. -/
def marks : List Nat := [0x00010000, 0x74727565]

/-- The tables that every font has. -/
def requiredTables : List String := ["cmap", "glyf", "head", "hhea", "hmtx", "loca", "maxp", "name"]

/-- The name, offset and length in one entry of the directory. -/
def tableAt (bytes : List UInt8) (index : Nat) : String × Nat × Nat :=
  let start := 12 + 16 * index
  let name := ((bytes.drop start).take 4).map fun b => Char.ofNat b.toNat
  (String.ofList name, numberAt bytes (start + 8) 4, numberAt bytes (start + 12) 4)

/-- The tables of the directory, if there is a whole one behind a mark. -/
def tables? (bytes : List UInt8) : Option (List (String × Nat × Nat)) :=
  let count := numberAt bytes 4 2
  if 12 + 16 * count ≤ bytes.length ∧ marks.contains (numberAt bytes 0 4) then
    some ((List.range count).map (tableAt bytes))
  else none

/-- Whether some bytes are a font. -/
def isFont (bytes : List UInt8) : Bool :=
  match tables? bytes with
  | none => false
  | some tables =>
    tables.all (fun (_, offset, length) => offset + length ≤ bytes.length) &&
      requiredTables.all fun name => tables.any fun (present, _, _) => present == name

end PageTemplate.Plain.TrueType
