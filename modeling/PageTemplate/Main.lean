/-
The program. It takes the files under the working folder and the time of day,
carries out the command line on a plain platform, writes the files that have
changed, and prints.
-/
import PageTemplate.CommandLine.Outcome
import PageTemplate.Platform.Plain
import Std.Time.DateTime.Timestamp

namespace PageTemplate

open scoped Plain

/-- The bytes of a file, or why it cannot be read. -/
def fileEntry (path : String) : IO FileEntry := do
  try
    return .file (← IO.FS.readBinFile path).toList
  catch _ =>
    return .file [] { reading := some .denied }

/-- Everything among the entries of a folder and below them. What is no file and no folder is passed
over. -/
partial def entriesBelow (parts : List String) (listed : List IO.FS.DirEntry) :
    IO (List (List String × FileEntry)) := do
  let mut found := []
  for entry in listed do
    let here := parts ++ [entry.fileName]
    match (← entry.path.metadata).type with
    | .dir =>
      found := found ++ (here, .folder) :: (← entriesBelow here (← entry.path.readDir).toList)
    | .file => found := found ++ [(here, ← fileEntry entry.path.toString)]
    | _ => pure ()
  return found

/-- Microseconds from the start of the year 1 to the start of the year 1970. -/
def epochMicros : Int := 62135596800000000

/-- The moment now. -/
def momentNow : IO Calendar.Moment := do
  let nanos := (← Std.Time.Timestamp.now).toNanosecondsSinceUnixEpoch.val
  return (Calendar.Moment.ofMicros? (epochMicros + nanos / 1000) none).getD default

/-- What surrounds the program: no plugins, for modules are nothing it can load. -/
def surroundings : IO CommandLine.World := do
  let here ← IO.currentDir
  let parts := (Path.ofText here.toString).parts
  let entries ← entriesBelow parts (← here.readDir).toList
  return {
    around := { files := { entries := entries, workingFolder := parts }, now := ← momentNow }
    plugins := { reach := fun _ _ => .error "" } }

/-- The files that are in one tree and not in another. -/
def changedFiles (before after : FileTree) : List (Place × List UInt8) :=
  after.entries.filterMap fun (place, entry) =>
    match entry with
    | .file bytes _ => if before.entryAt? place = some entry then none else some (place, bytes)
    | .folder _ => none

/-- Does what a command line came to. -/
def perform (before : FileTree) (o : CommandLine.Outcome) : IO UInt32 := do
  for entry in o.journal do IO.eprintln entry.line
  for (place, bytes) in changedFiles before o.files do
    IO.FS.writeBinFile ("/" ++ String.intercalate "/" place) ⟨bytes.toArray⟩
  IO.print o.printed
  IO.eprint o.complaints
  match o.ending with
  | .ok code => return code.toUInt32
  | .error fault =>
    IO.eprintln fault.message
    return 1

end PageTemplate

open scoped PageTemplate.Plain in
/-- Carries out the command line. -/
def main (args : List String) : IO UInt32 := do
  let world ← PageTemplate.surroundings
  PageTemplate.perform world.around.files (PageTemplate.CommandLine.run world args)
