/-
What a command says of itself: its usage, which shows how it is called, and its
help, which lists what it asks for and its options in two columns.

Lines are broken between words so that they fit the width of the screen.
-/
import PageTemplate.CommandLine.Reading

namespace PageTemplate.CommandLine

/-- The width that lines keep to. -/
def lineWidth : Nat := 78

/-- The furthest place where the second column may begin. -/
def furthestColumn : Nat := 24

/-- Some blanks. -/
def blanks (n : Nat) : String := String.ofList (List.replicate n ' ')

/-- A text filled up with blanks. -/
def padRight (width : Nat) (s : String) : String := s ++ blanks (width - s.length)

/-- Puts words on lines of some width, as many on each as fit behind a blank each; a word that is too
long has a line of its own. -/
def fill (width : Nat) (words : List String) : List String :=
  let step := fun (lines : List String) (word : String) =>
    match lines with
    | [] => [word]
    | line :: full =>
      if line.length + 1 + word.length ≤ width then (line ++ " " ++ word) :: full
      else word :: line :: full
  (words.foldl step []).reverse

/-- Several texts as one choice. -/
def alternatives (texts : List String) : String := "\x7b" ++ String.intercalate "," texts ++ "\x7d"

namespace OptionForm

/-- What stands for the text that the option takes. -/
def stand (form : OptionForm) : String :=
  match form.intake with
  | .nothing => ""
  | .text => form.long.map fun c => if c = '-' then '_' else c.toUpper
  | .choice allowed => alternatives allowed

/-- A flag and, if the option takes a text, what stands for it. -/
def withStand (form : OptionForm) (flag : String) : String :=
  if form.intake = .nothing then flag else flag ++ " " ++ form.stand

/-- The option in a usage. -/
def usage (form : OptionForm) : String := "[" ++ form.withStand (form.flags.headD "") ++ "]"

/-- The option in the first column of a help. -/
def invocation (form : OptionForm) : String :=
  Text.commaSeparated (form.flags.map form.withStand)

end OptionForm

/-- The operand in the first column of a help. -/
def Operand.invocation : Operand → String
  | .file name _ => name
  | .command _ commands => alternatives (commands.map Command.word)

/-- The operand in a usage. -/
def Operand.usage : Operand → String
  | .file name _ => name
  | operand => operand.invocation ++ " ..."

/-- A line of a help: how far it is indented, its first column, and its second one if it has one. -/
structure Entry where
  indent : Nat := 2
  invocation : String
  summary : String := ""
  deriving DecidableEq, Inhabited

/-- The lines of an operand: a command is followed by the commands it can be. -/
def Operand.entries : Operand → List Entry
  | .file name summary => [{ invocation := name, summary := summary }]
  | .command name commands =>
    { invocation := (Operand.command name commands).invocation } ::
      commands.map fun c => { indent := 4, invocation := c.word, summary := c.summary }

/-- An entry with its second column at a place. A first column that is too long has a line of its
own. -/
def Entry.lines (column : Nat) (e : Entry) : List String :=
  let start := blanks e.indent ++ e.invocation
  match fill (lineWidth - column) ((e.summary.splitOn " ").filter (· != "")) with
  | [] => [start]
  | first :: rest =>
    if start.length + 2 ≤ column then
      (padRight column start ++ first) :: rest.map (blanks column ++ ·)
    else start :: (first :: rest).map (blanks column ++ ·)

namespace Command

/-- How a command is called: on one line if it fits, and else with its operand on lines of its
own. -/
def usage (c : Command) : String :=
  let start := "usage: " ++ c.title
  let options := c.forms.map OptionForm.usage
  let operand := c.operand.toList.map Operand.usage
  let line := String.intercalate " " (start :: (options ++ operand))
  if line.length ≤ lineWidth then line ++ "\n"
  else
    let indent := start.length + 1
    let lines := fill (lineWidth - indent) options ++ fill (lineWidth - indent) operand
    start ++ " " ++ String.intercalate ("\n" ++ blanks indent) lines ++ "\n"

/-- The entries of a help, under their headings. -/
def sections (c : Command) : List (String × List Entry) :=
  (c.operand.toList.map fun operand => ("positional arguments:", operand.entries)) ++
    [("options:", c.forms.map fun form =>
      { invocation := form.invocation, summary := form.summary })]

/-- Where the second column of a help begins: behind the longest entry, but not too far. -/
def column (c : Command) : Nat :=
  let lengths := (c.sections.flatMap Prod.snd).map fun e => e.indent + e.invocation.length
  let longest := lengths.foldl (fun a b => if a < b then b else a) 0
  if longest + 2 < furthestColumn then longest + 2 else furthestColumn

/-- The help of a command. What is said of a command itself stands in the help of the whole program
only. -/
def help (c : Command) : String :=
  let block := fun (s : String × List Entry) =>
    "\n" ++ s.1 ++ "\n" ++ String.join ((s.2.flatMap (Entry.lines c.column)).map (· ++ "\n"))
  c.usage ++ (if c = .top then "\n" ++ c.summary ++ "\n" else "") ++
    String.join (c.sections.map block)

end Command

/-- What is printed for a command that is misused. -/
def Misuse.report (command : Command) (cause : Misuse) : String :=
  command.usage ++ command.title ++ ": error: " ++ cause.message ++ "\n"

end PageTemplate.CommandLine
