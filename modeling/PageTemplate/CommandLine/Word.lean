/-
The words of a command line and what each one is, seen alone: an option, a
plain word, or the divider after which every word is plain.

A long option may be shortened as long as it stays the only one meant, and it
may carry its text behind an equals sign. A short option carries what follows
its letter.
-/
import PageTemplate.CommandLine.Command
import PageTemplate.Text.Digit

namespace PageTemplate.CommandLine

/-- A word of a command line. An option remembers whether it is written by its letter, and the text
that it carries behind the letter or behind an equals sign, if there is one. -/
inductive Word where
  | plain (text : String)
  | divider
  | option (text : String) (form : OptionForm) (byLetter : Bool) (carried : Option (List Char))
  | unknown (text : String)
  deriving DecidableEq, Inhabited

/-- The word as it was written. -/
def Word.text : Word → String
  | .plain text => text
  | .divider => "--"
  | .option text _ _ _ => text
  | .unknown text => text

/-- Whether a text looks like a negative number; a line break may follow it. -/
def looksNegative (cs : List Char) : Bool :=
  let isDigit := fun c => (Text.digitValue? c).isSome
  match cs with
  | '-' :: number =>
    let written := if number.getLast? = some '\n' then number.dropLast else number
    let fraction := (written.dropWhile isDigit).drop 1
    match written.dropWhile isDigit with
    | [] => !written.isEmpty
    | '.' :: _ => !fraction.isEmpty && fraction.all isDigit
    | _ => false
  | _ => false

namespace Command

/-- The option of a flag. -/
def form? (c : Command) (flag : String) : Option OptionForm :=
  c.forms.find? fun form => form.flags.contains flag

/-- The option of a letter. -/
def letterForm? (c : Command) (letter : Char) : Option OptionForm :=
  c.forms.find? fun form => form.short == some letter

/-- The options whose long flag begins with a text. -/
def formsFrom (c : Command) (start : List Char) : List OptionForm :=
  c.forms.filter fun form => start.isPrefixOf form.longFlag.toList

/-- The text before the first equals sign. -/
def beforeEquals (cs : List Char) : List Char := cs.takeWhile (· != '=')

/-- What stands behind the first equals sign, if there is one. -/
def carriedBy (cs : List Char) : Option (List Char) :=
  match cs.dropWhile (· != '=') with
  | [] => none
  | _ :: text => some text

/-- Whether a flag is a letter behind one dash. -/
def isByLetter (flag : List Char) : Bool :=
  match flag with
  | ['-', letter] => letter != '-'
  | _ => false

/-- A word that begins with a dash and means no option of the command. -/
def otherWord (s : String) : Word :=
  if looksNegative s.toList || s.toList.contains ' ' then .plain s else .unknown s

/-- What a word is, or the flags that a shortened one could mean. -/
def readWord (c : Command) (s : String) : Except (List String) Word :=
  let cs := s.toList
  let flag := beforeEquals cs
  match cs with
  | '-' :: next :: rest =>
    match c.form? s with
    | some form => .ok (.option s form (isByLetter cs) none)
    | none =>
      match c.form? (String.ofList flag) with
      | some form => .ok (.option s form (isByLetter flag) (carriedBy cs))
      | none =>
        if next = '-' then
          match c.formsFrom flag with
          | [] => .ok (otherWord s)
          | [form] => .ok (.option s form false (carriedBy cs))
          | forms => .error (forms.map OptionForm.longFlag)
        else
          match c.letterForm? next with
          | some form => .ok (.option s form true (some rest))
          | none => .ok (otherWord s)
  | _ => .ok (.plain s)

end Command

end PageTemplate.CommandLine
