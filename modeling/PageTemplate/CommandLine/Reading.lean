/-
Reading a command line: which command it calls, what its options say, and
which words nothing asks for.

Options and the operand may come in any order. The word that calls a further
command hands all words behind it to that command. Asking for help ends the
reading where it is asked for.
-/
import PageTemplate.CommandLine.Word
import PageTemplate.Text.Order
import PageTemplate.Text.Quoted

namespace PageTemplate.CommandLine

/-- What is wrong with a command line. -/
inductive Misuse where
  | ambiguous (word : String) (flags : List String)
  | unwantedText (form : OptionForm) (text : String)
  | noText (form : OptionForm)
  | invalidChoice (asker text : String) (allowed : List String)
  | required (name : String)
  | unrecognized (words : List String)
  deriving DecidableEq, Inhabited

/-- The wording of each misuse. -/
def Misuse.message : Misuse → String
  | .ambiguous word flags =>
    "ambiguous option: " ++ word ++ " could match " ++ Text.commaSeparated flags
  | .unwantedText form text =>
    "argument " ++ form.label ++ ": ignored explicit argument " ++ Text.quoted text
  | .noText form => "argument " ++ form.label ++ ": expected one argument"
  | .invalidChoice asker text allowed =>
    "argument " ++ asker ++ ": invalid choice: " ++ Text.quoted text ++ " (choose from " ++
      Text.commaSeparated (allowed.map Text.quoted) ++ ")"
  | .required name => "the following arguments are required: " ++ name
  | .unrecognized words => "unrecognized arguments: " ++ String.intercalate " " words

/-- Why a command line is not carried out: a command is misused, or its help is asked for. -/
inductive Stop where
  | help (command : Command)
  | misuse (command : Command) (cause : Misuse)
  deriving DecidableEq, Inhabited

/-- An option that was given, and the text it was given, if it takes one. -/
structure Given where
  form : OptionForm
  text : String := ""
  deriving DecidableEq, Inhabited

/-- What one option word gives: options in order, of which the last may still wait for a text. -/
structure Unpacked where
  given : List Given := []
  waiting : Option OptionForm := none
  deriving DecidableEq, Inhabited

/-- Puts an option in front. -/
def Unpacked.cons (g : Given) (u : Unpacked) : Unpacked := { u with given := g :: u.given }

/-- An option that carries nothing. -/
def bare (form : OptionForm) : Unpacked :=
  if form.intake = .nothing then { given := [⟨form, ""⟩] } else { waiting := some form }

namespace Command

/-- The words of a command line, read with the options of a command. -/
def readWords (c : Command) : List String → Except Misuse (List Word)
  | [] => .ok []
  | s :: rest =>
    if s = "--" then .ok (.divider :: rest.map .plain)
    else
      match c.readWord s with
      | .error flags => .error (.ambiguous s flags)
      | .ok word => (c.readWords rest).map (word :: ·)

/-- An option that carries a text. One that takes none can only be a letter, and then the text is
further letters, each of which has to mean an option. -/
def unpack (c : Command) (form : OptionForm) (byLetter : Bool) (text : List Char) :
    Except Misuse Unpacked :=
  if form.intake ≠ .nothing then .ok { given := [⟨form, String.ofList text⟩] }
  else
    match text with
    | [] => .error (.unwantedText form "")
    | letter :: rest =>
      match (c.letterForm? letter).filter fun _ => byLetter with
      | none => .error (.unwantedText form (String.ofList text))
      | some next =>
        let others := if rest = [] then .ok (bare next) else c.unpack next true rest
        others.map (Unpacked.cons ⟨form, ""⟩)

/-- What an option word gives. -/
def unpackWord (c : Command) (form : OptionForm) (byLetter : Bool) :
    Option (List Char) → Except Misuse Unpacked
  | none => .ok (bare form)
  | some text => c.unpack form byLetter text

/-- Takes the options of one word in order: help stops, and a choice has to be allowed. -/
def settle (c : Command) : List Given → Except Stop Unit
  | [] => .ok ()
  | g :: rest =>
    if g.form.name = .help then .error (.help c)
    else
      match g.form.intake with
      | .choice allowed =>
        if allowed.contains g.text then c.settle rest
        else .error (.misuse c (.invalidChoice g.form.label g.text allowed))
      | _ => c.settle rest

end Command

/-- What the words of a command come to: the options given, the words nothing asks for, and the
operand, which for a further command is its word and all words behind. -/
structure Walked where
  given : List Given := []
  leftovers : List String := []
  operand : List String := []
  deriving DecidableEq, Inhabited

namespace Walked

/-- Puts options in front. -/
def give (given : List Given) (w : Walked) : Walked := { w with given := given ++ w.given }

/-- Puts words that nothing asks for in front. -/
def leave (words : List String) (w : Walked) : Walked := { w with leftovers := words ++ w.leftovers }

/-- The walk whose operand is a word. -/
def take (word : String) (w : Walked) : Walked := { w with operand := [word] }

end Walked

namespace Command

/-- Whether the operand is a further command. -/
def leadsOn (c : Command) : Bool := !c.subcommands.isEmpty

/-- Goes through the words of a command; `isOpen` says whether the operand is still to come. -/
def walk (c : Command) (isOpen : Bool) : List Word → Except Stop Walked
  | [] => .ok {}
  | .unknown text :: rest => (c.walk isOpen rest).map (Walked.leave [text])
  | .option _ form byLetter carried :: rest =>
    match c.unpackWord form byLetter carried with
    | .error cause => .error (.misuse c cause)
    | .ok unpacked =>
      match unpacked.waiting, rest with
      | none, rest =>
        match c.settle unpacked.given with
        | .error stop => .error stop
        | .ok () => (c.walk isOpen rest).map (Walked.give unpacked.given)
      | some form, .plain text :: rest =>
        let given := unpacked.given ++ [⟨form, text⟩]
        match c.settle given with
        | .error stop => .error stop
        | .ok () => (c.walk isOpen rest).map (Walked.give given)
      | some form, _ => .error (.misuse c (.noText form))
  | .divider :: .plain text :: rest =>
    if isOpen then
      if c.leadsOn then .ok { operand := "--" :: text :: rest.map Word.text }
      else (c.walk false rest).map (Walked.take text)
    else (c.walk false rest).map (Walked.leave ["--", text])
  | .divider :: rest => (c.walk isOpen rest).map (Walked.leave ["--"])
  | .plain text :: rest =>
    if isOpen then
      if c.leadsOn then .ok { operand := text :: rest.map Word.text }
      else
        match rest with
        | .divider :: rest => (c.walk false rest).map (Walked.take text)
        | rest => (c.walk false rest).map (Walked.take text)
    else (c.walk false rest).map (Walked.leave [text])

end Command

/-- A command line that was read: the command, its options in order, its file if it asks for one, and
the words nothing asks for. -/
structure Parsed where
  command : Command
  given : List Given
  file : String
  leftovers : List String
  deriving DecidableEq, Inhabited

namespace Command

/-- Reads the words behind the one that calls a command. -/
def parse (c : Command) (args : List String) : Except Stop Parsed :=
  match c.readWords args with
  | .error cause => .error (.misuse c cause)
  | .ok words =>
    match c.walk c.operand.isSome words with
    | .error stop => .error stop
    | .ok walked =>
      match c.operand, walked.operand with
      | none, _ => .ok ⟨c, walked.given, "", walked.leftovers⟩
      | some operand, [] => .error (.misuse c (.required operand.name))
      | some (.file ..), file :: _ => .ok ⟨c, walked.given, file, walked.leftovers⟩
      | some (.command name commands), word :: rest =>
        match _h : c.subcommand? word with
        | none => .error (.misuse c (.invalidChoice name word (commands.map Command.word)))
        | some sub =>
          (sub.parse rest).map fun inner =>
            { inner with
              given := walked.given ++ inner.given
              leftovers := walked.leftovers ++ inner.leftovers }
termination_by c.depth
decreasing_by exact depth_lt_of_subcommand? _h

end Command

/-- Reads a whole command line; words that nothing asks for are refused. -/
def parse (args : List String) : Except Stop Parsed :=
  match Command.top.parse args with
  | .error stop => .error stop
  | .ok parsed =>
    if parsed.leftovers = [] then .ok parsed
    else .error (.misuse .top (.unrecognized parsed.leftovers))

end PageTemplate.CommandLine
