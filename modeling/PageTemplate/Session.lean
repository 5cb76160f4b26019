/-
What outlives a single step: the shelf of registered fonts, which files have
been read, and the journal. An action may change these and then fail; what it
has changed stays changed.
-/
import PageTemplate.Fault.Basic

namespace PageTemplate

/-- What actions leave behind. -/
structure Session where
  shelf : Font.Shelf := []
  spent : List Nat := []
  journal : List JournalEntry := []
  deriving DecidableEq, Inhabited

/-- An action: it may fail, and it may change the session either way. -/
abbrev Act := ExceptT Fault (StateM Session)

namespace Act

/-- The result of an action and the session after it. -/
def outcome {α : Type} (act : Act α) (session : Session) : Except Fault α × Session :=
  (ExceptT.run act).run session

/-- An action that changes nothing. -/
def ofExcept {ε α : Type} (wrap : ε → Fault) : Except ε α → Act α
  | .ok value => pure value
  | .error e => throw (wrap e)

/-- Writes entries into the journal. -/
def tell (entries : List JournalEntry) : Act Unit :=
  modify fun s => { s with journal := s.journal ++ entries }

/-- Asks for a font and puts it on the shelf. -/
def font [Platform] (files : FileTree) (settings : Settings) (request : Font.Request) (text : String) :
    Act String := do
  let session ← get
  match Font.ask files settings session.shelf request text with
  | .error fault => throw (.component (.font fault))
  | .ok found =>
    set { session with shelf := found.shelf }
    match found.source with
    | none => return found.name
    | some source =>
      tell [.debug "fonts" ("registered font " ++ found.name ++ " from " ++ source)]
      return found.name

/-- Reads a file handed over as a value: the first time it has its content, then nothing. -/
def readOnce (number : Nat) (content : List UInt8) : Act (List UInt8) := do
  let session ← get
  if session.spent.contains number then return []
  else
    set { session with spent := number :: session.spent }
    return content

end Act

end PageTemplate
