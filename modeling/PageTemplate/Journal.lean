/-
The journal: what a run tells about its steps, for whoever wants to follow it.
-/
namespace PageTemplate

/-- How much an entry matters. -/
inductive JournalLevel where
  | debug
  | info
  deriving DecidableEq, Inhabited

/-- One entry: how much it matters, which part of the program writes it, and what it says. -/
structure JournalEntry where
  level : JournalLevel := .debug
  origin : String
  message : String
  deriving DecidableEq, Inhabited

/-- The part of the program that an entry names as its origin. -/
def originOf (part : String) : String := "stencil." ++ part

namespace JournalEntry

/-- An entry of the least level. -/
def debug (part message : String) : JournalEntry := { origin := originOf part, message := message }

/-- The entry as a line. -/
def line (e : JournalEntry) : String :=
  (match e.level with | .debug => "DEBUG" | .info => "INFO") ++ " " ++ e.origin ++ ": " ++ e.message

/-- Whether an entry is told, given whether details are wanted. -/
def isTold (verbose : Bool) (e : JournalEntry) : Bool := verbose || e.level == .info

end JournalEntry

end PageTemplate
