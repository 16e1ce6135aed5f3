/-!
# Journal

What a program notes down while it runs.
-/

namespace DepositBridge

/-- The weight of a note. -/
inductive Level where
  | debug
  | info
  | warning
  | error
  deriving DecidableEq, Repr

/-- The part of the program that takes a note. -/
inductive Source where
  | contracts
  | relayer
  | invoker
  | commandLine
  deriving DecidableEq, Repr

/-- A note. -/
structure Note where
  level : Level
  source : Source
  text : String
  deriving DecidableEq, Repr

/-- The name of a level. -/
def Level.name : Level → String
  | debug => "DEBUG"
  | info => "INFO"
  | warning => "WARNING"
  | error => "ERROR"

/-- The name of a source. -/
def Source.name : Source → String
  | contracts => "deposit_invoker.contracts"
  | relayer => "deposit_invoker.relayer"
  | invoker => "deposit_invoker.invoker"
  | commandLine => "deposit_invoker.cli"

/-- The line of a note. -/
def Note.line (note : Note) : String := s!"{note.level.name} {note.source.name}: {note.text}"

end DepositBridge
