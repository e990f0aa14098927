/-!
# Messages

What a run has to say apart from its result: lines with a level, the part of the program that they come
from, and a text.

* `Logged`: a result together with the messages on the way to it.
* `Attempt`: the same for what may fail.
-/

namespace GoMeter

/-- How much a message matters. -/
inductive Level where
  | debug | info | warning | error
  deriving DecidableEq, Repr

/-- The word for a level. -/
def Level.word : Level → String
  | .debug => "DEBUG"
  | .info => "INFO"
  | .warning => "WARNING"
  | .error => "ERROR"

/-- A part of the program that has something to say. -/
inductive Origin where
  | commandLine | config | discovery | measure | parse
  deriving DecidableEq, Repr

/-- The name of a part of the program. -/
def Origin.name : Origin → String
  | .commandLine => "gocost.cli"
  | .config => "gocost.config.loader"
  | .discovery => "gocost.analyze.entrypoints"
  | .measure => "gocost.analyze.functions"
  | .parse => "gocost.analyze.parser"

/-- A message. -/
structure Message where
  level : Level
  origin : Origin
  text : String
  deriving DecidableEq, Repr

/-- The line of a message. -/
def Message.line (m : Message) : String := m.level.word ++ " " ++ m.origin.name ++ ": " ++ m.text

/-- Whether a message is shown; a verbose run shows all. -/
def Message.isShown (verbose : Bool) (m : Message) : Bool := verbose || m.level != .debug

/-- Whether a message is a warning or worse. -/
def Message.isAlarm (m : Message) : Bool := m.level == .warning || m.level == .error

/-- A result together with the messages on the way to it. -/
structure Logged (α : Type) where
  result : α
  messages : List Message
  deriving Repr

namespace Logged

/-- A result without messages. -/
def silent {α : Type} (a : α) : Logged α := ⟨a, []⟩

/-- Goes on with a result; the messages follow each other. -/
def andThen {α β : Type} (x : Logged α) (f : α → Logged β) : Logged β :=
  let y := f x.result
  ⟨y.result, x.messages ++ y.messages⟩

instance : Monad Logged where
  pure := silent
  bind := andThen

/-- A message without a result. -/
def say (level : Level) (origin : Origin) (text : String) : Logged Unit := ⟨(), [⟨level, origin, text⟩]⟩

end Logged

/-- A computation that may fail and has messages on the way to its result or its failure. -/
abbrev Attempt (ε : Type) := ExceptT ε Logged

namespace Attempt

/-- What came of a computation, with its messages. -/
def outcome {ε α : Type} (x : Attempt ε α) : Logged (Except ε α) := x.run

/-- A computation without messages. -/
def ofExcept {ε α : Type} (x : Except ε α) : Attempt ε α := ExceptT.mk (Logged.silent x)

/-- A computation whose failure is told in other terms. -/
def mapFault {ε δ α : Type} (f : ε → δ) (x : Attempt ε α) : Attempt δ α :=
  ExceptT.mk ⟨x.outcome.result.mapError f, x.outcome.messages⟩

end Attempt

end GoMeter
