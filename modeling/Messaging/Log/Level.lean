import Messaging.Text.Blank

/-! Severity levels of log records, from the most severe to the most talkative. -/

namespace Messaging.Log

/-- Why a text that configures the log is refused. -/
inductive SpecError
  | invalidLevel (text : String)
  | missingTarget (directive : String)
deriving DecidableEq

/-- The wording of a refusal. -/
def SpecError.message : SpecError → String
  | .invalidLevel text => "invalid log level: " ++ text
  | .missingTarget directive => "missing target in directive: " ++ directive

/-- How severe a record is. -/
inductive Level
  | error | warn | info | debug | trace
deriving DecidableEq

namespace Level

/-- The levels, most severe first. -/
def all : List Level := [error, warn, info, debug, trace]

/-- The place of a level among the others, most severe first. -/
def rank : Level → Nat
  | error => 0
  | warn => 1
  | info => 2
  | debug => 3
  | trace => 4

instance : LE Level := ⟨fun a b => a.rank ≤ b.rank⟩

instance (a b : Level) : Decidable (a ≤ b) := inferInstanceAs (Decidable (a.rank ≤ b.rank))

/-- The more talkative of two levels. -/
def max (a b : Level) : Level := if a ≤ b then b else a

/-- The name of a level in records and directives. -/
def name : Level → String
  | error => "ERROR"
  | warn => "WARN"
  | info => "INFO"
  | debug => "DEBUG"
  | trace => "TRACE"

/-- The capitalised name of a level, shown in the text of a filter. -/
def label : Level → String
  | error => "Error"
  | warn => "Warn"
  | info => "Info"
  | debug => "Debug"
  | trace => "Trace"

/-- The terminal colour of a level. -/
def colour : Level → String
  | error => "\x1b[31m"
  | warn => "\x1b[33m"
  | info => "\x1b[32m"
  | debug => "\x1b[36m"
  | trace => "\x1b[35m"

/-- The level that a name stands for; case matters. -/
def named? (name : List Char) : Option Level := all.find? fun l => l.name.toList == name

/-- Reads a level name. Blanks around it and the case of its ASCII letters do not matter. -/
def read (text : String) : Except SpecError Level :=
  match named? ((Text.trimBlanks text.toList).map Char.toUpper) with
  | some l => .ok l
  | none => .error (.invalidLevel text)

end Level
end Messaging.Log
