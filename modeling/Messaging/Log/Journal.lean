import Messaging.Log.Directive

/-! The logger and the journal it writes. The logger keeps, beside its filter, the most talkative level
    that the filter allows anywhere, so that most records are turned away without looking at their
    path. -/

namespace Messaging.Log

/-- A filter with its ceiling. -/
structure Logger where
  ceiling : Level
  filter : Filter
deriving DecidableEq

namespace Logger

/-- The logger for a filter. -/
def ofFilter (f : Filter) : Logger := ⟨f.ceiling, f⟩

/-- Replaces the filter. -/
def setFilter (_ : Logger) (f : Filter) : Logger := ofFilter f

/-- Sets one level for everything. -/
def setLevel (l : Logger) (level : Level) : Logger := l.setFilter (.uniform level)

/-- Sets one level for everything, by its name. -/
def setLevelNamed (l : Logger) (name : String) : Except SpecError Logger := (Level.read name).map l.setLevel

/-- Replaces the filter by the one a spec describes. -/
def setDirectives (l : Logger) (spec : String) : Except SpecError Logger := (Filter.ofSpec spec).map l.setFilter

/-- The level for paths without a directive. -/
def level (l : Logger) : Level := l.filter.base

/-- Whether a record of `level` could be logged from some path. -/
def enabled (l : Logger) (level : Level) : Bool := decide (level ≤ l.ceiling)

/-- Whether a record of `level` from `path` is logged. -/
def enabledFor (l : Logger) (level : Level) (path : String) : Bool := l.enabled level && l.filter.enabled level path

end Logger

/-- One record as a text: its level, the path it comes from and what it says. -/
def recordText (level : Level) (path text : String) (coloured : Bool) : String :=
  let head := "[" ++ level.name ++ "]"
  (if coloured then level.colour ++ head ++ "\x1b[0m" else head) ++ " " ++ path ++ ": " ++ text

/-- A logger and the texts of the records it has written, oldest first. -/
structure Journal where
  logger : Logger
  entries : Array String

/-- An empty journal under the standard filter. -/
def Journal.fresh : Journal := ⟨.ofFilter .standard, #[]⟩

/-- Writes a record, whatever the logger lets through. -/
def Journal.write (j : Journal) (level : Level) (path text : String) : Journal :=
  { j with entries := j.entries.push (recordText level path text false) }

/-- Writes a record, unless the logger turns it away. -/
def Journal.record (j : Journal) (level : Level) (path text : String) : Journal :=
  if j.logger.enabledFor level path then j.write level path text else j

/-- The lines of the journal, oldest first. A record has more than one if its text has. -/
def Journal.lines (j : Journal) : List String := j.entries.toList.flatMap Text.lines

/-- Removes what was written. -/
def Journal.clear (j : Journal) : Journal := { j with entries := #[] }

end Messaging.Log
