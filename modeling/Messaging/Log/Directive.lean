import Messaging.Log.Filter
import Messaging.Text.Lines

/-! Directives: the text form of a filter. A spec is a list of directives separated by commas, each of
    them a level for everything or a `target=level` pair. -/

namespace Messaging.Log

/-- One directive. -/
inductive Directive
  | base (level : Level)
  | target (name : String) (level : Level)
deriving DecidableEq

/-- The pieces of a spec, without blanks at their ends and without those that are blank. -/
def pieces (spec : String) : List (List Char) :=
  ((Text.cutAt ',' spec.toList).map Text.trimBlanks).filter fun piece => !piece.isEmpty

namespace Directive

/-- Reads one piece of a spec. A piece with an equals sign is a pair, cut at the first one. -/
def read (piece : List Char) : Except SpecError Directive :=
  if '=' ∈ piece then
    let left := Text.trimBlanks (piece.takeWhile (· ≠ '='))
    let right := (piece.dropWhile (· ≠ '=')).drop 1
    if left.isEmpty then .error (.missingTarget (String.ofList piece))
    else (Level.read (String.ofList right)).map (.target (String.ofList left))
  else (Level.read (String.ofList piece)).map .base

/-- What a directive does to the filter built so far. -/
def apply (f : Filter) : Directive → Filter
  | base level => { f with base := level }
  | target name level => f.withTarget name level

end Directive

/-- Reads a spec; the first piece that is no directive decides the error. Without a bare level the
    base is the most severe one. -/
def Filter.ofSpec (spec : String) : Except SpecError Filter :=
  ((pieces spec).mapM Directive.read).map fun directives => directives.foldl Directive.apply (.uniform .error)

end Messaging.Log
