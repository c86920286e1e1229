import Messaging.Log.Level
import Messaging.Text.Quoted

/-! Filters: which records are logged, by their level and by the module path they come from. A filter has
    a base level and levels for some targets; a target speaks for its own path and every path below it,
    and of the targets that cover a path the longest decides. -/

namespace Messaging.Log

/-- Which records are logged. The targets are kept longest first, each once. -/
structure Filter where
  base : Level
  targets : List (String × Level)
deriving DecidableEq

/-- Whether `target` speaks for `path`: it is the path itself or stands before a `::` in it. -/
def covers (target path : String) : Bool :=
  let rest := path.toList.drop target.toList.length
  target.toList.isPrefixOf path.toList && (rest.isEmpty || "::".toList.isPrefixOf rest)

namespace Filter

/-- The filter that applies one level everywhere. -/
def uniform (level : Level) : Filter := ⟨level, []⟩

/-- The filter in force until another is set. -/
def standard : Filter := uniform .info

/-- Puts a target after all that are at least as long. -/
def place (entry : String × Level) (targets : List (String × Level)) : List (String × Level) :=
  let longer (e : String × Level) : Bool := entry.1.utf8ByteSize ≤ e.1.utf8ByteSize
  targets.takeWhile longer ++ entry :: targets.dropWhile longer

/-- Gives `target` a level, which replaces the one it had. -/
def withTarget (f : Filter) (target : String) (level : Level) : Filter :=
  { f with targets := place (target, level) (f.targets.filter fun e => decide (e.1 ≠ target)) }

/-- The level that applies to records from `path`. -/
def levelFor (f : Filter) (path : String) : Level :=
  match f.targets.find? fun e => covers e.1 path with
  | some e => e.2
  | none => f.base

/-- The most talkative level that any path is allowed. -/
def ceiling (f : Filter) : Level := f.targets.foldl (fun acc e => acc.max e.2) f.base

/-- Whether records of `level` from `path` are logged. -/
def enabled (f : Filter) (level : Level) (path : String) : Bool := decide (level ≤ f.levelFor path)

/-- The text that shows a filter. -/
def text (f : Filter) : String :=
  let entry (e : String × Level) : String := "(" ++ Text.quoted e.1 ++ ", " ++ e.2.label ++ ")"
  "Filter \x7b default: " ++ f.base.label ++ ", targets: [" ++ ", ".intercalate (f.targets.map entry) ++ "] \x7d"

end Filter
end Messaging.Log
