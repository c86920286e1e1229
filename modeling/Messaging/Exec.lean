import Messaging.Machine

/-! Computations on a machine. A computation ends with a result or is interrupted: a thrown object and a
    panic unwind to whoever stops them, the other interruptions end the run. The machine is kept whatever
    happens. -/

namespace Messaging

open Log (Level Origin)

/-- Why a computation does not end with a result. A thrown object carries one reference with it. A stray
    access is one to an address where nothing lives. -/
inductive Interruption
  | thrown (value : Address)
  | panic (text : String)
  | abort
  | stray (a : Address)
deriving DecidableEq

/-- Whether an interruption ends the run on the spot, so that nothing is tidied up. -/
def Interruption.isFatal : Interruption → Bool
  | thrown _ | panic _ => false
  | abort | stray _ => true

/-- A computation on a machine. -/
abbrev Exec (α : Type) : Type := ExceptT Interruption (StateM Machine) α

/-- The outcome of a computation, with the machine it leaves. -/
def Exec.outcome {α : Type} (x : Exec α) (s : Machine) : Except Interruption α × Machine := (x.run).run s

/-- Ends a computation with a panic. -/
def panicWith {α : Type} (text : String) : Exec α := throw (.panic text)

/-- Runs a computation and takes whatever interrupted it as its result. -/
def attempt {α : Type} (x : Exec α) : Exec (Except Interruption α) :=
  ExceptT.mk (do pure (.ok (← x.run)))

/-- Runs a computation and tidies up after it, also when it unwinds. -/
def ensuring {α : Type} (x : Exec α) (tidy : Exec Unit) : Exec α := do
  match ← attempt x with
  | .ok a =>
    tidy
    pure a
  | .error i =>
    if !i.isFatal then tidy
    throw i

/-- Runs a computation in a frame that nothing may unwind through. -/
def confined {α : Type} (x : Exec α) : Exec α := do
  match ← attempt x with
  | .ok a => pure a
  | .error i => throw (if i.isFatal then i else .abort)

/-- Writes a log record. -/
def log (origin : Origin) (level : Level) (text : String) : Exec Unit :=
  modify fun s => { s with journal := s.journal.record level origin.path text }

/-- The handle of a selector name, which is interned if it is not yet. -/
def intern (name : String) : Exec Selector :=
  modifyGet fun s =>
    let (selector, selectors) := s.selectors.register name
    (selector, { s with selectors })

/-- The name of a class. -/
def className (id : ClassId) : Exec String := return (← get).classes.name id

/-- Looks a method up. -/
def lookupMethod (id : ClassId) (kind : MethodKind) (selector : Selector) : Exec (Option Method) :=
  modifyGet fun s =>
    let (m, classes) := s.classes.lookup id kind selector
    (m, { s with classes })

/-- Changes the part of the machine that concerns the client. -/
def modifyClient (change : Client → Client) : Exec Unit := modify fun s => { s with client := change s.client }

end Messaging
