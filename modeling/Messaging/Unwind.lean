import Messaging.Builtin.Install

/-! Exceptions. Any object can be thrown; it carries a reference with it until a guarded region stops the
    unwind and hands that reference on. Panics pass through guarded regions. -/

namespace Messaging

/-- The name of exceptions that carry only a reason. -/
def genericName : String := "OxGenericException"

/-- The name of exceptions about a message that cannot be delivered. -/
def invalidArgumentName : String := "OxInvalidArgumentException"

/-- Throws an object. The reference goes with it. -/
def throwObject {α : Type} (a : Address) : Exec α := do
  let name ← className (← classOf a)
  log .exceptions .debug s!"throwing {name} {a.text}"
  throw (.thrown a)

/-- A new string. The caller owns it. -/
def newString (contents : String) : Exec Address := do
  let a ← alloc (← builtins).string
  attach a (.text contents)
  pure a

/-- A new exception. The caller owns it. -/
def newException (name reason : String) : Exec Address := do
  let a ← alloc (← builtins).exception
  attach a (.exception name reason)
  pure a

/-- Throws a new exception. -/
def raiseNamed {α : Type} (name reason : String) : Exec α := do throwObject (← newException name reason)

/-- Throws a new exception with the general name. -/
def raise {α : Type} (reason : String) : Exec α := raiseNamed genericName reason

/-- Throws a new string. -/
def throwText {α : Type} (contents : String) : Exec α := do throwObject (← newString contents)

/-- Runs a guarded region. What is thrown in it is its result, with the reference that came along. -/
def catchThrown {α : Type} (x : Exec α) : Exec (Except Address α) := do
  match ← attempt x with
  | .ok a => pure (.ok a)
  | .error (.thrown value) =>
    log .exceptions .debug s!"caught {value.text}"
    pure (.error value)
  | .error i => throw i

/-- Runs an operation as a guarded region of its own and returns what it threw. -/
def guardedCall (x : Exec Unit) : Exec (Option Address) := do
  match ← catchThrown x with
  | .ok () => pure none
  | .error value =>
    log .guardedCalls .debug s!"guarded call {codeText} raised {value.text}"
    pure (some value)

/-- The text that a thrown object carries: the reason of an exception, or the contents of a string. -/
def exceptionMessage (a : Address) : Exec (Option String) := do
  match ← payloadOf a with
  | some (.exception _ reason) => pure (some reason)
  | some (.text contents) => pure (some contents)
  | _ => pure none

/-- Whether an object is an exception. -/
def isException (a : Address) : Exec Bool := do
  let cls ← classOf a
  let known ← builtins
  return (← get).classes.isSubclass cls known.exception

end Messaging
