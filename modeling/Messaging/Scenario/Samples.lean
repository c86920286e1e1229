import Messaging.Builtin.Routines
import Messaging.Scenario.Handles

/-! The routines that a scenario can put behind methods and into event slots, and with them what all
    routines do. -/

namespace Messaging

open Scenario (noteEvent namesOf adjustOwned)

/-- The number that the receiver keeps. -/
def Invocation.state (inv : Invocation) : Exec Int64 := do
  match Payload.tally? (← inv.payload) with
  | some n => pure n
  | none => raiseNamed invalidArgumentName "fixture has no state"

/-- Replaces the number that the receiver keeps. -/
def Invocation.setState (inv : Invocation) (n : Int64) : Exec Value := do
  let _ ← inv.state
  setPayload (← inv.object) (.tally n)
  pure .void

/-- A new object of the receiver's class that keeps the next number. -/
def Invocation.child (inv : Invocation) : Exec Address := do
  let cls ← classOf (← inv.object)
  let n ← inv.state
  let a ← alloc cls
  attach a (.tally (n + 1))
  pure a

/-- The sum of the arguments, within 64 bits. -/
def Invocation.sum (inv : Invocation) : Int64 := inv.args.foldl (fun acc v => acc + v.int64) 0

/-- The arguments as digits of one number, within 64 bits. -/
def Invocation.packed (inv : Invocation) : Int64 := inv.args.foldl (fun acc v => acc * 10 + v.int64) 0

/-- The receiver as a value. -/
def Invocation.thisValue (inv : Invocation) : Value := .object inv.this.object?

/-- A floating-point argument. -/
def Invocation.double (inv : Invocation) (n : Nat) : Float := Float.ofBits (inv.arg n).doubleBits

/-- What a sample routine does. -/
def SampleRoutine.run (r : SampleRoutine) (inv : Invocation) : Exec Value := do
  match r with
  | .noop => pure .void
  | .one => pure (.long 1)
  | .two => pure (.long 2)
  | .sum => pure (.long inv.sum)
  | .pack => inv.setState inv.packed
  | .initSum => inv.initialized (.tally inv.sum)
  | .initNil =>
    release (← inv.object)
    pure (.object none)
  | .initReplace =>
    release (← inv.object)
    return .object (some (← newString "replacement"))
  | .value => return .long (← inv.state)
  | .setValue => inv.setState (inv.arg 0).int64
  | .makeChild =>
    let a ← inv.child
    autorelease a
    pure (.object (some a))
  | .newChild => return .object (some (← inv.child))
  | .nothing => pure (.zero inv.ret)
  | .itself => return .object (some (← inv.object))
  | .commandName => pooledString inv.command.name
  | .fail => do raise (← inv.argText 0)
  | .throwArgument =>
    match (inv.arg 0).object? with
    | some a =>
      retain a
      throwObject a
    | none => raiseNamed invalidArgumentName "nothing to throw"
  | .panic => panicWith "imp panicked"
  | .onEvent =>
    noteEvent ("imp " ++ inv.command.name) inv.thisValue (inv.arg 0)
    pure .void
  | .onEventRaise =>
    noteEvent ("imp " ++ inv.command.name) inv.thisValue (inv.arg 0)
    raise "handler failed"
  | .echo => pure (inv.arg 0)
  | .withValue => inv.pooledInstance (pure (.tally (inv.arg 0).int64))
  | .mix =>
    let sign : Float := if (inv.arg 1).isTrue then 1.0 else -1.0
    let total := (inv.arg 0).int64.toFloat + (inv.arg 2).int64.toFloat
    pure (.double (sign * total * inv.double 3).toBits)
  | .offset =>
    match inv.arg 0 with
    | .point x y =>
      pure (.point (Float.ofBits x + inv.double 1).toBits (Float.ofBits y + inv.double 2).toBits)
    | _ => pure (.point 0 0)
  | .failAfterStoring =>
    let _ ← inv.setState (inv.arg 0).int64
    raise "stored then raised"

/-- The name of a callback where it is installed and in the events that it notes. -/
def Callback.name : Callback → String
  | .first => "rec0"
  | .second => "rec1"
  | .letGo => "drop"
  | .raising => "raise"

/-- Gives up one reference to an object: the one of the first handle on it that owns any. -/
def releaseOwned (a : Address) : Exec Unit := do
  let s ← get
  let owner := (namesOf s a).find? fun name => ((s.client.handle? name).map Handle.owned).any (0 < ·)
  if let some name := owner then
    adjustOwned name (· - 1)
    release a

/-- What a callback does. -/
def Callback.run (c : Callback) (inv : Invocation) : Exec Value := do
  match c with
  | .raising => raise "from callback"
  | .letGo =>
    noteEvent c.name inv.thisValue (inv.arg 0)
    if let some a := inv.this.object? then releaseOwned a
    pure .void
  | _ =>
    noteEvent c.name inv.thisValue (inv.arg 0)
    pure .void

/-- What the routines do when sends may nest `depth` deep. Deeper nesting ends the run. -/
def codeWithin : Nat → Code
  | 0 => fun _ _ => throw .abort
  | depth + 1 => fun routine inv =>
    match routine with
    | .builtin r => r.run (codeWithin depth) inv
    | .sample r => r.run inv
    | .callback c => c.run inv

/-- How deep sends may nest. -/
def nestingLimit : Nat := 1024

/-- What the routines do. -/
def code : Code := codeWithin nestingLimit

end Messaging
