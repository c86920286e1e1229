import Messaging.Unwind

/-! Sending. A message goes to an object or to a class; the method is found along the superclass chain, the
    types of the call are compared with its signature, and its code is run. What cannot be delivered is
    raised as an exception and runs no code. -/

namespace Messaging

/-- Whom a message is sent to. -/
inductive Receiver
  | object (a : Address)
  | cls (id : ClassId)
deriving DecidableEq

namespace Receiver

/-- The object, unless the receiver is a class. -/
def object? : Receiver → Option Address
  | object a => some a
  | cls _ => none

/-- The class, unless the receiver is an object. -/
def cls? : Receiver → Option ClassId
  | cls id => some id
  | object _ => none

/-- The method that a selector finds. -/
def lookup (r : Receiver) (s : Selector) : Exec (Option Method) := do
  match r with
  | object a => lookupMethod (← classOf a) .ofInstances s
  | cls id => lookupMethod id .ofClass s

/-- The text that names a message in errors. -/
def describe (r : Receiver) (s : Selector) : Exec String := do
  match r with
  | object a => return s!"-[{← className (← classOf a)} {s.name}]"
  | cls id => return s!"+[{← className id} {s.name}]"

/-- The text that names the receiver when it does not know a selector. -/
def target : Receiver → String
  | object a => "instance " ++ a.text
  | cls _ => "class"

end Receiver

/-- What a method is called with, and the type of the result that is expected of it. -/
structure Invocation where
  this : Receiver
  command : Selector
  ret : TypeCode
  args : List Value

/-- What the routines do. -/
abbrev Code : Type := Routine → Invocation → Exec Value

/-- The types of a call as they stand in errors. -/
def callSite (ret : TypeCode) (args : List TypeCode) : String := String.join ((ret :: args).map TypeCode.text)

/-- Sends a message. The result comes with the ownership that the method declares. -/
def send (code : Code) (r : Receiver) (s : Selector) (ret : TypeCode) (args : List Value) : Exec (Value × Ownership) := do
  match ← r.lookup s with
  | none => raiseNamed invalidArgumentName s!"{← r.describe s}: unrecognized selector sent to {r.target}"
  | some m =>
    let types := args.map Value.code
    if !m.signature.accepts ret types then
      raiseNamed invalidArgumentName
        s!"{← r.describe s}: sent as `{callSite ret types}` but implemented as `{m.signature.text}`"
    else
      log .dispatch .trace s!"send {← r.describe s}"
      let v ← code m.routine ⟨r, s, ret, args⟩
      pure (v, m.ownership)

/-- The receiver of an instance method. -/
def requireObject : Option Address → Exec Address
  | some a => pure a
  | none => raiseNamed invalidArgumentName "message sent to a nil receiver"

/-- The receiver of a class method. -/
def requireClass : Option ClassId → Exec ClassId
  | some id => pure id
  | none => raiseNamed invalidArgumentName "class message sent to a nil class"

namespace Invocation

/-- The receiver of an instance method. -/
def object (inv : Invocation) : Exec Address := requireObject inv.this.object?

/-- The receiver of a class method. -/
def cls (inv : Invocation) : Exec ClassId := requireClass inv.this.cls?

/-- An argument. -/
def arg (inv : Invocation) (n : Nat) : Value := inv.args.getD n .void

end Invocation
end Messaging
