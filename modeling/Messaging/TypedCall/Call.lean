import Messaging.TypedCall.Symbols

/-! Typed calls. The caller declares what ownership an object result has; the method declares what it
    returns; a call makes up for the difference, so that the caller gets what was declared. -/

namespace Messaging

/-- What a caller declares about an object result: it owns a reference, or the pool `scope` does. -/
inductive ReturnConvention
  | retained
  | borrowed (scope : Nat)
deriving DecidableEq

namespace ReturnConvention

/-- The ownership that is declared. -/
def tag : ReturnConvention → Ownership
  | retained => .retained
  | borrowed _ => .notRetained

/-- Checks, before the send, that the result can go where it is declared to go. -/
def checkScope : ReturnConvention → Exec Unit
  | retained => pure ()
  | borrowed scope => assertInnermost scope

/-- Makes up for the difference between what a method returned and what was declared. -/
def adopt (c : ReturnConvention) (a : Address) (native : Ownership) : Exec Unit :=
  match c, native with
  | .retained, .notRetained => retain a
  | .borrowed _, .retained => autorelease a
  | _, _ => pure ()

end ReturnConvention

/-- Sends a message with an object result, which is taken over as declared. -/
def sendAdopting (code : Code) (r : Receiver) (s : Selector) (args : List Value) (c : ReturnConvention) :
    Exec (Option Address) := do
  let (v, native) ← send code r s .object args
  match v.object? with
  | none => pure none
  | some a =>
    c.adopt a native
    pure (some a)

/-- Sends a message with an object result under a convention. A call that hands over a reference runs in a
    pool of its own: what the method leaves there goes before the call returns. -/
def sendObject (code : Code) (r : Receiver) (s : Selector) (args : List Value) (c : ReturnConvention) :
    Exec (Option Address) := do
  c.checkScope
  match c with
  | .retained => withPool fun _ => sendAdopting code r s args c
  | .borrowed _ => sendAdopting code r s args c

/-- A call of a class method with a result that is no handle. -/
def classCall (code : Code) (token : Option ClassId) (s : Selector) (ret : TypeCode) (args : List Value) : Exec Value := do
  let cls ← tokenClassFor token s
  return (← send code (.cls cls) s ret args).1

/-- A call of a class method with an object result. -/
def classCallObject (code : Code) (token : Option ClassId) (s : Selector) (args : List Value) (c : ReturnConvention) :
    Exec (Option Address) := do
  let cls ← tokenClassFor token s
  sendObject code (.cls cls) s args c

/-- A call of an instance method with a result that is no handle. -/
def readCall (code : Code) (a : Address) (s : Selector) (ret : TypeCode) (args : List Value) : Exec Value :=
  return (← send code (.object a) s ret args).1

/-- A call of an instance method with an object result. -/
def readCallObject (code : Code) (a : Address) (s : Selector) (args : List Value) (c : ReturnConvention) :
    Exec (Option Address) := sendObject code (.object a) s args c

/-- A call of an instance method without a result. -/
def writeCall (code : Code) (a : Address) (s : Selector) (args : List Value) : Exec Unit := do
  let _ ← readCall code a s .void args

/-- Allocates an instance and initializes it. The initializer consumes the reference that the allocation
    gave, and the caller owns its result. -/
def allocInit (code : Code) (token : Option ClassId) (s : Selector) (args : List Value) : Exec (Option Address) := do
  let cls ← tokenClassFor token s
  let allocSelector ← baseSelector "alloc"
  let (v, _) ← send code (.cls cls) allocSelector .object []
  match v.object? with
  | none => pure none
  | some a => sendObject code (.object a) s args .retained

end Messaging
