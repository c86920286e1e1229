import Messaging.Datum
import Messaging.FiniteMap
import Messaging.Identity

/-! The client: what a user of the objects holds. Handles are names for objects, each with a number of
    references of its own and a weak slot; guards are names for pools. -/

namespace Messaging

/-- A named object, the references owned through the name, and a slot that tells whether it still lives. -/
structure Handle where
  object : Address
  owned : Nat
  slot : SlotId
deriving DecidableEq

/-- A named pool. The pool of a block goes with the block and not before. -/
structure Guard where
  name : String
  token : Nat
  ofBlock : Bool
deriving DecidableEq

/-- What a client holds. Handles stand in the order of their names; the guards of the running frames,
    innermost frame first, stand newest first. Events and records stand oldest first. -/
structure Client where
  handles : List (String × Handle)
  weakNames : FiniteMap String SlotId
  frames : List (List Guard)
  events : List (List String)
  records : List Datum
  ownsBuiltins : Bool
  keepsLog : Bool

namespace Client

/-- A client that holds nothing. `ownsBuiltins` says whether it may change the built-in classes, `keepsLog`
    whether its records show what was logged. -/
def fresh (ownsBuiltins keepsLog : Bool) : Client := ⟨[], .empty, [], [], [], ownsBuiltins, keepsLog⟩

/-- The handle with a given name. -/
def handle? (c : Client) (name : String) : Option Handle := c.handles.lookup name

/-- Puts a handle at its place in the order of names. -/
def place (name : String) (h : Handle) : List (String × Handle) → List (String × Handle)
  | [] => [(name, h)]
  | entry :: rest =>
    if entry.1 = name then (name, h) :: rest
    else if name < entry.1 then (name, h) :: entry :: rest
    else entry :: place name h rest

/-- Sets a handle. -/
def bind (c : Client) (name : String) (h : Handle) : Client := { c with handles := place name h c.handles }

/-- Removes a handle. -/
def unbind (c : Client) (name : String) : Client :=
  { c with handles := c.handles.filter fun e => decide (e.1 ≠ name) }

/-- The latest guard with a name that is still in the running frames. -/
def guard? (c : Client) (name : String) : Option Guard := c.frames.flatten.find? fun g => g.name == name

end Client
end Messaging
