import Messaging.Send

/-! What the methods of the built-in classes do. Allocators, initializers and copies hand their caller a
    reference; every other object they make goes to the innermost pool. -/

namespace Messaging

namespace Payload

/-- The contents of a string. -/
def text? : Option Payload → Option String
  | some (.text contents) => some contents
  | _ => none

/-- The value of a number. -/
def number? : Option Payload → Option Int64
  | some (.number n) => some n
  | _ => none

/-- The name and the reason of an exception. -/
def exception? : Option Payload → Option (String × String)
  | some (.exception name reason) => some (name, reason)
  | _ => none

/-- The delegate slot and the timeout of a port. -/
def port? : Option Payload → Option (SlotId × UInt64)
  | some (.port delegate timeout) => some (delegate, timeout)
  | _ => none

/-- The callbacks of an adapter; without a table both slots are empty. -/
def callbackTable : Option Payload → CallbackTable
  | some (.callbacks table) => table
  | _ => .empty

/-- The number that a sample object keeps. -/
def tally? : Option Payload → Option Int64
  | some (.tally n) => some n
  | _ => none

end Payload

namespace Invocation

/-- The payload of the receiver. -/
def payload (inv : Invocation) : Exec (Option Payload) := do payloadOf (← inv.object)

/-- The payload of an argument that names an object. -/
def argPayload (inv : Invocation) (n : Nat) : Exec (Option Payload) :=
  match (inv.arg n).object? with
  | some a => payloadOf a
  | none => pure none

/-- The contents of a string argument; anything else is empty. -/
def argText (inv : Invocation) (n : Nat) : Exec String := return (Payload.text? (← inv.argPayload n)).getD ""

/-- Attaches a payload to the receiver, which is returned. -/
def initialized (inv : Invocation) (p : Payload) : Exec Value := do
  let a ← inv.object
  attach a p
  pure (.object (some a))

/-- A new instance of the receiving class with a payload. The innermost pool owns it. -/
def pooledInstance (inv : Invocation) (p : Exec Payload) : Exec Value := do
  let a ← alloc (← inv.cls)
  attach a (← p)
  autorelease a
  pure (.object (some a))

end Invocation

/-- A new string that the innermost pool owns. -/
def pooledString (contents : String) : Exec Value := do
  let a ← newString contents
  autorelease a
  pure (.object (some a))

/-- The payload of a new port: no delegate, no timeout. -/
def freshPort : Exec Payload := return .port (← newSlot) 0

/-- Delivers an event to the delegate of the receiving port, if it has one that implements the event. The
    delegate is kept alive until its handler has ended. -/
def notifyDelegate (code : Code) (inv : Invocation) (selector : String) : Exec Value := do
  let port ← inv.object
  let loaded ← match Payload.port? (← payloadOf port) with
    | some (slot, _) => loadWeak slot
    | none => pure none
  match loaded with
  | none => log .builtins .trace s!"{selector} dropped, port {port.text} has no delegate"
  | some delegate =>
    ensuring (do
      let s ← intern selector
      match ← lookupMethod (← classOf delegate) .ofInstances s with
      | none => log .builtins .trace s!"{selector} dropped, delegate does not respond"
      | some _ => let _ ← send code (.object delegate) s .void [inv.arg 0])
      (release delegate)
  pure .void

/-- The text of an event where it is dropped. -/
def eventText : Value → String
  | .pointer n => addressText n.toNat
  | v => Address.textOrNil v.object?

/-- Calls the callback in a slot of the receiving adapter. Nothing may unwind out of a callback. -/
def forwardEvent (code : Code) (inv : Invocation) (slot : Nat) (select : CallbackTable → Option Callback) : Exec Value := do
  let a ← inv.object
  match select (Payload.callbackTable (← payloadOf a)) with
  | some c => let _ ← confined (code (.callback c) inv)
  | none => log .adapter .trace s!"adapter {a.text}: slot {slot} is empty, event {eventText (inv.arg 0)} dropped"
  pure .void

/-- What a built-in routine does. -/
def BuiltinRoutine.run (code : Code) (r : BuiltinRoutine) (inv : Invocation) : Exec Value := do
  match r with
  | .alloc => return .object (some (← Messaging.alloc (← inv.cls)))
  | .new =>
    let a ← Messaging.alloc (← inv.cls)
    let (v, _) ← send code (.object a) (← intern "init") .object []
    pure v
  | .init => return .object (some (← inv.object))
  | .retain =>
    let a ← inv.object
    Messaging.retain a
    pure (.object (some a))
  | .release =>
    Messaging.release (← inv.object)
    pure .void
  | .autorelease =>
    let a ← inv.object
    Messaging.autorelease a
    pure (.object (some a))
  | .retainCount => return .integer .uint64 (← countOf (← inv.object))
  | .cls => return .cls (some (← classOf (← inv.object)))
  | .description =>
    let a ← inv.object
    pooledString s!"<{← className (← classOf a)}: {a.text}>"
  | .respondsTo =>
    match (inv.arg 0).selector? with
    | none => pure (.bool false)
    | some s => return .bool (← lookupMethod (← classOf (← inv.object)) .ofInstances s).isSome
  | .isKindOf =>
    match (inv.arg 0).cls? with
    | none => pure (.bool false)
    | some above =>
      let cls ← classOf (← inv.object)
      return .bool ((← get).classes.isSubclass cls above)
  | .identityHash => return .place (← inv.object)
  | .isIdentical => return .bool ((inv.arg 0).object? == some (← inv.object))
  | .textWith => inv.pooledInstance (pure (.text (inv.arg 0).contents))
  | .textInit => inv.initialized (.text (inv.arg 0).contents)
  | .textLength => return .integer .uint64 (((Payload.text? (← inv.payload)).map String.utf8ByteSize).getD 0)
  | .textCopy =>
    let a ← inv.object
    Messaging.retain a
    pure (.object (some a))
  | .textContents => return .text ((Payload.text? (← inv.payload)).getD "")
  | .textIsEqual =>
    let left := Payload.text? (← inv.payload)
    let right := Payload.text? (← inv.argPayload 0)
    pure (.bool (left.isSome && left == right))
  | .textHash => return .ulong (nameHash ((Payload.text? (← inv.payload)).getD ""))
  | .textDescription =>
    let a ← inv.object
    Messaging.retain a
    Messaging.autorelease a
    pure (.object (some a))
  | .numberWith => inv.pooledInstance (pure (.number (inv.arg 0).int64))
  | .numberInit => inv.initialized (.number (inv.arg 0).int64)
  | .numberValue => return .long ((Payload.number? (← inv.payload)).getD 0)
  | .numberDescription => pooledString (toString ((Payload.number? (← inv.payload)).getD 0).toInt)
  | .exceptionWith => inv.pooledInstance (do return .exception (← inv.argText 0) (← inv.argText 1))
  | .exceptionInit =>
    let name ← inv.argText 0
    let reason ← inv.argText 1
    inv.initialized (.exception name reason)
  | .exceptionName => pooledString (((Payload.exception? (← inv.payload)).map Prod.fst).getD "")
  | .exceptionReason => pooledString (((Payload.exception? (← inv.payload)).map Prod.snd).getD "")
  | .exceptionCallStack => pure (.object none)
  | .exceptionRaise =>
    let a ← inv.object
    Messaging.retain a
    throwObject a
  | .exceptionDescription =>
    pooledString (match Payload.exception? (← inv.payload) with
      | some (name, reason) => name ++ ": " ++ reason
      | none => genericName)
  | .portWith => inv.pooledInstance freshPort
  | .portInit => inv.initialized (← freshPort)
  | .portDelegate =>
    match Payload.port? (← inv.payload) with
    | none => pure (.object none)
    | some (slot, _) =>
      let loaded ← loadWeak slot
      if let some a := loaded then Messaging.autorelease a
      pure (.object loaded)
  | .portSetDelegate =>
    if let some (slot, _) := Payload.port? (← inv.payload) then storeWeak slot (inv.arg 0).object?
    pure .void
  | .portTimeout => return .double (((Payload.port? (← inv.payload)).map Prod.snd).getD 0)
  | .portSetTimeout =>
    if let some (slot, _) := Payload.port? (← inv.payload) then
      setPayload (← inv.object) (.port slot (inv.arg 0).doubleBits)
    pure .void
  | .portPostMachMessage => notifyDelegate code inv "handleMachMessage:"
  | .portPostPortMessage => notifyDelegate code inv "handlePortMessage:"
  | .adapterInit =>
    inv.initialized (.callbacks (match inv.arg 0 with
      | .callbacks table => table
      | _ => .empty))
  | .adapterCallbacks => return .callbacks (Payload.callbackTable (← inv.payload))
  | .adapterMachMessage => forwardEvent code inv 0 CallbackTable.machMessage
  | .adapterPortMessage => forwardEvent code inv 1 CallbackTable.portMessage

end Messaging
