import Messaging.Scenario.ObjectSteps

/-! The steps of a scenario about pools, about raising and about the log. -/

namespace Messaging.Scenario

/-- A token, and whether its pool is the innermost one. -/
def guardDatum (token : Nat) : Exec Datum := return .list [.ofNat token, .bool ((← pools).isInnermost token)]

/-- Adds a pool under a name, which lasts until it is dropped or its frame ends. -/
def guardNew : Action := fun fields => do
  let name ← fields.text "pool"
  let token ← pushPool
  modifyClient fun c =>
    match c.frames with
    | [] => { c with frames := [[⟨name, token, false⟩]] }
    | frame :: outer => { c with frames := (⟨name, token, false⟩ :: frame) :: outer }
  guardDatum token

/-- Takes the latest guard with a name out of the frames. The pool of a block cannot be taken, and it hides
    the guards before it. -/
def takeGuard (name : String) : List (List Guard) → Option (Guard × List (List Guard))
  | [] => none
  | frame :: outer =>
    match frame.find? fun g => g.name == name with
    | some g => if g.ofBlock then none else some (g, frame.erase g :: outer)
    | none => (takeGuard name outer).map fun (g, rest) => (g, frame :: rest)

/-- Gives a named pool up. -/
def guardDrop : Action := fun fields => do
  let name ← fields.text "pool"
  match takeGuard name (← get).client.frames with
  | none => unmet .poolKnown
  | some (g, frames) =>
    modifyClient fun c => { c with frames }
    retirePool g.token
    pure done

/-- Shows a named pool. -/
def guardInfo : Action := fun fields => do
  let token ← poolField fields
  guardDatum token

/-- Checks that a named pool is the innermost one. -/
def assertInnermostStep : Action := fun fields => do
  let token ← poolField fields
  assertInnermost token
  pure done

/-- Adds a pool that only its token names. -/
def pushStep : Action := fun fields => do
  checkVia fields ["raw", "oxb"]
  return .ofNat (← pushPool)

/-- Removes a pool by its token. -/
def popStep : Action := fun fields => do
  let token ← IntType.uint64.read ((fields.get? "token").getD .null)
  checkVia fields ["raw", "oxb"]
  popPool token.toNat
  pure done

/-! ### Raising -/

/-- Raises an exception with a reason. -/
def raiseStep : Action := fun fields => do
  let message ← fields.text "message"
  raise message

/-- Raises an exception with a name and a reason. -/
def raiseNamedStep : Action := fun fields => do
  let name ← fields.text "name"
  let reason ← fields.text "reason"
  raiseNamed name reason

/-- Throws a string. -/
def throwValue : Action := fun fields => do
  let message ← fields.text "message"
  throwText message

/-- Raises an exception with the contents of a string as its reason. -/
def raiseByObject : Action := fun fields => do
  match ← handleField? fields "h" with
  | none => raise ""
  | some h => do raise ((Payload.text? (← payloadOf h.object)).getD "")

/-- Throws an object and keeps it. -/
def throwByObject : Action := fun fields => do
  match ← handleField? fields "h" with
  | none => raise "nil thrown"
  | some h =>
    retain h.object
    throwObject h.object

/-- Panics. -/
def panicStep : Action := fun fields => do
  let message ← fields.text "message"
  panicWith message

/-- Sends to a receiver that is nil. -/
def nilReceiver : Action := fun fields => do
  match ← fields.text? "kind" with
  | some "class" =>
    let _ ← requireClass none
    pure done
  | _ =>
    let _ ← requireObject none
    pure done

/-! ### Others -/

/-- Replaces the log filter. -/
def setDirectives : Action := fun fields => do
  let spec ← fields.text "spec"
  let logger ← (← get).journal.logger.setDirectives spec
  modify fun s => { s with journal := { s.journal with logger } }
  pure done

/-- Does nothing. -/
def nop : Action := fun _ => pure done

/-- The steps of this module by name. -/
def poolActions : List (String × Action) :=
  [("guard_new", guardNew), ("guard_drop", guardDrop), ("guard_info", guardInfo), ("assert_innermost", assertInnermostStep),
   ("push", pushStep), ("pop", popStep), ("raise", raiseStep), ("raise_named", raiseNamedStep), ("throw_value", throwValue),
   ("oxb_raise", raiseByObject), ("oxb_throw", throwByObject), ("panic", panicStep), ("nil_receiver", nilReceiver),
   ("set_directives", setDirectives), ("nop", nop)]

end Messaging.Scenario
