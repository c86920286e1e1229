import Messaging.Scenario.ClassSteps

/-! The steps of a scenario about objects, their references and weak references. -/

namespace Messaging.Scenario

/-- The name that a result is bound to. -/
def resultName (fields : Fields) : Act (Option String) := fields.text? "as"

/-- The name that a thrown object is bound to. -/
def exceptionName (fields : Fields) : Act (Option String) := fields.text? "exc"

/-- The name and the handle in `h`, which must own a reference. -/
def ownedField (fields : Fields) : Act (String × Handle) := do
  let name ← fields.text "h"
  let h ← liveHandle name
  if h.owned = 0 then unmet .referenceOwned
  pure (name, h)

/-- The equivalent ways to take and to give up references. -/
def referenceWays : List String := ["raw", "oxb", "typed", "raw_typed"]

/-- Allocates an instance. -/
def allocStep : Action := fun fields => do
  let id ← classField fields "class"
  let name ← resultName fields
  objectResult name (some (← alloc id)) 1

/-- Makes an exception. -/
def newExceptionStep : Action := fun fields => do
  let exception ← fields.text "name"
  let reason ← fields.text "reason"
  let name ← resultName fields
  objectResult name (some (← newException exception reason)) 1

/-- Takes a reference. -/
def retainStep : Action := fun fields => do
  let name ← fields.text "h"
  let h ← liveHandle name
  checkVia fields referenceWays
  retain h.object
  adjustOwned name (· + 1)
  pure done

/-- Gives a reference up. -/
def releaseStep : Action := fun fields => do
  let (name, h) ← ownedField fields
  checkVia fields referenceWays
  adjustOwned name (· - 1)
  release h.object
  pure done

/-- Hands a reference to the innermost pool. -/
def autoreleaseStep : Action := fun fields => do
  let (name, h) ← ownedField fields
  checkVia fields referenceWays
  adjustOwned name (· - 1)
  autorelease h.object
  pure done

/-- Hands a reference to a pool, which must be the innermost one. It is a second one that is handed over, so
    that a panic leaves the handle with its own. -/
def retainedAutorelease : Action := fun fields => do
  let (name, h) ← ownedField fields
  let token ← poolField fields
  retain h.object
  handOver h.object token
  release h.object
  adjustOwned name (· - 1)
  pure (.bool true)

/-- Compares an owned reference with a second one on the same object and with one on another object. The count
    is taken while all are held; the second one points where the first does. -/
def retainedEq : Action := fun fields => do
  let h ← handleField fields "h"
  let other ← handleField fields "other"
  retain h.object
  retain other.object
  let count ← countOf h.object
  release other.object
  release h.object
  pure (.list [.bool true, .bool (decide (h.object = other.object)), .ofNat count, .bool true])

/-- Throws an object with a reference that is given up. -/
def throwStep : Action := fun fields => do
  let (name, h) ← ownedField fields
  adjustOwned name (· - 1)
  throwObject h.object

/-- Removes a name. -/
def dropStep : Action := fun fields => do
  let name ← fields.text "h"
  return .bool (← unbindHandle name)

/-- Whether two handles are on one object. -/
def same : Action := fun fields => do
  let a ← handleField fields "a"
  let b ← handleField fields "b"
  pure (.bool (decide (a.object = b.object)))

/-- Describes an object. -/
def describeStep : Action := fun fields => do
  let h ← handleField fields "h"
  describe h.object

/-- The texts that show an object as a handle of various kinds. -/
def debugStep : Action := fun fields => do
  let h ← handleField fields "h"
  let text := h.object.text
  pure (.ofTexts [s!"ObjectPtr({text})", s!"Id({text})", s!"Id({text})", s!"String({text})", s!"PortDelegate({text})",
    s!"Object(ObjectPtr({text}))", s!"WeakRef({text})", s!"WeakRef({Address.textOrNil none})", s!"Some(Id({text}))"])

/-- Whether an object is an instance of the class of each typed handle. -/
def tryCast : Action := fun fields => do
  let h ← handleField fields "h"
  let cls ← classOf h.object
  let table ← baseSymbols
  let known := ["object", "string", "number", "exception", "port", "port_delegate_adapter"].map table.token
  let tokens := known ++ [← fixtureToken]
  let classes := (← get).classes
  pure (.list (tokens.map fun t => .bool (t.any fun above => classes.isSubclass cls above)))

/-- The text that a thrown object carries. -/
def exceptionMessageStep : Action := fun fields => do
  let h ← handleField fields "h"
  return .ofText? (← exceptionMessage h.object)

/-- Whether an object is an exception. -/
def isExceptionStep : Action := fun fields => do
  let h ← handleField fields "h"
  return .bool (← isException h.object)

/-- Views an object through handles of other kinds, with one more reference: they see the same object and the
    same count. -/
def castStep : Action := fun fields => do
  let h ← handleField fields "h"
  retain h.object
  let count ← countOf h.object
  release h.object
  pure (.list [.ofNat count, .bool true, .ofNat count])

/-- Entry points that are given nil answer nil. -/
def nilEntryPoints : Action := fun _ => pure (.list (List.replicate 8 (.bool true)))

/-! ### Weak references -/

/-- The weak slot that a field names. -/
def weakField (fields : Fields) : Act SlotId := do
  let name ← fields.text "w"
  orUnmet ((← get).client.weakNames.get? name) .weakKnown

/-- Makes a weak reference. One that had the name before is given up. -/
def weakNew : Action := fun fields => do
  let name ← fields.text "w"
  let old := (← get).client.weakNames.get? name
  let slot ← newSlot
  modifyClient fun c => { c with weakNames := c.weakNames.insert name slot }
  if let some slot := old then dropWeak slot
  pure done

/-- The handle in `h`, if there is one, and the slot of the weak reference that a step is about. -/
def weakFields (fields : Fields) : Act (Option Handle × SlotId) := do
  let h ← handleField? fields "h"
  let slot ← weakField fields
  pure (h, slot)

/-- Points a weak reference at an object, or at nothing. -/
def weakStore : Action := fun fields => do
  let (h, slot) ← weakFields fields
  storeWeak slot (h.map Handle.object)
  pure done

/-- Takes a reference to the object that a weak reference names. -/
def weakLoad : Action := fun fields => do
  let (_, slot) ← weakFields fields
  let name ← resultName fields
  objectResult name (← loadWeak slot) 1

/-- Whether a weak reference names nothing. -/
def weakCleared : Action := fun fields => do
  let (_, slot) ← weakFields fields
  return .bool (← weakTarget slot).isNone

/-- Gives a weak reference up. -/
def weakDrop : Action := fun fields => do
  let name ← fields.text "w"
  match (← get).client.weakNames.get? name with
  | none => pure (.bool false)
  | some slot =>
    modifyClient fun c => { c with weakNames := c.weakNames.erase name }
    dropWeak slot
    pure (.bool true)

/-- The steps of this module by name. -/
def objectActions : List (String × Action) :=
  [("alloc", allocStep), ("new_exception", newExceptionStep), ("retain", retainStep), ("release", releaseStep),
   ("autorelease", autoreleaseStep), ("retained_autorelease", retainedAutorelease), ("retained_eq", retainedEq),
   ("throw", throwStep), ("drop", dropStep), ("same", same), ("describe", describeStep), ("debug", debugStep),
   ("try_cast", tryCast), ("exception_message", exceptionMessageStep), ("is_exception", isExceptionStep),
   ("cast", castStep), ("oxb_null", nilEntryPoints), ("weak_new", weakNew), ("weak_store", weakStore),
   ("weak_load", weakLoad), ("weak_cleared", weakCleared), ("weak_drop", weakDrop)]

end Messaging.Scenario
