import Messaging.Refusal
import Messaging.Unwind

/-! Handles: names that a scenario gives to objects. A name owns some references to its object and sees
    whether the object still lives. -/

namespace Messaging.Scenario

/-- A computation that may be refused. -/
abbrev Act (α : Type) : Type := ExceptT Refusal Exec α

instance : MonadLift (Except BadField) (ExceptT Refusal Exec) := ⟨fun r => ExceptT.mk (pure (r.mapError .badField))⟩
instance : MonadLift (Except RegistrationError) (ExceptT Refusal Exec) :=
  ⟨fun r => ExceptT.mk (pure (r.mapError .registration))⟩
instance : MonadLift (Except Log.SpecError) (ExceptT Refusal Exec) := ⟨fun r => ExceptT.mk (pure (r.mapError .log))⟩

/-- Refuses a step whose precondition does not hold. -/
def unmet {α : Type} (p : Precondition) : Act α := throw (.unmet p)

/-- Refuses a step because of a field. -/
def badField {α : Type} (field : String) : Act α := throw (.badField ⟨field⟩)

/-- The value, or a refusal. -/
def orUnmet {α : Type} (value : Option α) (p : Precondition) : Act α :=
  match value with
  | some a => pure a
  | none => unmet p

/-- The result of a registration. -/
def registered {α : Type} (x : Exec (Except RegistrationError α)) : Act α := do
  match ← x with
  | .ok a => pure a
  | .error cause => throw (.registration cause)

/-- The names of the live handles on an object, in order. -/
def namesOf (s : Machine) (a : Address) : List String :=
  s.client.handles.filterMap fun (name, h) =>
    if h.object = a ∧ s.memory.weak.target? h.slot = some a then some name else none

/-- The handle with a given name. -/
def handleNamed (name : String) : Act Handle := do orUnmet ((← get).client.handle? name) .handleBound

/-- The handle with a given name, whose object must live. -/
def liveHandle (name : String) : Act Handle := do
  let h ← handleNamed name
  if (← weakTarget h.slot).isNone then unmet .objectAlive
  pure h

/-- The handle that a field names. -/
def handleField (fields : Fields) (field : String) : Act Handle := do liveHandle (← fields.text field)

/-- The handle that a field names, if the field is there. -/
def handleField? (fields : Fields) (field : String) : Act (Option Handle) := do
  match ← fields.text? field with
  | none => pure none
  | some name => return some (← liveHandle name)

/-- Changes how many references a name owns. -/
def adjustOwned (name : String) (change : Nat → Nat) : Exec Unit :=
  modifyClient fun c =>
    match c.handle? name with
    | some h => c.bind name { h with owned := change h.owned }
    | none => c

/-- Gives up what a handle holds. -/
def dropHandle (h : Handle) : Exec Unit := do
  dropWeak h.slot
  (List.replicate h.owned h.object).forM release

/-- Binds a name to an object with `owned` references. A live handle on the same object takes them over;
    any other is replaced, and then given up. -/
def bindHandle (name : String) (a : Address) (owned : Nat) : Exec Unit := do
  let s ← get
  let old := s.client.handle? name
  match old.filter fun h => h.object = a ∧ s.memory.weak.target? h.slot = some a with
  | some _ => adjustOwned name (· + owned)
  | none =>
    let slot ← newSlot
    storeWeak slot (some a)
    modifyClient fun c => c.bind name ⟨a, owned, slot⟩
    if let some h := old then dropHandle h

/-- Removes a name. The result says whether there was one. -/
def unbindHandle (name : String) : Exec Bool := do
  match (← get).client.handle? name with
  | none => pure false
  | some h =>
    modifyClient fun c => c.unbind name
    dropHandle h
    pure true

/-- Binds an object to a name, or gives its owned references up if there is no name. -/
def settle (name : Option String) (a : Address) (owned : Nat) : Exec Unit :=
  match name with
  | some name => bindHandle name a owned
  | none => (List.replicate owned a).forM release

/-! ### Descriptions -/

/-- What can be seen of an object: its class, the handles on it and its payload. -/
def describeFields (a : Address) : Exec Fields := do
  let o ← objectAt a
  let s ← get
  let shown := match o.payload with
    | some (.text contents) => [("text", .text contents)]
    | some (.number n) => [("int", .numeral n.toInt)]
    | some (.exception name reason) => [("exc", Datum.ofTexts [name, reason])]
    | _ => []
  pure (("class", .text (s.classes.name o.cls)) :: ("is", .ofTexts (namesOf s a)) :: shown)

/-- The description of an object. -/
def describe (a : Address) : Exec Datum := return .record (← describeFields a)

/-- The description of a result that may be nil. It is bound after it was described. -/
def objectResult (name : Option String) (a : Option Address) (owned : Nat) : Exec Datum := do
  match a with
  | none => pure .null
  | some a =>
    let d ← describe a
    settle name a owned
    pure d

/-- The description of a thrown object, of which the scenario now owns one reference. -/
def raised (name : Option String) (a : Address) : Exec Datum := do
  let shown ← describeFields a
  let isExc ← isException a
  let message ← exceptionMessage a
  let count ← countOf a
  settle name a 1
  pure (.record [("raised", .record (shown ++ [("is_exception", .bool isExc), ("message", .ofText? message), ("rc", .ofNat count)]))])

/-! ### Events -/

/-- The least number that is not shown as an event. -/
def shownBound : Nat := 0x1000000000

/-- How an event or its receiver is shown: by its first handle, as a small number, or not at all. -/
def pointerText (s : Machine) : Value → String
  | .pointer n => if n.toNat < shownBound then toString n.toNat else "?"
  | v =>
    match v.object? with
    | none => "0"
    | some a => ((namesOf s a).head?.map ("@" ++ ·)).getD "?"

/-- Notes an event. -/
def noteEvent (what : String) (receiver event : Value) : Exec Unit := do
  let s ← get
  modifyClient fun c => { c with events := c.events ++ [[what, pointerText s receiver, pointerText s event]] }

end Messaging.Scenario
