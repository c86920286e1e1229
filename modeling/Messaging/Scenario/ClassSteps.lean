import Messaging.Scenario.Fixture
import Messaging.Scenario.Values
import Messaging.Text.Utf8

/-! The steps of a scenario about classes, methods, protocols, selectors and tokens. -/

namespace Messaging.Scenario

/-- What a step does: it reads its fields and answers, or is refused. -/
abbrev Action : Type := Fields → Act Datum

/-- The names along the superclass chain of a class. -/
def chainDatum (classes : ClassTable) (id : ClassId) : Datum := .ofTexts ((classes.chain id).map ClassEntry.name)

/-- The protocol that a field names. -/
def protocolField (fields : Fields) : Act Protocol := do
  let name ← fields.text "protocol"
  orUnmet ((← get).protocols.named? name) .protocolKnown

/-- Refuses to change what is built in, unless the scenario has it to itself. -/
def checkOpen (name : String) (builtin : List String) : Act Unit := do
  if !(← get).client.ownsBuiltins && builtin.contains name then unmet .classOpen

/-- The class that a field names, which the step will change. -/
def openClassField (fields : Fields) : Act ClassId := do
  let name ← fields.text "class"
  let id ← classNamed name
  checkOpen name builtinNames
  pure id

/-- The side of a class that a step is about. -/
def kindField (fields : Fields) : Act MethodKind := do
  match ← fields.text? "kind" with
  | none | some "instance" => pure .ofInstances
  | some "class" => pure .ofClass
  | some _ => badField "kind"

/-- Creates a class. -/
def newClass : Action := fun fields => do
  let name ← fields.text "name"
  let superclass ← match ← fields.text? "super" with
    | none => pure none
    | some above => do pure (some (← classNamed above))
  let id ← registered (createClass name superclass)
  return .record [("chain", chainDatum (← get).classes id)]

/-- Shows a class. -/
def classInfo : Action := fun fields => do
  let id ← classField fields "class"
  let s ← get
  let adopted := ((s.classes.get? id).map ClassEntry.protocols).getD []
  pure (.record [("chain", chainDatum s.classes id), ("debug", .text ("Class(" ++ Text.quoted (s.classes.name id) ++ ")")),
    ("protocols", .ofTexts (adopted.filterMap fun p => (s.protocols.get? p).map Protocol.name)), ("same", .bool true)])

/-- Whether one class is below another. -/
def isSubclass : Action := fun fields => do
  let a ← classField fields "a"
  let b ← classField fields "b"
  return .bool ((← get).classes.isSubclass a b)

/-! ### Methods -/

/-- A routine that a step can name: which signatures fit it, and whether it needs an object as its
    receiver. -/
structure SampleSpec where
  name : String
  routine : SampleRoutine
  fits : Selector → Signature → Bool
  ofInstances : Bool

/-- Whether all arguments are integers, one for each colon of the selector. -/
def takesIntegers (s : Selector) (g : Signature) : Bool := g.args.all (· == .long) && g.arity == s.arity

/-- Whether the first argument has a type. -/
def takesFirst (type : TypeCode) (g : Signature) : Bool := g.args.head? == some type

/-- Whether there is one argument, an object or a pointer. -/
def takesEvent (g : Signature) : Bool := g.args == [.object] || g.args == [.pointer]

/-- Whether values of a type can be handed through. -/
def isKnown : TypeCode → Bool
  | .record name => ["StrRef", "OxPoint", "OxCallbackTable"].contains name
  | _ => true

/-- The routines that a step can name. -/
def sampleSpecs : List SampleSpec :=
  [⟨"noop", .noop, fun _ g => g.ret == .void, false⟩,
   ⟨"one", .one, fun _ g => g.ret == .long, false⟩,
   ⟨"two", .two, fun _ g => g.ret == .long, false⟩,
   ⟨"sum", .sum, fun s g => g.ret == .long && takesIntegers s g, false⟩,
   ⟨"pack", .pack, fun s g => g.ret == .void && takesIntegers s g, true⟩,
   ⟨"init_sum", .initSum, fun s g => g.ret == .object && takesIntegers s g, true⟩,
   ⟨"init_nil", .initNil, fun _ g => g.ret == .object, true⟩,
   ⟨"init_replace", .initReplace, fun _ g => g.ret == .object, true⟩,
   ⟨"value", .value, fun _ g => g.ret == .long, true⟩,
   ⟨"set_value", .setValue, fun _ g => g.ret == .void && takesFirst .long g, true⟩,
   ⟨"make_child", .makeChild, fun _ g => g.ret == .object, true⟩,
   ⟨"new_child", .newChild, fun _ g => g.ret == .object, true⟩,
   ⟨"nil", .nothing, fun _ g => [.object, .cls, .selector, .pointer].contains g.ret, false⟩,
   ⟨"self", .itself, fun _ g => g.ret == .object, true⟩,
   ⟨"cmd_name", .commandName, fun _ g => g.ret == .object, false⟩,
   ⟨"fail", .fail, fun _ g => takesFirst .object g, false⟩,
   ⟨"throw_arg", .throwArgument, fun _ g => takesFirst .object g, false⟩,
   ⟨"panic", .panic, fun _ _ => true, false⟩,
   ⟨"on_event", .onEvent, fun _ g => g.ret == .void && takesEvent g, true⟩,
   ⟨"on_event_raise", .onEventRaise, fun _ g => g.ret == .void && takesEvent g, true⟩,
   ⟨"echo", .echo, fun _ g => takesFirst g.ret g && isKnown g.ret, false⟩]

/-- Whether a method would give away a reference that it has not, or keep one that it should give up. -/
def isUnsafe (r : SampleRoutine) (m : Method) : Bool :=
  let initializes := m.selector.family? == some .init
  let consumes := [SampleRoutine.initNil, .initReplace].contains r
  let borrows := [SampleRoutine.initSum, .makeChild, .itself, .commandName, .echo].contains r
  let handsOn := [SampleRoutine.initSum, .itself].contains r
  (consumes && !initializes) ||
    (m.signature.ret == .object && borrows && (m.ownership == .retained || initializes) && !(initializes && handsOn))

/-- Adds a method to a class. -/
def addMethod : Action := fun fields => do
  let id ← openClassField fields
  let kind ← kindField fields
  let selector ← selectorField fields
  let imp ← fields.text "imp"
  let spec ← match sampleSpecs.find? fun spec => spec.name == imp with
    | some spec => pure spec
    | none => badField "imp"
  let types ← fields.text "types"
  let m ← Method.read selector (.sample spec.routine) types
  let m ← match ← fields.text? "returning" with
    | none => pure m
    | some keyword => do pure (m.returning (← need (Ownership.ofKeyword? keyword) "ownership"))
  if !spec.fits selector m.signature || (spec.ofInstances && kind == .ofClass) then unmet .implementationFits
  if isUnsafe spec.routine m then unmet .ownershipSafe
  let replaced ← insertMethod id kind m
  pure (.record [("added", methodDatum (some m)), ("replaced", methodDatum replaced)])

/-- Looks a method up by class. -/
def lookupStep : Action := fun fields => do
  let id ← classField fields "class"
  let kind ← kindField fields
  let selector ← selectorField fields
  let m ← lookupMethod id kind selector
  let responds ← lookupMethod id .ofInstances selector
  pure (.record [("method", methodDatum m), ("responds", .bool responds.isSome), ("debug", .ofText? (m.map Method.text))])

/-- Looks a method up by receiver. -/
def receiverLookup : Action := fun fields => do
  let r ← receiverField fields
  let selector ← selectorField fields
  let m ← r.lookup selector
  pure (methodDatum m)

/-! ### Protocols -/

/-- Creates a protocol. -/
def newProtocol : Action := fun fields => do
  let name ← fields.text "protocol"
  let _ ← registered (createProtocol name)
  pure (.text name)

/-- Adds a required selector. -/
def requireSelector : Action := fun fields => do
  let p ← protocolField fields
  checkOpen p.name ["OxPortDelegate"]
  let selector ← selectorField fields
  require p.id selector
  pure done

/-- Shows a protocol. -/
def protocolInfo : Action := fun fields => do
  let p ← protocolField fields
  pure (.record [("required", .ofTexts (p.required.map Selector.name)), ("debug", .text p.text)])

/-- Has a class adopt a protocol. -/
def adopt : Action := fun fields => do
  let id ← openClassField fields
  let p ← protocolField fields
  registered (adoptProtocol id p.id)
  pure done

/-- Whether a class conforms to a protocol. -/
def conforms : Action := fun fields => do
  let id ← classField fields "class"
  let p ← protocolField fields
  return .bool ((← get).classes.conforms id p.id)

/-! ### Selectors and tokens -/

/-- Whether a name is interned. -/
def selectorLookup : Action := fun fields => do
  let name ← fields.text "sel"
  return .ofText? (((← get).selectors.lookup? name).map Selector.name)

/-- Interns a name. -/
def selectorRegister : Action := fun fields => do
  let selector ← selectorField fields
  let again ← intern selector.name
  pure (.record [("name", .text selector.name), ("arity", .ofNat selector.arity), ("same", .bool (decide (again = selector)))])

/-- Resolves a class to its token. -/
def token : Action := fun fields => do
  let t ← resolveClass (← fields.text "class")
  let same : Datum := match t with
    | some _ => .bool true
    | none => .null
  return .record [("null", .bool t.isNone), ("debug", .text (tokenText (← get).classes t)), ("eq_null", .bool (t == none)),
    ("default", .bool true), ("from", same)]

/-- The class of a token, which must not be null. -/
def tokenClassStep : Action := fun fields => do
  let id ← tokenClass (← resolveClass (← fields.text "class"))
  return .text (← className id)

/-- Reads one byte. -/
def readByte (d : Datum) : Except BadField UInt8 := return UInt8.ofNat (← IntType.uint8.read d).toNat

/-- The bytes of a name as they are passed by pointer: to the first zero, or none for a null pointer. -/
def nameBytes (fields : Fields) : Act (Option (List UInt8)) := do
  let bytes ← match ← fields.text? "name" with
    | some name => pure (some name.toUTF8.toList)
    | none =>
      match fields.get? "bytes" with
      | none => pure none
      | some d => do
        let items ← need d.items? "bytes"
        let bytes ← (items.mapM readByte : Except BadField (List UInt8))
        pure (some bytes)
  pure (bytes.map fun b => b.takeWhile (· != 0))

/-- The name that bytes spell, if they spell any. -/
def nameOfBytes (bytes : Option (List UInt8)) : Exec (Option String) := do
  match bytes with
  | none =>
    log .entryPoints .warn "null name passed to the bridge"
    pure none
  | some bytes =>
    match Text.decode bytes with
    | .ok name => pure (some name)
    | .error fault =>
      log .entryPoints .warn ("non UTF-8 name passed to the bridge: " ++ fault.message)
      pure none

/-- Resolves a class whose name is passed by pointer. -/
def resolveClassByBytes : Action := fun fields => do
  match ← nameOfBytes (← nameBytes fields) with
  | none => pure .null
  | some name =>
    match ← (confined (resolveClass name) : Exec (Option ClassId)) with
    | none => pure .null
    | some id => return .text (← className id)

/-- Resolves a selector whose name is passed by pointer. -/
def resolveSelectorByBytes : Action := fun fields => do
  match ← nameOfBytes (← nameBytes fields) with
  | none => pure .null
  | some name => return .text (← intern name).name

/-- Shows the symbols of the sample class. -/
def fixtureSymbols : Action := fun _ => do
  let t ← fixtureSymbolList.table
  return .text (t.text (← get).classes)

/-- The steps of this module by name. -/
def classActions : List (String × Action) :=
  [("class_new", newClass), ("class_info", classInfo), ("is_subclass", isSubclass), ("add_method", addMethod),
   ("lookup", lookupStep), ("receiver_lookup", receiverLookup), ("protocol_new", newProtocol),
   ("protocol_require", requireSelector), ("protocol_info", protocolInfo), ("adopt", adopt), ("conforms", conforms),
   ("sel_lookup", selectorLookup), ("sel_register", selectorRegister), ("token", token), ("token_class", tokenClassStep),
   ("oxb_resolve_class", resolveClassByBytes), ("oxb_resolve_selector", resolveSelectorByBytes),
   ("fixture_symbols", fixtureSymbols)]

end Messaging.Scenario
