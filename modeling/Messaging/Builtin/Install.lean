import Messaging.Lifetime

/-! Installing the built-in classes. A name that is taken stops the installation with a panic; what was
    registered until then stays. -/

namespace Messaging

/-- A registration that may be refused. -/
abbrev Registering (α : Type) : Type := ExceptT RegistrationError Exec α

/-- Creates a class. -/
def createClass (name : String) (superclass : Option ClassId) : Exec (Except RegistrationError ClassId) := do
  let s ← get
  match s.classes.create name superclass with
  | .error cause => pure (.error cause)
  | .ok (id, classes) =>
    set { s with classes }
    pure (.ok id)

/-- Creates a protocol. -/
def createProtocol (name : String) : Exec (Except RegistrationError ProtocolId) := do
  let s ← get
  match s.protocols.create name with
  | .error cause => pure (.error cause)
  | .ok (id, protocols) =>
    set { s with protocols }
    pure (.ok id)

/-- Adds a required selector to a protocol. -/
def require (id : ProtocolId) (selector : Selector) : Exec Unit :=
  modify fun s => { s with protocols := s.protocols.require id selector }

/-- Adds a method to a class and returns the one it replaces. -/
def insertMethod (id : ClassId) (kind : MethodKind) (m : Method) : Exec (Option Method) :=
  modifyGet fun s =>
    let (replaced, classes) := s.classes.insert id kind m
    (replaced, { s with classes })

/-- Has a class adopt a protocol. -/
def adoptProtocol (id : ClassId) (p : ProtocolId) : Exec (Except RegistrationError Unit) :=
  modifyGet fun s =>
    match s.protocols.get? p with
    | none => (.ok (), s)
    | some protocol =>
      let (result, classes) := s.classes.adopt id protocol
      (result, { s with classes })

/-- A method as it is written down: its side, name, code and types, and its ownership where the name does
    not tell it. -/
structure MethodSpec where
  kind : MethodKind
  name : String
  routine : Routine
  types : String
  ownership : Option Ownership

/-- Adds a method to a class. -/
def defineMethod (id : ClassId) (spec : MethodSpec) : Registering Unit := do
  let selector ← intern spec.name
  let m ← ExceptT.mk (pure (Method.read selector spec.routine spec.types))
  let _ ← insertMethod id spec.kind (match spec.ownership with
    | some ownership => m.returning ownership
    | none => m)

/-- Creates a class with methods. -/
def defineClass (name : String) (superclass : Option ClassId) (methods : List MethodSpec) : Registering ClassId := do
  let id ← ExceptT.mk (createClass name superclass)
  methods.forM (defineMethod id)
  pure id

/-- An instance method of a built-in class. -/
def instanceSpec (name : String) (r : BuiltinRoutine) (types : String) : MethodSpec :=
  ⟨.ofInstances, name, .builtin r, types, none⟩

/-- A class method of a built-in class. -/
def classSpec (name : String) (r : BuiltinRoutine) (types : String) : MethodSpec := ⟨.ofClass, name, .builtin r, types, none⟩

/-- The methods of the root class. -/
def objectMethods : List MethodSpec :=
  [classSpec "alloc" .alloc "@#:", classSpec "new" .new "@#:", instanceSpec "init" .init "@@:",
   { instanceSpec "retain" .retain "@@:" with ownership := some .retained },
   instanceSpec "release" .release "v@:", instanceSpec "autorelease" .autorelease "@@:",
   instanceSpec "retainCount" .retainCount "Q@:", instanceSpec "class" .cls "#@:",
   instanceSpec "description" .description "@@:", instanceSpec "respondsToSelector:" .respondsTo "B@::",
   instanceSpec "isKindOfClass:" .isKindOf "B@:#", instanceSpec "hash" .identityHash "Q@:",
   instanceSpec "isEqual:" .isIdentical "B@:@"]

/-- The methods of strings. -/
def stringMethods : List MethodSpec :=
  [classSpec "stringWithStr:" .textWith "@#:\x7bStrRef\x7d", instanceSpec "initWithStr:" .textInit "@@:\x7bStrRef\x7d",
   instanceSpec "length" .textLength "Q@:", instanceSpec "copy" .textCopy "@@:",
   instanceSpec "strRef" .textContents "\x7bStrRef\x7d@:", instanceSpec "isEqualToString:" .textIsEqual "B@:@",
   instanceSpec "isEqual:" .textIsEqual "B@:@", instanceSpec "hash" .textHash "Q@:",
   instanceSpec "description" .textDescription "@@:"]

/-- The methods of numbers. -/
def numberMethods : List MethodSpec :=
  [classSpec "numberWithInteger:" .numberWith "@#:q", instanceSpec "initWithInteger:" .numberInit "@@:q",
   instanceSpec "integerValue" .numberValue "q@:", instanceSpec "description" .numberDescription "@@:"]

/-- The methods of exceptions. -/
def exceptionMethods : List MethodSpec :=
  [classSpec "exceptionWithName:reason:" .exceptionWith "@#:@@",
   instanceSpec "initWithName:reason:" .exceptionInit "@@:@@", instanceSpec "name" .exceptionName "@@:",
   instanceSpec "reason" .exceptionReason "@@:", instanceSpec "callStack" .exceptionCallStack "@@:",
   instanceSpec "raise" .exceptionRaise "v@:", instanceSpec "description" .exceptionDescription "@@:"]

/-- The methods of ports. -/
def portMethods : List MethodSpec :=
  [classSpec "port" .portWith "@#:", instanceSpec "init" .portInit "@@:", instanceSpec "delegate" .portDelegate "@@:",
   instanceSpec "setDelegate:" .portSetDelegate "v@:@", instanceSpec "timeout" .portTimeout "d@:",
   instanceSpec "setTimeout:" .portSetTimeout "v@:d", instanceSpec "postMachMessage:" .portPostMachMessage "v@:^",
   instanceSpec "postPortMessage:" .portPostPortMessage "v@:@"]

/-- The events that a port delivers to its delegate. -/
def delegateSelectors : List String := ["handleMachMessage:", "handlePortMessage:"]

/-- Registers the built-in classes and the protocol of port delegates. -/
def registerBuiltins : Registering Builtins := do
  let object ← defineClass "OxObject" none objectMethods
  let string ← defineClass "OxString" (some object) stringMethods
  let number ← defineClass "OxNumber" (some object) numberMethods
  let exception ← defineClass "OxException" (some object) exceptionMethods
  let portDelegate ← ExceptT.mk (createProtocol "OxPortDelegate")
  delegateSelectors.forM fun name => do
    let selector ← intern name
    require portDelegate selector
  let port ← defineClass "OxPort" (some object) portMethods
  log .builtins .debug "installed builtin runtime classes"
  pure ⟨object, string, number, exception, port, portDelegate⟩

/-- The built-in classes, which are installed when they are first asked for. -/
def builtins : Exec Builtins := do
  match (← get).setup.builtins with
  | some found => pure found
  | none =>
    match ← registerBuiltins.run with
    | .ok made =>
      modify fun s => { s with setup := { s.setup with builtins := some made } }
      pure made
    | .error cause =>
      let text := "failed to install builtin classes: " ++ cause.message
      log .builtins .error text
      panicWith text

/-- Applies the log directives of the environment, the first time. Directives that cannot be read are
    reported whatever the filter says, and ignored. -/
def readEnvironment : Exec Unit := do
  let s ← get
  if !s.setup.environmentRead then
    set { s with setup := { s.setup with environmentRead := true } }
    match s.setup.environment with
    | none => pure ()
    | some spec =>
      match s.journal.logger.setDirectives spec with
      | .ok logger => modify fun s => { s with journal := { s.journal with logger } }
      | .error cause =>
        let text := "ignoring OXIDEX_LOG: " ++ cause.message
        modify fun s => { s with journal := s.journal.write .warn Log.Origin.configuration.path text }

/-- The name of the adapter class. -/
def adapterName : String := "OxPortDelegateAdapter"

/-- The methods of adapters. -/
def adapterMethods : List MethodSpec :=
  [instanceSpec "initWithCallbacks:" .adapterInit "@@:\x7bOxCallbackTable\x7d",
   instanceSpec "callbacks" .adapterCallbacks "\x7bOxCallbackTable\x7d@:",
   instanceSpec "handleMachMessage:" .adapterMachMessage "v@:^",
   instanceSpec "handlePortMessage:" .adapterPortMessage "v@:@"]

/-- Registers the adapter class. -/
def registerAdapter : Registering ClassId := do
  let known ← builtins
  let id ← defineClass adapterName (some known.object) adapterMethods
  ExceptT.mk (adoptProtocol id known.portDelegate)
  log .adapter .debug ("installed " ++ adapterName)
  pure id

/-- The adapter class, which is installed when it is first asked for. -/
def adapterClass : Exec ClassId := do
  match (← get).setup.adapter with
  | some found => pure found
  | none =>
    match ← registerAdapter.run with
    | .ok made =>
      modify fun s => { s with setup := { s.setup with adapter := some made } }
      pure made
    | .error cause =>
      let text := "failed to install " ++ adapterName ++ ": " ++ cause.message
      log .adapter .error text
      panicWith text

/-- Installs everything that is built in. -/
def install : Exec Unit := do
  readEnvironment
  let _ ← builtins
  let _ ← adapterClass

end Messaging
