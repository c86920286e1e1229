import Messaging.Builtin.Routines

/-! Symbols: class tokens and selectors that are resolved before they are used. The token of a class that
    does not exist is null; using a null token is a mistake of the caller and panics. -/

namespace Messaging

/-- Resolves a class name to its token. Everything built in is installed first. -/
def resolveClass (name : String) : Exec (Option ClassId) := do
  install
  match (← get).classes.named? name with
  | some c =>
    log .symbols .debug s!"resolved class {name}"
    pure (some c.id)
  | none =>
    log .symbols .warn s!"class {name} is not registered, token is null"
    pure none

/-- Panics about a null token. -/
def unresolved {α : Type} (what : String) : Exec α := do
  let text := what ++ " through an unresolved class token"
  log .symbols .error text
  panicWith text

/-- The class of a token. -/
def tokenClass : Option ClassId → Exec ClassId
  | some id => pure id
  | none => unresolved "class token used"

/-- The class of a token that a message is sent to. -/
def tokenClassFor (token : Option ClassId) (s : Selector) : Exec ClassId :=
  match token with
  | some id => pure id
  | none => unresolved s!"`{s.name}` sent"

/-- The text that shows a token. -/
def tokenText (classes : ClassTable) : Option ClassId → String
  | some id => "ClassToken(" ++ classes.name id ++ ")"
  | none => "ClassToken(NULL)"

/-! ### Tables -/

/-- The text that shows a table. -/
def SymbolTable.text (classes : ClassTable) (t : SymbolTable) : String :=
  let entries := t.classes.map (fun e => e.1 ++ ": " ++ tokenText classes e.2) ++ t.selectors.map fun e => e.1 ++ ": " ++ e.2.text
  t.title ++ " \x7b " ++ ", ".intercalate entries ++ " \x7d"

/-- The token in a table under a given name. -/
def SymbolTable.token (t : SymbolTable) (name : String) : Option ClassId := (t.classes.lookup name).join

/-- The names that a table resolves, each with the name it has there. -/
structure SymbolList where
  title : String
  classes : List (String × String)
  selectors : List (String × String)

/-- Resolves the names of a list: the classes, then the selectors. -/
def SymbolList.resolve (l : SymbolList) : Exec SymbolTable := do
  let classes ← l.classes.mapM fun (field, name) => return (field, ← resolveClass name)
  let selectors ← l.selectors.mapM fun (field, name) => return (field, ← intern name)
  let missing := classes.countP fun e => e.2.isNone
  if missing = 0 then log .symbols .debug s!"symbol table {l.title} resolved"
  else log .symbols .warn s!"symbol table {l.title} resolved with {missing} null class token(s)"
  pure ⟨l.title, classes, selectors⟩

/-- The table of a list, which is resolved when it is first asked for. -/
def SymbolList.table (l : SymbolList) : Exec SymbolTable := do
  match (← get).setup.symbols.get? l.title with
  | some t => pure t
  | none =>
    let t ← l.resolve
    modify fun s => { s with setup := { s.setup with symbols := s.setup.symbols.insert l.title t } }
    pure t

/-- What the calls on built-in classes use. -/
def baseSymbolList : SymbolList where
  title := "BaseSymbols"
  classes :=
    [("object", "OxObject"), ("string", "OxString"), ("number", "OxNumber"), ("exception", "OxException"),
     ("port", "OxPort"), ("port_delegate_adapter", "OxPortDelegateAdapter")]
  selectors :=
    [("alloc", "alloc"), ("new", "new"), ("init", "init"), ("class", "class"), ("hash", "hash"),
     ("is_equal", "isEqual:"), ("description", "description"), ("responds_to_selector", "respondsToSelector:"),
     ("is_kind_of_class", "isKindOfClass:"), ("string_with_str", "stringWithStr:"), ("init_with_str", "initWithStr:"),
     ("length", "length"), ("str_ref", "strRef"), ("copy", "copy"), ("is_equal_to_string", "isEqualToString:"),
     ("number_with_integer", "numberWithInteger:"), ("init_with_integer", "initWithInteger:"),
     ("integer_value", "integerValue"), ("exception_with_name_reason", "exceptionWithName:reason:"),
     ("init_with_name_reason", "initWithName:reason:"), ("name", "name"), ("reason", "reason"),
     ("call_stack", "callStack"), ("raise", "raise"), ("port_factory", "port"), ("delegate", "delegate"),
     ("set_delegate", "setDelegate:"), ("timeout", "timeout"), ("set_timeout", "setTimeout:"),
     ("post_mach_message", "postMachMessage:"), ("post_port_message", "postPortMessage:"),
     ("init_with_callbacks", "initWithCallbacks:"), ("callbacks", "callbacks"),
     ("handle_mach_message", "handleMachMessage:"), ("handle_port_message", "handlePortMessage:")]

/-- The symbols of the built-in classes. -/
def baseSymbols : Exec SymbolTable := baseSymbolList.table

/-- The token of a built-in class. -/
def baseToken (field : String) : Exec (Option ClassId) := return (← baseSymbols).token field

/-- A selector for calls on built-in classes. -/
def baseSelector (name : String) : Exec Selector := do
  let _ ← baseSymbols
  intern name

/-- Resolves the symbols of the built-in classes ahead of their use. -/
def preload : Exec Unit := do
  let table ← baseSymbols
  log .symbols .debug ("preloaded base symbols: " ++ table.text (← get).classes)

end Messaging
