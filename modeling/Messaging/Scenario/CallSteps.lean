import Messaging.Scenario.SendSteps

/-! The declared calls that a scenario can make by name: for each its receiver, its selector, the arguments it
    takes and what it makes of the result. -/

namespace Messaging.Scenario

/-- Whom a declared call is made on. -/
inductive CallTarget
  | object | base (field : String) | fixture | ghost

/-- An argument of a declared call. Only `nullable` objects may be nil; a point is given as two numbers. -/
inductive CallArgument
  | plain (type : TypeCode)
  | handle (nullable : Bool)
  | point

/-- What a declared call does with its message and its result. -/
inductive CallForm
  | value (ret : TypeCode)
  | isEmpty
  | chained (getter : String) (ret : TypeCode)
  | write (answer : String)
  | retained
  | borrowed
  | borrowedText
  | allocated
  | allocatedSurely (otherwise : String)
  | cast

/-- A declared call. -/
structure CallSpec where
  name : String
  target : CallTarget
  selector : String
  args : List CallArgument
  form : CallForm
  guarded : Bool

/-- The declared calls on the built-in classes. -/
def builtinCalls : List CallSpec :=
  let text : CallArgument := .plain Value.textCode
  let int : CallArgument := .plain .long
  let object : CallArgument := .handle false
  [⟨"Object.new", .base "object", "new", [], .retained, false⟩,
   ⟨"Object.class", .object, "class", [], .value .cls, false⟩,
   ⟨"Object.hash", .object, "hash", [], .value .ulong, false⟩,
   ⟨"Object.is_equal", .object, "isEqual:", [.handle true], .value .bool, false⟩,
   ⟨"Object.responds_to_selector", .object, "respondsToSelector:", [.plain .selector], .value .bool, false⟩,
   ⟨"Object.is_kind_of_class", .object, "isKindOfClass:", [.plain .cls], .value .bool, false⟩,
   ⟨"Object.description", .object, "description", [], .borrowedText, false⟩,
   ⟨"String.with_str", .base "string", "stringWithStr:", [text], .borrowedText, false⟩,
   ⟨"String.with_str_retained", .base "string", "stringWithStr:", [text], .retained, false⟩,
   ⟨"String.init_with_str", .base "string", "initWithStr:", [text], .allocated, false⟩,
   ⟨"string", .base "string", "initWithStr:", [text],
    .allocatedSurely "internal error: entered unreachable code: OxString initializer never returns nil", false⟩,
   ⟨"String.length", .object, "length", [], .value .ulong, false⟩,
   ⟨"String.as_str", .object, "strRef", [], .value Value.textCode, false⟩,
   ⟨"String.is_empty", .object, "length", [], .isEmpty, false⟩,
   ⟨"String.copy", .object, "copy", [], .retained, false⟩,
   ⟨"String.is_equal_to_string", .object, "isEqualToString:", [object], .value .bool, false⟩,
   ⟨"Number.with_integer", .base "number", "numberWithInteger:", [int], .borrowed, false⟩,
   ⟨"Number.new_integer", .base "number", "initWithInteger:", [int], .allocated, false⟩,
   ⟨"Number.integer_value", .object, "integerValue", [], .value .long, false⟩,
   ⟨"Exception.with_name_reason", .base "exception", "exceptionWithName:reason:", [object, object], .borrowed, false⟩,
   ⟨"Exception.init_with_name_reason", .base "exception", "initWithName:reason:", [object, object], .allocated, false⟩,
   ⟨"Exception.name", .object, "name", [], .borrowedText, false⟩,
   ⟨"Exception.reason", .object, "reason", [], .borrowedText, false⟩,
   ⟨"Exception.call_stack", .object, "callStack", [], .borrowedText, false⟩,
   ⟨"Exception.raise", .object, "raise", [], .write "returned", false⟩,
   ⟨"Exception.try_raise", .object, "raise", [], .write "returned", true⟩,
   ⟨"Port.port", .base "port", "port", [], .borrowed, false⟩,
   ⟨"Port.init", .base "port", "init", [], .allocated, false⟩,
   ⟨"Port.delegate", .object, "delegate", [], .borrowed, false⟩,
   ⟨"Port.set_delegate", .object, "setDelegate:", [.handle true], .write "ok", false⟩,
   ⟨"Port.timeout", .object, "timeout", [], .value .double, false⟩,
   ⟨"Port.set_timeout", .object, "setTimeout:", [.plain .double], .chained "timeout" .double, false⟩,
   ⟨"Port.post_mach_message", .object, "postMachMessage:", [.plain .pointer], .write "ok", false⟩,
   ⟨"Port.post_port_message", .object, "postPortMessage:", [object], .write "ok", false⟩,
   ⟨"PortDelegate.callbacks", .object, "callbacks", [], .value Value.callbacksCode, false⟩,
   ⟨"PortDelegate.handle_mach_message", .object, "handleMachMessage:", [.plain .pointer], .write "ok", false⟩,
   ⟨"PortDelegate.handle_port_message", .object, "handlePortMessage:", [object], .write "ok", false⟩]

/-- The declared calls on the sample class, and on a class that does not exist. -/
def fixtureCalls : List CallSpec :=
  let int : CallArgument := .plain .long
  let short : CallArgument := .plain (.integer .int32)
  let double : CallArgument := .plain .double
  let three := List.replicate 3 int
  let four := List.replicate 4 int
  [⟨"Fixture.with_value", .fixture, "fixtureWithValue:", [int], .borrowed, false⟩,
   ⟨"Fixture.with_value_retained", .fixture, "fixtureWithValue:", [int], .retained, false⟩,
   ⟨"Fixture.with_value_guarded", .fixture, "fixtureWithValue:", [int], .borrowed, true⟩,
   ⟨"Fixture.with_value_mistyped", .fixture, "fixtureWithValue:", [short], .retained, true⟩,
   ⟨"Fixture.sum_class", .fixture, "sumA:b:c:d:", four, .value .long, false⟩,
   ⟨"Fixture.sum_class_guarded", .fixture, "sumA:b:c:d:", four, .value .long, true⟩,
   ⟨"Fixture.sum_class_wrong_ret", .fixture, "sumA:b:c:d:", four, .value .ulong, true⟩,
   ⟨"Fixture.init_abc", .fixture, "initWithA:b:c:", three, .allocated, false⟩,
   ⟨"Fixture.init_abcd", .fixture, "initWithA:b:c:d:", four, .allocated, false⟩,
   ⟨"Fixture.init_failing", .fixture, "initFailing", [], .allocated, true⟩,
   ⟨"Fixture.init_missing", .fixture, "fixtureWithValue:", [int], .allocated, true⟩,
   ⟨"Fixture.sum3", .object, "sumA:b:c:", three, .value .long, false⟩,
   ⟨"Fixture.sum4", .object, "sumA:b:c:d:", four, .value .long, false⟩,
   ⟨"Fixture.mix", .object, "mix:flag:count:ratio:", [short, .plain .bool, int, double], .value .double, false⟩,
   ⟨"Fixture.offset", .object, "offset:dx:dy:", [.point, double, double], .value Value.pointCode, false⟩,
   ⟨"Fixture.value", .object, "value", [], .value .long, false⟩,
   ⟨"Fixture.set_value", .object, "setValue:", [int], .chained "value" .long, false⟩,
   ⟨"Fixture.store4", .object, "storeA:b:c:d:", four, .write "ok", false⟩,
   ⟨"Fixture.make_child", .object, "makeChild", [], .borrowed, false⟩,
   ⟨"Fixture.new_child", .object, "newChild", [], .retained, false⟩,
   ⟨"Fixture.make_child_retained", .object, "makeChild", [], .retained, false⟩,
   ⟨"Fixture.new_child_unretained", .object, "newChild", [], .borrowed, false⟩,
   ⟨"Fixture.new_child_guarded", .object, "newChild", [], .retained, true⟩,
   ⟨"Fixture.make_child_guarded", .object, "makeChild", [], .borrowed, true⟩,
   ⟨"Fixture.nothing_retained", .object, "nothing", [], .retained, false⟩,
   ⟨"Fixture.nothing", .object, "nothing", [], .borrowed, false⟩,
   ⟨"Fixture.nil_class", .object, "nilClass", [], .value .cls, false⟩,
   ⟨"Fixture.fail", .object, "fail:", [.handle false], .write "ok", true⟩,
   ⟨"Fixture.fail_after_storing", .object, "failAfterStoring:", [int], .write "ok", true⟩,
   ⟨"Fixture.sum3_mistyped", .object, "sumA:b:c:", [short], .value .long, true⟩,
   ⟨"Fixture.missing", .object, "fixtureWithValue:", [], .value .long, true⟩,
   ⟨"Ghost.make", .ghost, "new", [], .value .ulong, false⟩,
   ⟨"Ghost.make_guarded", .ghost, "new", [], .value .ulong, true⟩,
   ⟨"Ghost.init", .ghost, "initWithStr:", [.plain Value.textCode], .allocated, false⟩,
   ⟨"Ghost.try_cast", .object, "isKindOfClass:", [], .cast, false⟩]

/-- The call site of a declared call. -/
def CallTarget.site (t : CallTarget) (fields : Fields) : Act CallSite := do
  match t with
  | .object => return .object (← handleField fields "to").object
  | .base field => return .token (← baseToken field)
  | .fixture => return .token (← fixtureToken)
  | .ghost => return .token ((← fixtureSymbolList.table).token "ghost")

/-- Reads the arguments of a declared call. -/
def readCallArguments : List CallArgument → List Datum → Act (List Value)
  | [], _ => pure []
  | .plain type :: more, d :: rest => do
    let v ← readValue true type d
    return v :: (← readCallArguments more rest)
  | .handle nullable :: more, d :: rest => do
    let a ← readObject d
    if a.isNone && !nullable then badField "args"
    return .object a :: (← readCallArguments more rest)
  | .point :: more, x :: y :: rest => do
    let p ← readValue true Value.pointCode (.list [x, y])
    return p :: (← readCallArguments more rest)
  | _, _ => badField "args"

/-- What a borrowed string shows when it is read: its contents, and whether it is empty. -/
def seenText (a : Option Address) : Exec Datum := do
  match a with
  | none => pure .null
  | some a =>
    let contents ← readCall code a (← baseSelector "strRef") Value.textCode []
    let length ← readCall code a (← baseSelector "length") .ulong []
    pure (.list [.text contents.contents, .bool (length == .ulong 0)])

/-- An allocating call on a token. -/
def CallSite.allocate (site : CallSite) (s : Selector) (args : List Value) : Exec (Option Address) :=
  match site with
  | token t => allocInit code t s args
  | object _ => pure none

/-- How a declared call is made and answered. -/
def CallSpec.perform (spec : CallSpec) (fields : Fields) : Act Datum := do
  let site ← spec.target.site fields
  let args ← readCallArguments spec.args (← fields.itemsOrEmpty "args")
  let s ← intern spec.selector
  match spec.form with
  | .value ret =>
    answerCall fields spec.guarded (site.value s ret args) fun v => settleResult fields site (.value v)
  | .isEmpty =>
    answerCall fields spec.guarded (site.value s .ulong args) fun v => pure (.bool (v == .ulong 0))
  | .chained getter ret =>
    let get ← intern getter
    let call : Exec Value := do
      let _ ← site.value s .void args
      site.value get ret []
    answerCall fields spec.guarded call fun v => settleResult fields site (.value v)
  | .write answer => answerCall fields spec.guarded (site.value s .void args) fun _ => pure (.text answer)
  | .retained =>
    answerCall fields spec.guarded (site.handle s args .retained) fun a => settleHandle fields a .retained
  | .borrowed =>
    let scope ← poolField fields
    answerCall fields spec.guarded (site.handle s args (.borrowed scope)) fun a => settleHandle fields a .notRetained
  | .borrowedText =>
    let scope ← poolField fields
    answerCall fields spec.guarded (site.handle s args (.borrowed scope)) fun a => do
      let seen ← seenText a
      return .record [("seen", seen), ("v", ← settleHandle fields a .notRetained)]
  | .allocated =>
    answerCall fields spec.guarded (site.allocate s args) fun a => settleHandle fields a .retained
  | .allocatedSurely otherwise =>
    let call : Exec (Option Address) := do
      match ← site.allocate s args with
      | some a => pure (some a)
      | none => panicWith otherwise
    answerCall fields spec.guarded call fun a => settleHandle fields a .retained
  | .cast =>
    let ghost := (← fixtureSymbolList.table).token "ghost"
    match site with
    | .object a =>
      let cls ← classOf a
      let classes := (← get).classes
      pure (.bool (ghost.any fun above => classes.isSubclass cls above))
    | .token _ => pure (.bool false)

/-- Makes a declared call. -/
def callStep : Action := fun fields => do
  let name ← fields.text "fn"
  match (builtinCalls ++ fixtureCalls).find? fun spec => spec.name == name with
  | none => badField "fn"
  | some spec => spec.perform fields

end Messaging.Scenario
