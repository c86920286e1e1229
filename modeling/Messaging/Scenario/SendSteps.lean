import Messaging.Scenario.PoolSteps
import Messaging.TypedCall.Adapter

/-! The steps of a scenario that send messages with types of their own: plain sends, one-off typed calls, and
    the making of adapters. -/

namespace Messaging.Scenario

/-- Whether an instance send of a selector uses up a reference of its receiver. -/
def consumesReceiver (s : Selector) : Bool :=
  s.name == "release" || s.name == "autorelease" || s.family? == some .init

/-- The name whose reference a send to `to` uses up, if it uses one up. It must own one. -/
def consumedName (fields : Fields) (s : Selector) : Act (Option String) := do
  match ← fields.text? "to" with
  | none => pure none
  | some name =>
    if consumesReceiver s then
      let h ← handleNamed name
      if h.owned = 0 then unmet .referenceOwned
      pure (some name)
    else pure none

/-- Takes the reference away that a send used up. -/
def consume (name : Option String) : Exec Unit :=
  match name with
  | some name => adjustOwned name (· - 1)
  | none => pure ()

/-- Reads an argument with its type. -/
def readTyped : Datum → Act Value
  | .record [(type, d)] => do
    let type ← TypeCode.readReturn type
    readValue false type d
  | _ => badField "args"

/-- Sends a message with given types. -/
def sendStep : Action := fun fields => do
  let r ← receiverField fields
  let selector ← selectorField fields
  let ret ← TypeCode.readReturn (← fields.text "ret")
  let args ← (← fields.itemsOrEmpty "args").mapM readTyped
  let consumed ← consumedName fields selector
  let name ← resultName fields
  let (v, own) ← send code r selector ret args
  consume consumed
  let shown ← match v with
    | .object a => objectResult name a (if own = .retained then 1 else 0)
    | v => do pure (resultDatum (← get).classes (fun v => r.object?.any fun a => v == .place a) v)
  pure (.record [("own", .text own.keyword), ("v", shown)])

/-! ### Typed calls -/

/-- Whom a typed call is made on: an object, or the class of a token. -/
inductive CallSite
  | object (a : Address)
  | token (t : Option ClassId)

/-- Whether a word is the receiver: the place of an object. A class has no place, and zero stands for it. -/
def CallSite.isSelf (site : CallSite) (v : Value) : Bool :=
  match site with
  | object a => v == .place a
  | token _ => v == .ulong 0 || v == .pointer 0

/-- The call site of a step. -/
def callSiteField (fields : Fields) : Act CallSite := do
  match ← handleField? fields "to" with
  | some h => pure (.object h.object)
  | none => return .token (← resolveClass (← fields.text "class"))

/-- A call with a result that is no handle. -/
def CallSite.value (site : CallSite) (s : Selector) (ret : TypeCode) (args : List Value) : Exec Value :=
  match site with
  | object a => readCall code a s ret args
  | token t => classCall code t s ret args

/-- A call with an object result. -/
def CallSite.handle (site : CallSite) (s : Selector) (args : List Value) (c : ReturnConvention) : Exec (Option Address) :=
  match site with
  | object a => readCallObject code a s args c
  | token t => classCallObject code t s args c

/-- What a call gave: a value, an object with the ownership that it was declared with, or nothing. -/
inductive CallResult
  | value (v : Value)
  | handle (a : Option Address) (ownership : Ownership)
  | nothing

/-- Binds an object result. One that is not owned can be kept, which takes a reference. -/
def settleHandle (fields : Fields) (a : Option Address) (ownership : Ownership) : Act Datum := do
  let name ← resultName fields
  let keep := fields.flag "keep" && ownership == .notRetained
  if keep then a.forM fun a => (retain a : Act Unit)
  objectResult name a (if ownership == .retained || keep then 1 else 0)

/-- How the result of a call is answered. -/
def settleResult (fields : Fields) (site : CallSite) : CallResult → Act Datum
  | .value v => return resultDatum (← get).classes site.isSelf v
  | .handle a ownership => settleHandle fields a ownership
  | .nothing => pure done

/-- Runs a call, as a guarded region if that is asked for, and answers its result. -/
def answerCall {α : Type} (fields : Fields) (guarded : Bool) (call : Exec α) (answer : α → Act Datum) : Act Datum := do
  let exc ← exceptionName fields
  if guarded then
    match ← (catchThrown call : Exec (Except Address α)) with
    | .ok r => return .record [("ok", ← answer r)]
    | .error a => raised exc a
  else answer (← call)

/-- The argument types that one-off calls can have, together. -/
def callTypes : List String :=
  ["", "B", "c", "C", "s", "S", "i", "I", "q", "Q", "f", "d", "@", "#", ":", "^", "\x7bStrRef\x7d", "\x7bOxCallbackTable\x7d",
   "qq", "@@", "@q", "qqq", "\x7bOxPoint\x7ddd", "qqqq", "iBqd"]

/-- The result types that one-off calls can have. -/
def callReturns : List String :=
  ["v", "B", "c", "C", "s", "S", "i", "I", "q", "Q", "f", "d", "#", ":", "^", "\x7bStrRef\x7d", "\x7bOxPoint\x7d",
   "\x7bOxCallbackTable\x7d"]

/-- Reads arguments of given types. -/
def readArguments (types : List TypeCode) (args : List Datum) : Act (List Value) := do
  if types.length ≠ args.length then badField "args"
  (types.zip args).mapM fun (type, d) => readValue true type d

/-- The call that a step describes. -/
def callField (fields : Fields) (site : CallSite) (s : Selector) (args : List Value) : Act (Exec CallResult) := do
  match ← fields.text "shape" with
  | "value" =>
    let ret ← fields.text "ret"
    if !callReturns.contains ret then badField "ret"
    let ret ← TypeCode.readReturn ret
    pure (return .value (← site.value s ret args))
  | "object" =>
    match ← fields.text "tag" with
    | "retained" => pure (return .handle (← site.handle s args .retained) .retained)
    | "not_retained" =>
      let scope ← poolField fields
      pure (return .handle (← site.handle s args (.borrowed scope)) .notRetained)
    | _ => badField "tag"
  | "write" =>
    match site with
    | .object a =>
      pure (do
        writeCall code a s args
        pure .nothing)
    | .token _ => badField "shape"
  | "alloc" =>
    match site with
    | .token t => pure (return .handle (← allocInit code t s args) .retained)
    | .object _ => badField "shape"
  | _ => badField "shape"

/-- A one-off typed call. -/
def typedCall : Action := fun fields => do
  let selector ← selectorField fields
  let site ← callSiteField fields
  let consumed ← consumedName fields selector
  let types ← fields.text "types"
  if !callTypes.contains types then badField "types"
  let types ← TypeCode.readArguments types
  let args ← readArguments types (← fields.itemsOrEmpty "args")
  let call ← callField fields site selector args
  answerCall fields (fields.flag "guarded") call fun r => do
    let shown ← settleResult fields site r
    consume consumed
    pure shown

/-- Makes an adapter. -/
def adapterStep : Action := fun fields => do
  let table ← readSlots ((fields.get? "slots").getD .null)
  let via ← fields.text? "via"
  let name ← resultName fields
  let a ← (if via == some "oxb" then confined (makeAdapter code table) else makeAdapter code table : Exec Address)
  objectResult name (some a) 1

/-- The steps of this module by name. -/
def sendActions : List (String × Action) := [("send", sendStep), ("tramp", typedCall), ("adapter", adapterStep)]

end Messaging.Scenario
