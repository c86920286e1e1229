import Messaging.Log.Journal
import Messaging.Refusal
import Messaging.Selector
import Messaging.Signature
import Messaging.TypedCall.Declaration
import Messaging.TypedCall.Symbols

/-! Queries: questions about single values, such as a filter, a signature or a selector, which need no
    history. Each has a name and reads its parts from named fields. -/

namespace Messaging.Query

open Log (Filter Level Logger)

/-- The answer to a query, or why there is none. -/
abbrev Reply : Type := Except Refusal Datum

/-- One digit per level, most severe first: whether it passes. -/
def digits (passes : Level → Bool) : Datum :=
  .text (String.ofList (Level.all.map fun l => if passes l then '1' else '0'))

/-- A level field. -/
def level (fields : Fields) (name : String) : Except Refusal Level := do
  let text ← fields.text name
  Level.read text

/-- What a filter does, for some paths. -/
def filterState (f : Filter) (paths : List String) : Datum :=
  .record [("max", .text f.ceiling.name), ("debug", .text f.text),
    ("targets", .list (paths.map fun path =>
      .list [.text (f.levelFor path).name, digits fun l => f.enabled l path]))]

/-- A filter given by an optional base level and a list of targets with their levels. -/
def builtFilter (fields : Fields) : Except Refusal Filter := do
  let base ← match ← fields.text? "base" with
    | none => pure Filter.standard
    | some text => do
      let level ← Level.read text
      pure (Filter.uniform level)
  (← fields.itemsOrEmpty "with").foldlM (fun (f : Filter) entry => do
    match entry with
    | .list [.text target, .text name] =>
      let level ← Level.read name
      pure (f.withTarget target level)
    | _ => throw (.badField ⟨"with"⟩)) base

/-- Reads a level name. -/
def readLevel (fields : Fields) : Reply := do
  let l ← level fields "text"
  pure (.record [("level", .text l.name), ("debug", .text l.label), ("number", .ofNat l.rank)])

/-- Reads a spec and shows the filter. -/
def readFilter (fields : Fields) : Reply := do
  let spec ← fields.text "spec"
  let f ← Filter.ofSpec spec
  let paths ← fields.texts "targets"
  pure (filterState f paths)

/-- Builds a filter and shows it. -/
def buildFilter (fields : Fields) : Reply := do
  let f ← builtFilter fields
  let paths ← fields.texts "targets"
  pure (filterState f paths)

/-- Whether two specs give the same filter. -/
def sameFilter (fields : Fields) : Reply := do
  let left ← fields.text "a"
  let right ← fields.text "b"
  let a ← Filter.ofSpec left
  let b ← Filter.ofSpec right
  pure (.bool (decide (a = b)))

/-- The text of a log record. -/
def record (fields : Fields) : Reply := do
  let l ← level fields "level"
  let target ← fields.text "target"
  let text ← fields.text "text"
  pure (.text (Log.recordText l target text (fields.flag "color")))

/-- The path that the logger's own records come from. -/
def emitPath : String := "oracle_driver::pure"

/-- One step of a logger: its answer, and the logger afterwards. -/
def loggerStep (l : Logger) (fields : Fields) : Except Refusal (Datum × Logger) := do
  match ← fields.text "do" with
  | "set_level" =>
    let lv ← level fields "level"
    pure (.text "ok", l.setLevel lv)
  | "set_level_from_str" =>
    let text ← fields.text "text"
    let l' ← l.setLevelNamed text
    pure (.text "ok", l')
  | "set_directives" =>
    let text ← fields.text "text"
    let l' ← l.setDirectives text
    pure (.text "ok", l')
  | "set_filter" =>
    let f ← builtFilter fields
    pure (.text "ok", l.setFilter f)
  | "emit" =>
    let lv ← level fields "level"
    let text ← fields.text "text"
    pure (.text (if l.enabledFor lv emitPath then Log.recordText lv emitPath text false ++ "\n" else ""), l)
  | _ => throw (.badField ⟨"do"⟩)

/-- What a logger lets through. -/
def loggerState (l : Logger) (paths : List String) : Datum :=
  .record [("level", .text l.level.name), ("any", digits l.enabled),
    ("targets", .list (paths.map fun path => digits fun lv => l.enabledFor lv path))]

/-- Runs the steps of a logger. A refused step leaves it as it was. -/
def loggerRun (paths : List String) : Logger → List Datum → List Datum
  | _, [] => []
  | l, step :: rest =>
    let (r, l') := match loggerStep l (step.fields?.getD []) with
      | .ok answer => answer
      | .error refusal => (refusal.datum, l)
    .record [("r", r), ("logger", loggerState l' paths)] :: loggerRun paths l' rest

/-- Drives a logger from its standard state. -/
def logger (fields : Fields) : Reply := do
  let paths ← fields.texts "targets"
  let steps ← fields.items "steps"
  pure (.list (loggerRun paths (.ofFilter .standard) steps))

/-- The description of a type. -/
def typeCode (code : TypeCode) : Datum :=
  .record [("text", .text code.text), ("debug", .text (code.label Text.quoted)),
    ("code", .ofText? (code.char?.map Char.toString)), ("handle", .bool code.isHandle)]

/-- Reads a signature and takes it apart. -/
def signature (fields : Fields) : Reply := do
  let text ← fields.text "text"
  let s ← Signature.read text
  let again := match Signature.read s.text with
    | .ok s' => decide (s' = s)
    | .error _ => false
  let onInstance := Signature.ofInstance s.ret s.args
  pure (.record [("ret", typeCode s.ret), ("args", .list (s.args.map typeCode)), ("arity", .ofNat s.arity),
    ("display", .text s.text), ("again", .bool again), ("as_instance", .text onInstance.text),
    ("is_instance", .bool (decide (onInstance = s)))])

/-- Whether a signature accepts a call with given types. -/
def accepts (fields : Fields) : Reply := do
  let text ← fields.text "text"
  let ret ← fields.text "ret"
  let args ← fields.text "args"
  let s ← Signature.read text
  let ret ← TypeCode.readReturn ret
  let args ← TypeCode.readArguments args
  pure (.bool (s.accepts ret args))

/-- The description of a selector. -/
def selectorDatum (s : Selector) : Datum :=
  .record [("name", .text s.name), ("display", .text s.name), ("arity", .ofNat s.arity),
    ("hash", .numeral s.hash.toNat), ("debug", .text s.text), ("family", .ofText? (s.family?.map MethodFamily.label)),
    ("ownership", .text (MethodFamily.conventionalOwnership s.name).keyword)]

/-- Interns a name. -/
def selector (fields : Fields) : Reply := do
  let name ← fields.text "name"
  pure (selectorDatum (SelectorTable.empty.register name).1)

/-- Interns a name that must not be empty. -/
def parseSelector (fields : Fields) : Reply := do
  let name ← fields.text "name"
  let (s, _) ← SelectorTable.empty.parse name
  pure (selectorDatum s)

/-- The families of names. -/
def families (fields : Fields) : Reply := do
  let names ← fields.texts "names"
  pure (.list (names.map fun name => .list [.ofText? ((MethodFamily.ofName? name).map MethodFamily.label),
    .text (MethodFamily.conventionalOwnership name).keyword]))

/-- A declaration with what convention says about it. -/
def declarationDatum (d : Declaration) : Datum :=
  .list [.text d.className, .text d.selector, .text d.shape.label, .ofNat d.arity,
    .ofText? (d.tag.map Ownership.keyword), .text d.expectedTag.keyword, .bool d.isConventional]

/-- Reads a declaration. -/
def readDeclaration : Datum → Except BadField Declaration
  | .list [className, selector, shape, arity, tag] => do
    let className ← need className.text? "table"
    let selector ← need selector.text? "table"
    let shape ← need (shape.text?.bind CallShape.ofLabel?) "shape"
    let arity ← IntType.uint64.read arity
    let tag ← match tag with
      | .null => pure none
      | tag => (need (tag.text?.bind Ownership.ofKeyword?) "ownership").map some
    pure ⟨className, selector, shape, arity.toNat, tag⟩
  | _ => throw ⟨"table"⟩

/-- The places of the declarations that go against convention. -/
def flagged (table : List Declaration) : List Nat := (table.zipIdx.filter fun e => !e.1.isConventional).map Prod.snd

/-- Reviews a table of declarations. -/
def review (fields : Fields) : Reply := do
  let rows ← fields.items "table"
  let table ← (rows.mapM readDeclaration : Except BadField (List Declaration))
  pure (.record [("flagged", .list ((flagged table).map .ofNat)), ("rows", .list (table.map declarationDatum))])

/-- The declarations on the built-in classes and their review. -/
def ownershipTable (_ : Fields) : Reply :=
  pure (.record [("rows", .list (Declaration.builtin.map declarationDatum)),
    ("review", .list ((Declaration.review Declaration.builtin).map declarationDatum))])

/-- The symbols of the built-in classes, on a machine that does nothing else. -/
def baseSymbolsText (_ : Fields) : Reply :=
  let shown : Exec String := return (← baseSymbols).text (← get).classes
  match shown.outcome (Machine.fresh 0 none (Client.fresh false false)) with
  | (.ok text, _) => pure (.text text)
  | (.error _, _) => pure .null

/-- The wording of a refused registration. -/
def errorText (fields : Fields) : Reply := do
  let cause ← match ← fields.text "kind" with
    | "ClassAlreadyExists" => do
      let name ← fields.text "name"
      pure (RegistrationError.classAlreadyExists name)
    | "InvalidSelector" => pure .invalidSelector
    | "InvalidEncoding" => do
      let encoding ← fields.text "encoding"
      pure (.invalidEncoding encoding)
    | "ProtocolAlreadyExists" => do
      let name ← fields.text "name"
      pure (.protocolAlreadyExists name)
    | "ProtocolAlreadyAdopted" => do
      let className ← fields.text "class"
      let protocolName ← fields.text "protocol"
      pure (.protocolAlreadyAdopted className protocolName)
    | "MissingProtocolMethod" => do
      let protocolName ← fields.text "protocol"
      let selector ← fields.text "selector"
      pure (.missingProtocolMethod protocolName selector)
    | _ => throw (.badField ⟨"kind"⟩)
  pure (.text cause.message)

/-- The queries by name. -/
def all : List (String × (Fields → Reply)) :=
  [("level", readLevel), ("filter", readFilter), ("filter_build", buildFilter), ("filter_eq", sameFilter),
   ("record", record), ("logger", logger), ("signature", signature), ("accepts", accepts), ("selector", selector),
   ("parse_selector", parseSelector), ("family", families), ("review", review), ("ownership_table", ownershipTable),
   ("base_symbols", baseSymbolsText), ("error_text", errorText)]

end Messaging.Query
