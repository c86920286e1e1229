import Messaging.Scenario.CallSteps
import Messaging.Scenario.HeapStart
import Messaging.Text.Masked

/-! Running a scenario. Every step leaves a record when it ends. What a top-level step throws is caught and
    becomes its result; inside a block it goes on to unwind the block. -/

namespace Messaging.Scenario

/-- A step, with the steps inside it if it is a block. -/
inductive Step
  | mk (fields : Fields) (body : Option (List Step))
deriving Inhabited

mutual

/-- The texts in a step and in the steps inside it. -/
def Step.texts : Step → List String
  | .mk fields none => Datum.textsOfFields fields
  | .mk fields (some steps) => Datum.textsOfFields fields ++ textsOfSteps steps

/-- The texts in a list of steps. -/
def textsOfSteps : List Step → List String
  | [] => []
  | step :: rest => step.texts ++ textsOfSteps rest

end

/-! ### Records -/

mutual

/-- A datum with the addresses in its texts masked. -/
def maskedDatum : Datum → Datum
  | .text s => .text (Text.masked s)
  | .list items => .list (maskedItems items)
  | .record fields => .record (maskedFields fields)
  | d => d

/-- The items of a list, masked. -/
def maskedItems : List Datum → List Datum
  | [] => []
  | d :: rest => maskedDatum d :: maskedItems rest

/-- The parts of a record, masked. -/
def maskedFields : List (String × Datum) → List (String × Datum)
  | [] => []
  | (name, d) :: rest => (name, maskedDatum d) :: maskedFields rest

end

/-- The count of a handle's object, zero if it does not live. -/
def handleCount (s : Machine) (h : Handle) : Nat :=
  match s.memory.weak.target? h.slot with
  | some a => s.memory.count a
  | none => 0

/-- The record of a step that ends in a given state. -/
def recordOf (s : Machine) (path : String) (result : Datum) : Datum :=
  let events := s.client.events.map fun e => Datum.ofTexts (e.map Text.masked)
  let lines := if s.client.keepsLog then s.journal.lines.map Text.masked else []
  .record ([("at", .text path), ("r", maskedDatum result),
      ("pools", .list [.ofNat s.memory.pools.depth, .ofNat s.memory.pools.pending]),
      ("rc", .record (s.client.handles.map fun (name, h) => (name, .ofNat (handleCount s h))))] ++
    (if events.isEmpty then [] else [("events", .list events)]) ++
    (if lines.isEmpty then [] else [("log", .ofTexts lines)]))

/-- Writes a record, which takes the events and log lines since the last one. -/
def writeRecord (path : String) (result : Datum) : Exec Unit :=
  modify fun s =>
    { s with
      journal := s.journal.clear
      client := { s.client with events := [], records := s.client.records ++ [recordOf s path result] } }

/-! ### Frames -/

/-- Ends a frame: its guards are dropped, the latest first. The pool of a block is left to the block. -/
def closeFrame : Exec Unit := do
  let frame := (← get).client.frames.head?.getD []
  modifyClient fun c => { c with frames := c.frames.tail }
  (frame.filter fun g => !g.ofBlock).forM fun g => retirePool g.token

/-- Runs a computation in a frame of its own. -/
def inFrame {α : Type} (guards : List Guard) (x : Exec α) : Exec α := do
  modifyClient fun c => { c with frames := guards :: c.frames }
  ensuring x closeFrame

/-- Runs a computation on another thread, which has pools of its own. What it leaves in them leaks. -/
def onThread {α : Type} (x : Exec α) : Exec α := do
  let outer := (← get)
  setPools .empty
  modifyClient fun c => { c with frames := [] }
  ensuring x (do
    setPools outer.memory.pools
    modifyClient fun c => { c with frames := outer.client.frames })

/-! ### Steps -/

/-- A body to be run: as steps of a thread, each for itself, or as steps of a block. -/
abbrev Body : Type := Bool → Exec Unit

/-- Runs a body, if there is one. -/
def runBody (body : Option Body) (own : Bool) : Exec Unit :=
  match body with
  | some b => b own
  | none => pure ()

/-- What a block answers when its body threw something, or did not. -/
def caught (fields : Fields) (answer : Datum) : Option Address → Act Datum
  | none => pure answer
  | some a => do raised (← exceptionName fields) a

/-- What a block does with its body. -/
def performBlock (kind : String) (fields : Fields) (body : Option Body) : Option (Act Datum) :=
  let inner : Exec Unit := inFrame [] (runBody body false)
  match kind with
  | "try" => some do
    match ← (catchThrown inner : Exec (Except Address Unit)) with
    | .ok () => pure (.record [("ok", .null)])
    | .error a => do raised (← exceptionName fields) a
  | "guarded_call" => some do caught fields done (← guardedCall inner)
  | "oxb_try_catch" => some do
    if body.isNone then
      log .entryPoints .warn "oxb_try_catch called without an operation"
      pure done
    else caught fields done (← (confined (guardedCall inner) : Exec (Option Address)))
  | "pool" => some do
    let name ← fields.text "pool"
    (withPool fun token => inFrame [⟨name, token, true⟩] (runBody body false) : Exec Unit)
    pure done
  | "frame" => some do
    inner
    pure done
  | "unwind" => some do
    match ← (attempt inner : Exec (Except Interruption Unit)) with
    | .ok () => pure done
    | .error (.thrown a) =>
      let shown ← describe a
      release a
      pure (.record [("thrown", shown)])
    | .error (.panic text) => pure (.record [("panic", .text text)])
    | .error i => ExceptT.lift (throw i)
  | "thread" => some do
    (onThread (inFrame [] (runBody body true)) : Exec Unit)
    pure done
  | _ => none

/-- The steps that are not blocks, by name. -/
def actions : List (String × Action) :=
  classActions ++ objectActions ++ poolActions ++ sendActions ++ [("call", callStep)]

/-- What a step does. -/
def perform (fields : Fields) (body : Option Body) : Act Datum := do
  let kind ← fields.text "do"
  match performBlock kind fields body with
  | some block => block
  | none =>
    match actions.lookup kind with
    | some action => action fields
    | none => badField "do"

/-- Runs a step and writes its record. A step of its own catches what it throws; a step of a block passes it
    on. -/
def conclude (path : String) (own : Bool) (fields : Fields) (body : Option Body) : Exec Unit := do
  let step : Exec Datum := do
    match ← (perform fields body).run with
    | .ok d => pure d
    | .error refusal => pure refusal.datum
  if own then
    match ← attempt (catchThrown step) with
    | .ok (.ok d) => writeRecord path d
    | .ok (.error a) =>
      let name := match fields.get? "exc" with
        | some (.text name) => some name
        | _ => none
      writeRecord path (← raised name a)
    | .error (.panic text) => writeRecord path (.record [("panic", .text text)])
    | .error i => throw i
  else
    match ← attempt step with
    | .ok d => writeRecord path d
    | .error i =>
      if !i.isFatal then writeRecord path (.text "unwinds")
      throw i

mutual

/-- Runs a step. -/
def runStep (path : String) (own : Bool) : Step → Exec Unit
  | .mk fields none => conclude path own fields none
  | .mk fields (some steps) => conclude path own fields (some fun each => runSteps (path ++ ".") each 0 steps)

/-- Runs steps one after the other. Their paths count from `n`. -/
def runSteps (start : String) (own : Bool) (n : Nat) : List Step → Exec Unit
  | [] => pure ()
  | step :: rest => do
    runStep (start ++ toString n) own step
    runSteps start own (n + 1) rest

end

/-! ### Scenarios -/

/-- A scenario. `isolated` has the machine to itself; `environment` holds directives for the log; `taken` are
    names that are registered before anything is installed. -/
structure Script where
  steps : List Step
  log : Option String
  isolated : Bool
  environment : Option String
  taken : Option (List String)

/-- The answer to a scenario: its records, and whether the run was cut off. -/
structure Answer where
  aborted : Bool
  records : List Datum

/-- Whether what is set up is shown in a record of its own. -/
def Script.showsSetup (c : Script) : Bool := c.environment.isSome || c.taken.isSome

/-- Registers a name before anything is installed. -/
def takeName (name : String) : Exec Unit := do
  if name = "OxPortDelegate" then
    let _ ← createProtocol name
  else
    let _ ← createClass name none

/-- Sets up what scenarios find in place. A second attempt is made if the first one panics. -/
def setUp (shown : Bool) : Nat → Exec Bool
  | 0 => pure false
  | attempts + 1 => do
    match ← attempt prepare with
    | .ok () =>
      if shown then writeRecord "preload" done
      pure true
    | .error (.panic text) =>
      if shown then writeRecord "preload" (.record [("panic", .text text)])
      setUp shown attempts
    | .error i => throw i

/-- Applies the directives of a scenario. -/
def applyDirectives (spec : String) : Exec Unit := do
  match (← get).journal.logger.setDirectives spec with
  | .ok logger => modify fun s => { s with journal := { s.journal with logger } }
  | .error cause => writeRecord "log" (Refusal.log cause).datum

/-- Unbinds every name that is bound, in order. -/
def unbindAll : Exec Unit := do
  ((← get).client.handles.map Prod.fst).forM fun name => do
    let _ ← unbindHandle name

/-- Runs a scenario from the start to its last record. -/
def Script.exec (c : Script) : Exec Unit := do
  (c.taken.getD []).forM takeName
  if ← setUp c.showsSetup 2 then
    if !(c.isolated || c.showsSetup) then modify fun s => { s with journal := s.journal.clear }
    if let some spec := c.log then applyDirectives spec
    inFrame [] (runSteps "" true 0 c.steps)
    unbindAll
    writeRecord "end" .null

/-- Runs a scenario. -/
def Script.run (c : Script) : Answer :=
  let client := Client.fresh (c.isolated || c.showsSetup) (c.log.isSome || c.showsSetup)
  let start := heapStart (textsOfSteps c.steps ++ c.taken.getD [])
  let (outcome, s) := c.exec.outcome (Machine.fresh start c.environment client)
  ⟨outcome matches .error _, s.client.records⟩

/-- The answer as data. -/
def Answer.datum (a : Answer) : Datum :=
  .record ((if a.aborted then [("aborted", .bool true)] else []) ++ [("steps", .list a.records)])

end Messaging.Scenario
