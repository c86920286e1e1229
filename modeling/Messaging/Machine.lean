import Messaging.Class.Table
import Messaging.Client
import Messaging.Log.Journal
import Messaging.Log.Origin
import Messaging.Object.Memory

/-! The machine: everything that sending messages may read or change. -/

namespace Messaging

/-- The built-in classes and their protocol. -/
structure Builtins where
  object : ClassId
  string : ClassId
  number : ClassId
  exception : ClassId
  port : ClassId
  portDelegate : ProtocolId
deriving DecidableEq

/-- Named class tokens and selectors that were resolved together. A class that did not exist then has no
    token. -/
structure SymbolTable where
  title : String
  classes : List (String × Option ClassId)
  selectors : List (String × Selector)

/-- What was set up so far. The environment may hold directives for the log; they are applied once. -/
structure Setup where
  environment : Option String
  environmentRead : Bool
  builtins : Option Builtins
  adapter : Option ClassId
  symbols : FiniteMap String SymbolTable

/-- The whole state. -/
structure Machine where
  journal : Log.Journal
  selectors : SelectorTable
  protocols : ProtocolTable
  classes : ClassTable
  memory : Memory
  setup : Setup
  client : Client

/-- A machine in which nothing has happened. -/
def Machine.fresh (heapStart : Nat) (environment : Option String) (client : Client) : Machine where
  journal := .fresh
  selectors := .empty
  protocols := .empty
  classes := .empty
  memory := .empty heapStart
  setup := ⟨environment, false, none, none, .empty⟩
  client

end Messaging
