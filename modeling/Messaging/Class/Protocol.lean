import Messaging.Identity
import Messaging.RegistrationError
import Messaging.Selector

/-! Protocols: named lists of selectors that a class must implement to adopt them. -/

namespace Messaging

/-- A protocol. The required selectors stand in the order they came in, each once. -/
structure Protocol where
  id : ProtocolId
  name : String
  required : List Selector
deriving DecidableEq

/-- The text that shows a protocol. -/
def Protocol.text (p : Protocol) : String :=
  "Protocol \x7b name: " ++ Text.quoted p.name ++ ", required: [" ++ ", ".intercalate (p.required.map Selector.text) ++ "] \x7d"

/-- All protocols, oldest first. -/
structure ProtocolTable where
  entries : List Protocol

namespace ProtocolTable

/-- The table without protocols. -/
def empty : ProtocolTable := ⟨[]⟩

/-- The protocol with a given name. -/
def named? (t : ProtocolTable) (name : String) : Option Protocol := t.entries.find? fun p => p.name == name

/-- The protocol with a given identity. -/
def get? (t : ProtocolTable) (id : ProtocolId) : Option Protocol := t.entries.find? fun p => decide (p.id = id)

/-- Creates a protocol. Names are given once. -/
def create (t : ProtocolTable) (name : String) : Except RegistrationError (ProtocolId × ProtocolTable) :=
  match t.named? name with
  | some _ => .error (.protocolAlreadyExists name)
  | none => .ok (⟨t.entries.length⟩, ⟨t.entries ++ [⟨⟨t.entries.length⟩, name, []⟩]⟩)

/-- Adds a required selector. Classes that adopted the protocol before are not checked again. -/
def require (t : ProtocolTable) (id : ProtocolId) (s : Selector) : ProtocolTable :=
  let extend (p : Protocol) : Protocol := if p.required.contains s then p else { p with required := p.required ++ [s] }
  ⟨t.entries.map fun p => if p.id = id then extend p else p⟩

end ProtocolTable
end Messaging
