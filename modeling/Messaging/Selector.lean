import Messaging.NameHash
import Messaging.MethodFamily
import Messaging.RegistrationError

/-! Selectors: interned message names. Interning a name twice yields the same handle, so that handles
    compare like names. The table is divided into shards by the low bits of the hash; any hash will do. -/

namespace Messaging

/-- The handle of an interned name. `serial` is the place of the handle in the order of interning. -/
structure Selector where
  serial : Nat
  name : String
  hash : UInt64
deriving DecidableEq

namespace Selector

/-- How many arguments the name announces: one for each colon. -/
def arity (s : Selector) : Nat := s.name.toList.count ':'

/-- The family of the name. -/
def family? (s : Selector) : Option MethodFamily := MethodFamily.ofName? s.name

/-- The text that shows a selector with its hash. -/
def text (s : Selector) : String :=
  "Selector \x7b name: " ++ Text.quoted s.name ++ ", hash: 0x" ++ Text.hex s.hash.toNat ++ " \x7d"

end Selector

/-- What names are hashed with. -/
class NameHasher where
  hash : String → UInt64

instance : NameHasher := ⟨nameHash⟩

/-- How many shards a table has. -/
abbrev shardCount : Nat := 16

/-- All interned selectors, by shard. -/
structure SelectorTable where
  shards : Vector (List Selector) shardCount
  count : Nat

namespace SelectorTable

/-- The table in which nothing is interned. -/
def empty : SelectorTable := ⟨Vector.replicate shardCount [], 0⟩

/-- The shard in which names with this hash are kept. -/
def shardOf (hash : UInt64) : Fin shardCount := ⟨hash.toNat % shardCount, Nat.mod_lt _ (by decide)⟩

/-- The selectors of one shard. -/
def shard (t : SelectorTable) (hash : UInt64) : List Selector := t.shards[shardOf hash]

section
variable [NameHasher]

/-- The handle of a name, if it is interned. -/
def lookup? (t : SelectorTable) (name : String) : Option Selector :=
  (t.shard (NameHasher.hash name)).find? fun s => s.name == name

/-- The handle of a name, which is interned if it is not yet. -/
def register (t : SelectorTable) (name : String) : Selector × SelectorTable :=
  match t.lookup? name with
  | some s => (s, t)
  | none =>
    let s : Selector := ⟨t.count, name, NameHasher.hash name⟩
    (s, ⟨t.shards.set (shardOf s.hash) (s :: t.shard s.hash), t.count + 1⟩)

/-- Interns a name that is not empty. -/
def parse (t : SelectorTable) (name : String) : Except RegistrationError (Selector × SelectorTable) :=
  if name.isEmpty then .error .invalidSelector else .ok (t.register name)

end

end SelectorTable
end Messaging
