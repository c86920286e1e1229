import Messaging.Class.Method
import Messaging.Class.Protocol
import Messaging.FiniteMap

/-! Classes: names bound for good, each with at most one superclass, tables of methods for its instances and
    for itself, and the protocols it adopted. A method is looked for along the superclass chain; what was
    found is remembered by the class asked, until any table changes. -/

namespace Messaging

/-- What a class remembers of earlier lookups, and when it was last brought up to date. -/
structure MethodCache where
  epoch : Nat
  found : FiniteMap (Selector × MethodKind) Method

/-- A class. -/
structure ClassEntry where
  id : ClassId
  name : String
  superclass : Option ClassId
  instanceMethods : FiniteMap Selector Method
  classMethods : FiniteMap Selector Method
  cache : MethodCache
  protocols : List ProtocolId

namespace ClassEntry

/-- A class without methods. -/
def fresh (id : ClassId) (name : String) (superclass : Option ClassId) : ClassEntry :=
  ⟨id, name, superclass, .empty, .empty, ⟨0, .empty⟩, []⟩

/-- The methods of one kind. -/
def methods (c : ClassEntry) : MethodKind → FiniteMap Selector Method
  | .ofInstances => c.instanceMethods
  | .ofClass => c.classMethods

/-- Adds a method, or replaces the one with its selector. -/
def insert (c : ClassEntry) (kind : MethodKind) (m : Method) : ClassEntry :=
  match kind with
  | .ofInstances => { c with instanceMethods := c.instanceMethods.insert m.selector m }
  | .ofClass => { c with classMethods := c.classMethods.insert m.selector m }

end ClassEntry

/-- All classes, newest first, and how often a method table changed. The number has no bound; up to 2^64 changes it is the
    value of a counter of 64 bits (`MethodLookup.stamps_in_words`). -/
structure ClassTable where
  entries : List ClassEntry
  epoch : Nat

namespace ClassTable

/-- The table without classes. -/
def empty : ClassTable := ⟨[], 0⟩

/-- The class with a given name. -/
def named? (t : ClassTable) (name : String) : Option ClassEntry := t.entries.find? fun c => c.name == name

/-- The class with a given identity. -/
def get? (t : ClassTable) (id : ClassId) : Option ClassEntry := t.entries.find? fun c => decide (c.id = id)

/-- The name of a class. -/
def name (t : ClassTable) (id : ClassId) : String := ((t.get? id).map ClassEntry.name).getD ""

/-- Creates a class. Names are given once. -/
def create (t : ClassTable) (name : String) (superclass : Option ClassId) :
    Except RegistrationError (ClassId × ClassTable) :=
  match t.named? name with
  | some _ => .error (.classAlreadyExists name)
  | none => .ok (⟨t.entries.length⟩, { t with entries := .fresh ⟨t.entries.length⟩ name superclass :: t.entries })

/-- The class with its superclasses, nearest first. A superclass is older than its subclasses, so the
    search goes on among the older classes. -/
def chainFrom : List ClassEntry → ClassId → List ClassEntry
  | [], _ => []
  | c :: older, id =>
    if c.id = id then c :: (match c.superclass with
      | some above => chainFrom older above
      | none => [])
    else chainFrom older id

/-- The superclass chain of a class, itself included. -/
def chain (t : ClassTable) (id : ClassId) : List ClassEntry := chainFrom t.entries id

/-- Whether `above` is the class or one of its ancestors. -/
def isSubclass (t : ClassTable) (id above : ClassId) : Bool := (t.chain id).any fun c => decide (c.id = above)

/-- Changes one class. -/
def modify (t : ClassTable) (id : ClassId) (change : ClassEntry → ClassEntry) : ClassTable :=
  { t with entries := t.entries.map fun c => if c.id = id then change c else c }

/-- Adds or replaces a method. What classes remember of lookups is out of date from then on. -/
def insert (t : ClassTable) (id : ClassId) (kind : MethodKind) (m : Method) : Option Method × ClassTable :=
  let replaced := (t.get? id).bind fun c => (c.methods kind).get? m.selector
  (replaced, { t.modify id fun c => c.insert kind m with epoch := t.epoch + 1 })

/-- The method found along the chain: the nearest class that has one decides. -/
def resolve? (t : ClassTable) (id : ClassId) (kind : MethodKind) (s : Selector) : Option Method :=
  (t.chain id).findSome? fun c => (c.methods kind).get? s

/-- The method that a class remembers, if it is up to date. -/
def remembered? (t : ClassTable) (id : ClassId) (kind : MethodKind) (s : Selector) : Option Method :=
  (t.get? id).bind fun c => if c.cache.epoch = t.epoch then c.cache.found.get? (s, kind) else none

/-- Has a class remember a lookup, and forget those from before the last change. -/
def remember (t : ClassTable) (id : ClassId) (kind : MethodKind) (s : Selector) (m : Method) : ClassTable :=
  t.modify id fun c =>
    let found := if c.cache.epoch < t.epoch then .empty else c.cache.found
    if c.cache.epoch ≤ t.epoch then { c with cache := ⟨t.epoch, found.insert (s, kind) m⟩ } else c

/-- Looks a method up. Only what is found is remembered. -/
def lookup (t : ClassTable) (id : ClassId) (kind : MethodKind) (s : Selector) : Option Method × ClassTable :=
  match t.remembered? id kind s with
  | some m => (some m, t)
  | none =>
    match t.resolve? id kind s with
    | some m => (some m, t.remember id kind s m)
    | none => (none, t)

/-- Looks up an instance method for each selector until one is missing. -/
def firstMissing (t : ClassTable) (id : ClassId) : List Selector → Option Selector × ClassTable
  | [] => (none, t)
  | s :: rest =>
    match t.lookup id .ofInstances s with
    | (some _, t) => t.firstMissing id rest
    | (none, t) => (some s, t)

/-- Has a class adopt a protocol. The class must implement every selector that is required now, by itself
    or by an ancestor. -/
def adopt (t : ClassTable) (id : ClassId) (p : Protocol) : Except RegistrationError Unit × ClassTable :=
  if ((t.get? id).any fun c => c.protocols.contains p.id) then (.error (.protocolAlreadyAdopted (t.name id) p.name), t)
  else match t.firstMissing id p.required with
    | (some s, t) => (.error (.missingProtocolMethod p.name s.name), t)
    | (none, t) => (.ok (), t.modify id fun c => { c with protocols := c.protocols ++ [p.id] })

/-- Whether the class or an ancestor adopted a protocol. -/
def conforms (t : ClassTable) (id : ClassId) (p : ProtocolId) : Bool := (t.chain id).any fun c => c.protocols.contains p

end ClassTable
end Messaging
