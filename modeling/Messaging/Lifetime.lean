import Messaging.Exec

/-! The life of objects: allocation, references, weak references and pools, as computations that log what
    they do. What they do to the memory is said by the operations of `Memory`. -/

namespace Messaging

/-- The object at an address. -/
def objectAt (a : Address) : Exec Object := do
  match (← get).memory.get? a with
  | some o => pure o
  | none => throw (.stray a)

/-- Applies a memory operation to the object at an address. -/
def onObject (a : Address) (op : Memory → Option Memory) : Exec Unit := do
  let s ← get
  match op s.memory with
  | some memory => set { s with memory }
  | none => throw (.stray a)

/-- The class of an object. -/
def classOf (a : Address) : Exec ClassId := return (← objectAt a).cls

/-- The payload of an object. -/
def payloadOf (a : Address) : Exec (Option Payload) := return (← objectAt a).payload

/-- The reference count of an object. -/
def countOf (a : Address) : Exec Nat := return (← objectAt a).count

/-- Allocates an instance. The caller owns its one reference. -/
def alloc (cls : ClassId) : Exec Address := do
  let s ← get
  let (a, memory) := s.memory.alloc cls
  set { s with memory }
  log .objects .trace s!"alloc {s.classes.name cls} {a.text}"
  pure a

/-- Takes a reference. -/
def retain (a : Address) : Exec Unit := onObject a fun m => m.retain a

/-- Announces that an object goes, and how many weak references go with it. -/
def announceFree (a : Address) (o : Object) : Exec Unit := do
  let s ← get
  log .objects .trace s!"dealloc {s.classes.name o.cls} {a.text}"
  if o.weaklyNamed then
    let slots := s.memory.weak.namersOf a
    if !slots.isEmpty then log .weakReferences .trace s!"clearing {slots.length} weak reference(s) to {a.text}"

/-- Gives up a reference. The last one frees the object. -/
def release (a : Address) : Exec Unit := do
  let o ← objectAt a
  if o.count = 1 then announceFree a o
  onObject a fun m => m.release a

/-- Attaches a payload, unless there is one. -/
def attach (a : Address) (p : Payload) : Exec Unit := onObject a fun m => m.attach a p

/-- Replaces the payload. -/
def setPayload (a : Address) (p : Payload) : Exec Unit := onObject a fun m => m.setPayload a p

/-- A new weak slot. -/
def newSlot : Exec SlotId :=
  modifyGet fun s =>
    let (slot, memory) := s.memory.newSlot
    (slot, { s with memory })

/-- Points a weak slot at an object, or at nothing. -/
def storeWeak (slot : SlotId) (target : Option Address) : Exec Unit :=
  onObject (target.getD ⟨0⟩) fun m => m.storeWeak slot target

/-- The object that a weak slot names. -/
def weakTarget (slot : SlotId) : Exec (Option Address) := return (← get).memory.weak.target? slot

/-- A new reference to the object that a weak slot names, if it names one. -/
def loadWeak (slot : SlotId) : Exec (Option Address) := do
  let s ← get
  match s.memory.loadWeak slot with
  | some (a, memory) =>
    set { s with memory }
    pure a
  | none => throw (.stray ((s.memory.weak.target? slot).getD ⟨0⟩))

/-- Gives up a weak slot. -/
def dropWeak (slot : SlotId) : Exec Unit := modify fun s => { s with memory := s.memory.dropWeak slot }

/-! ### Pools -/

/-- The pools of the running thread. -/
def pools : Exec PoolStack := return (← get).memory.pools

/-- Replaces the pools of the running thread. -/
def setPools (pools : PoolStack) : Exec Unit := modify fun s => { s with memory := { s.memory with pools } }

/-- Adds a pool and returns its token. -/
def pushPool : Exec Nat := do
  let (token, after) := (← pools).push
  setPools after
  pure token

/-- Releases what a pool held, newest first. -/
def drain (token : Nat) (objects : List Address) : Exec Unit := do
  if !objects.isEmpty then log .pools .trace s!"draining {objects.length} object(s) from pool {token}"
  objects.forM release

/-- Removes a pool with all above it. -/
def popPool (token : Nat) : Exec Unit := do
  let (objects, after) := (← pools).pop token
  setPools after
  drain token objects

/-- Gives up a pool. -/
def retirePool (token : Nat) : Exec Unit := do
  let (objects, after) := (← pools).retire token
  setPools after
  drain token objects

/-- Hands a reference to the innermost pool. Without a pool nobody will ever release it. -/
def autorelease (a : Address) : Exec Unit := do
  match (← pools).add? a with
  | some after => setPools after
  | none => log .pools .warn s!"{a.text} autoreleased with no pool in place, just leaking"

/-- Panics unless new objects go to the pool. -/
def assertInnermost (token : Nat) : Exec Unit := do
  let s ← pools
  if !s.isInnermost token then
    panicWith s!"autorelease pool {token} is not the innermost pool (depth {s.depth})"

/-- Hands an owned reference to a pool, which must be the innermost one. If it is not, the reference is given
    up while the panic unwinds. -/
def handOver (a : Address) (token : Nat) : Exec Unit := do
  match ← attempt (assertInnermost token) with
  | .ok () => autorelease a
  | .error i =>
    release a
    throw i

/-- Runs a computation with a pool of its own. -/
def withPool {α : Type} (x : Nat → Exec α) : Exec α := do
  let token ← pushPool
  ensuring (x token) (retirePool token)

end Messaging
