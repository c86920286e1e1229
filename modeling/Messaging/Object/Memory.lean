import Messaging.Object.Heap
import Messaging.Object.PoolStack
import Messaging.Object.WeakTable

/-! Memory: the objects with the weak references that name them and the pools that hold some of them. An
    operation on an address where nothing lives has no result. -/

namespace Messaging

/-- What is known about objects. -/
structure Memory where
  heap : Heap
  weak : WeakTable
  pools : PoolStack

namespace Memory

/-- The memory in which nothing was placed yet. -/
def empty (start : Nat) : Memory := ⟨.empty start, .empty, .empty⟩

/-- The object at an address. -/
def get? (m : Memory) (a : Address) : Option Object := m.heap.get? a

/-- The reference count at an address; zero where nothing lives. -/
def count (m : Memory) (a : Address) : Nat := ((m.get? a).map Object.count).getD 0

/-- Places a new object, with one reference, at an address where none lives. -/
def place (m : Memory) (a : Address) (cls : ClassId) : Memory := { m with heap := m.heap.place a cls }

/-- Places a new object at an address that was never used. -/
def alloc (m : Memory) (cls : ClassId) : Address × Memory := (m.heap.fresh, m.place m.heap.fresh cls)

/-- Changes a live object. -/
def modify? (m : Memory) (a : Address) (change : Object → Object) : Option Memory :=
  (m.heap.modify? a change).map fun h => { m with heap := h }

/-- Adds a reference. Counts have no bound: the abort at 2^63 references is left out, and a run would come to it only after
    as many deeds (`Conservation.Run.count_le`). -/
def retain (m : Memory) (a : Address) : Option Memory := m.modify? a fun o => { o with count := o.count + 1 }

/-- Gives up what a payload holds. -/
def dropPayload (w : WeakTable) : Option Payload → WeakTable
  | some (.port delegate _) => w.drop delegate
  | _ => w

/-- Removes an object: its weak references are cleared and its payload is given up. -/
def free (m : Memory) (a : Address) (o : Object) : Memory :=
  let weak := if o.weaklyNamed then m.weak.clear a else m.weak
  { m with heap := m.heap.remove a, weak := dropPayload weak o.payload }

/-- Gives up a reference. The last one takes the object with it. -/
def release (m : Memory) (a : Address) : Option Memory :=
  match m.get? a with
  | none => none
  | some o => if o.count = 1 then some (m.free a o) else m.modify? a fun o => { o with count := o.count - 1 }

/-- Attaches a payload, unless there is one. -/
def attach (m : Memory) (a : Address) (p : Payload) : Option Memory :=
  m.modify? a fun o => { o with payload := o.payload.or (some p) }

/-- Replaces the payload. -/
def setPayload (m : Memory) (a : Address) (p : Payload) : Option Memory := m.modify? a fun o => { o with payload := some p }

/-- A new weak slot. -/
def newSlot (m : Memory) : SlotId × Memory :=
  let (slot, weak) := m.weak.fresh
  (slot, { m with weak })

/-- Points a slot at a live object, or at nothing. -/
def storeWeak (m : Memory) (slot : SlotId) : Option Address → Option Memory
  | none => some { m with weak := m.weak.store slot none }
  | some a => (m.modify? a fun o => { o with weaklyNamed := true }).map fun m => { m with weak := m.weak.store slot (some a) }

/-- A new reference to the object that a slot names, if it names one. -/
def loadWeak (m : Memory) (slot : SlotId) : Option (Option Address × Memory) :=
  match m.weak.target? slot with
  | none => some (none, m)
  | some a => (m.retain a).map fun m => (some a, m)

/-- Gives up a slot. -/
def dropWeak (m : Memory) (slot : SlotId) : Memory := { m with weak := m.weak.drop slot }

end Memory
end Messaging
