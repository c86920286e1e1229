import Messaging.FiniteMap
import Messaging.Value

/-! The heap: live objects by address. An object counts the references to it and is removed with the last
    of them; what an initializer attaches to it stays for life. -/

namespace Messaging

/-- The state that an initializer attaches to an object. -/
inductive Payload
  | text (contents : String)
  | number (n : Int64)
  | exception (name reason : String)
  | port (delegate : SlotId) (timeout : UInt64)
  | callbacks (table : CallbackTable)
  | tally (n : Int64)
deriving DecidableEq

/-- A live object. `weaklyNamed` is set once a weak reference has named it. -/
structure Object where
  cls : ClassId
  count : Nat
  payload : Option Payload
  weaklyNamed : Bool
deriving DecidableEq

/-- The live objects, how many were placed so far, and where the heap starts. -/
structure Heap where
  start : Nat
  objects : FiniteMap Address Object
  placed : Nat

namespace Heap

/-- The heap without objects. -/
def empty (start : Nat) : Heap := ⟨start, .empty, 0⟩

/-- The object at an address. -/
def get? (h : Heap) (a : Address) : Option Object := h.objects.get? a

/-- The address that the next object gets. No two objects of a run share one. -/
def fresh (h : Heap) : Address := ⟨h.start + 0x40 * (h.placed + 1)⟩

/-- Places a new object, with one reference, at an address where none lives. -/
def place (h : Heap) (a : Address) (cls : ClassId) : Heap :=
  { h with objects := h.objects.insert a ⟨cls, 1, none, false⟩, placed := h.placed + 1 }

/-- Changes a live object. -/
def modify? (h : Heap) (a : Address) (change : Object → Object) : Option Heap :=
  (h.get? a).map fun o => { h with objects := h.objects.insert a (change o) }

/-- Removes an object. -/
def remove (h : Heap) (a : Address) : Heap := { h with objects := h.objects.erase a }

@[simp] theorem get?_empty (start : Nat) (a : Address) : (empty start).get? a = none := rfl

theorem get?_place (h : Heap) (a b : Address) (cls : ClassId) :
    (h.place a cls).get? b = if a = b then some ⟨cls, 1, none, false⟩ else h.get? b :=
  FiniteMap.get?_insert _ _ _ _

theorem get?_remove (h : Heap) (a b : Address) : (h.remove a).get? b = if a = b then none else h.get? b :=
  FiniteMap.get?_erase _ _ _

end Heap
end Messaging
