import Messaging.FiniteMap
import Messaging.Identity

/-! Weak references. A slot may name an object; the table knows, for each object, the slots that name it,
    so that they can be cleared when the object goes. -/

namespace Messaging

/-- The slots and the objects they name. A slot that names nothing has no target. -/
structure WeakTable where
  targets : FiniteMap SlotId Address
  namers : FiniteMap Address (List SlotId)
  made : Nat

namespace WeakTable

/-- The table without slots. -/
def empty : WeakTable := ⟨.empty, .empty, 0⟩

/-- A new slot, which names nothing. -/
def fresh (t : WeakTable) : SlotId × WeakTable := (⟨t.made⟩, { t with made := t.made + 1 })

/-- The object that a slot names. -/
def target? (t : WeakTable) (slot : SlotId) : Option Address := t.targets.get? slot

/-- The slots that name an object. -/
def namersOf (t : WeakTable) (a : Address) : List SlotId := (t.namers.get? a).getD []

/-- Takes a slot off the list of the object that it names. A list without slots is removed. -/
def unlist (t : WeakTable) (slot : SlotId) : WeakTable :=
  match t.target? slot with
  | none => t
  | some a =>
    match t.namers.get? a with
    | none => t
    | some slots =>
      let rest := slots.filter fun s => decide (s ≠ slot)
      { t with namers := if rest.isEmpty then t.namers.erase a else t.namers.insert a rest }

/-- Points a slot at an object, or at nothing. -/
def store (t : WeakTable) (slot : SlotId) (target : Option Address) : WeakTable :=
  let t := t.unlist slot
  match target with
  | none => { t with targets := t.targets.erase slot }
  | some a =>
    { t with targets := t.targets.insert slot a, namers := t.namers.insert a (t.namersOf a ++ [slot]) }

/-- Gives up a slot. -/
def drop (t : WeakTable) (slot : SlotId) : WeakTable := t.store slot none

/-- Clears every slot that names an object. -/
def clear (t : WeakTable) (a : Address) : WeakTable :=
  { t with targets := (t.namersOf a).foldl FiniteMap.erase t.targets, namers := t.namers.erase a }

end WeakTable
end Messaging
