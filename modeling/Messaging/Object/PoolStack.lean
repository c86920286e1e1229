import Messaging.Identity

/-! Pools of objects that are to be released later. The pools of a thread form a stack: one list of
    objects, with a mark where each pool starts. A pool that is given up while others stand above it is
    only retired; its objects go when nothing live is above them. -/

namespace Messaging

/-- Where a pool starts in the list of objects, and whether it is still in use. -/
structure PoolMark where
  start : Nat
  live : Bool
deriving DecidableEq

/-- The pools of a thread, outermost first, with the objects they hold, oldest first. -/
structure PoolStack where
  objects : List Address
  marks : List PoolMark
deriving DecidableEq

namespace PoolStack

/-- The stack without pools. -/
def empty : PoolStack := ⟨[], []⟩

/-- How many pools there are. -/
def depth (s : PoolStack) : Nat := s.marks.length

/-- How many objects the pools hold. -/
def pending (s : PoolStack) : Nat := s.objects.length

/-- Adds a pool. Its token is the depth before. -/
def push (s : PoolStack) : Nat × PoolStack := (s.depth, { s with marks := s.marks ++ [⟨s.pending, true⟩] })

/-- Hands an object to the innermost pool, if there is one. -/
def add? (s : PoolStack) (a : Address) : Option PoolStack :=
  if s.marks.isEmpty then none else some { s with objects := s.objects ++ [a] }

/-- Cuts the stack before the object at `start` and the pool `token`. The objects cut off come newest
    first. -/
def cut (s : PoolStack) (start token : Nat) : List Address × PoolStack :=
  ((s.objects.drop start).reverse, ⟨s.objects.take start, s.marks.take token⟩)

/-- Removes a pool and all above it. An unknown token changes nothing. -/
def pop (s : PoolStack) (token : Nat) : List Address × PoolStack :=
  match s.marks[token]? with
  | none => ([], s)
  | some mark => s.cut mark.start token

/-- Removes the retired pools at the top. -/
def drainRetired (s : PoolStack) : List Address × PoolStack :=
  let kept := s.depth - (s.marks.reverse.takeWhile fun m => !m.live).length
  match s.marks[kept]? with
  | none => ([], s)
  | some mark => s.cut mark.start kept

/-- Gives up a pool, and removes it with the retired ones below it once it is the topmost. -/
def retire (s : PoolStack) (token : Nat) : List Address × PoolStack :=
  match s.marks[token]? with
  | none => ([], s)
  | some _ => drainRetired { s with marks := s.marks.modify token fun m => { m with live := false } }

/-- Whether new objects go to the pool `token`. -/
def isInnermost (s : PoolStack) (token : Nat) : Bool :=
  s.depth == token + 1 && (s.marks[token]?.any PoolMark.live)

end PoolStack
end Messaging
