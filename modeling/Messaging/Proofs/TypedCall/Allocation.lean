import Messaging.Proofs.Class.Lookups
import Messaging.Proofs.TypedCall.Reconciliation
import Messaging.Proofs.TypedCall.Symbols

/-! Allocating calls. An object is allocated by one message and initialized by another, and each of the two methods
    declares what it returns. A call makes up for what the initializer declares, but not for what the allocation
    declares: the reference that the initializer consumes is taken to be the caller's, also where it is not. -/

namespace Messaging
open Exec
open PoolStack (Level objectsOf)

/-- An initializer that keeps to its ownership, called on an object with a pool of its own. It consumes one reference
    to its receiver, and may leave references of its own, `kept`, with others. -/
structure Initializes (code : Code) (selector : Selector) (args : List Value) (s : Machine) (a : Address) (init : Method)
    (v : Value) (u : Machine) (added : List Address) (opened : List Level) (kept : List Address) (held : Address → Nat) :
    Prop where
  found : (Receiver.object a).Finds s selector init
  accepted : init.signature.accepts .object (args.map Value.code) = true
  ran : (code init.routine ⟨.object a, selector, .object, args⟩).outcome
    ((Receiver.object a).entered selector { s with memory := { s.memory with pools := s.memory.pools.push.2 } }) = (.ok v, u)
  left : Honours init.ownership { s.memory with pools := s.memory.pools.push.2 } u.memory v.object? added opened held
  consumed : ∀ b, held b + [a].count b = s.memory.count b + kept.count b

section
variable {code : Code} {cls : ClassId} {allocSelector selector : Selector} {args : List Value} {s s' t u : Machine}
  {method init : Method} {v w : Value} {a : Address} {added pooled kept : List Address} {opened pushed : List Level}
  {held rest : Address → Nat}

/-- Adding objects to the innermost pool settles or unsettles nothing, and neither do pools on top of which one is in
    use. -/
theorem settled_of_left {native : Ownership} {before after : Memory} {result : Option Address}
    (settled : before.pools.Settled) (top : ∀ l ∈ opened.getLast?, l.live = true)
    (left : Honours native before after result added opened held) : after.pools.Settled := by
  rw [left.pools, PoolStack.settled_under]
  exact ⟨top, fun _ => settled⟩

/-- An initializer on an object, whatever its ownership: the caller owns one reference to the result, and the pool of
    the call is given up. -/
theorem outcome_initialize (settled : s.memory.pools.Settled)
    (initializes : Initializes code selector args s a init v u added opened kept held) :
    ∃ t, (sendObject code (.object a) selector args .retained).outcome s = (.ok v.object?, t) ∧
      t.memory.pools = s.memory.pools.under (PoolStack.kept added opened) ∧
      t.memory.Accounts fun b => held b + v.object?.toList.count b + (objectsOf (PoolStack.kept added opened)).count b := by
  have sent := outcome_send code (initializes.found.congr
    (t := { s with memory := { s.memory with pools := s.memory.pools.push.2 } }) rfl rfl) initializes.accepted
  rw [initializes.ran] at sent
  exact outcome_sendObject_retained settled sent initializes.left

theorem memory_asked {name : String} (asked : (baseSelector name).outcome s = (.ok allocSelector, s')) :
    s'.memory = s.memory := by
  have kept := keeps_baseSelector name s
  rwa [asked] at kept

/-- The allocating message goes to the class once its selector is known. -/
theorem outcome_alloc_sent (asked : (baseSelector "alloc").outcome s = (.ok allocSelector, s'))
    (found : (Receiver.cls cls).Finds s' allocSelector method) (accepted : method.signature.accepts .object [] = true)
    (ran : (code method.routine ⟨.cls cls, allocSelector, .object, []⟩).outcome
      ((Receiver.cls cls).entered allocSelector s') = (.ok v, u)) :
    (allocInit code (some cls) selector args).outcome s = (match v.object? with
      | none => (pure none : Exec (Option Address)).outcome u
      | some a => (sendObject code (.object a) selector args .retained).outcome u) := by
  have sent : (send code (.cls cls) allocSelector .object []).outcome s' = _ := outcome_send code found accepted
  rw [ran] at sent
  unfold allocInit
  refine (outcome_bind_ok (outcome_pure cls)).trans ?_
  rw [outcome_bind_ok asked, outcome_bind_ok sent]
  dsimp only
  cases v.object? <;> rfl

/-- An allocation of nil is the result of the call. -/
theorem outcome_allocInit_nil (selector : Selector) (args : List Value)
    (asked : (baseSelector "alloc").outcome s = (.ok allocSelector, s'))
    (found : (Receiver.cls cls).Finds s' allocSelector method) (accepted : method.signature.accepts .object [] = true)
    (ran : (code method.routine ⟨.cls cls, allocSelector, .object, []⟩).outcome
      ((Receiver.cls cls).entered allocSelector s') = (.ok v, u)) (nil : v.object? = none) :
    (allocInit code (some cls) selector args).outcome s = (.ok none, u) := by
  rw [outcome_alloc_sent asked found accepted ran, nil, outcome_pure]

/-- What the allocation carried for its receiver is what the initializer consumes, so the call is short of one
    reference where the allocation carried none. -/
theorem outcome_allocInit_some (settled : s.memory.pools.Settled) (top : ∀ l ∈ opened.getLast?, l.live = true)
    (asked : (baseSelector "alloc").outcome s = (.ok allocSelector, s'))
    (found : (Receiver.cls cls).Finds s' allocSelector method) (accepted : method.signature.accepts .object [] = true)
    (ran : (code method.routine ⟨.cls cls, allocSelector, .object, []⟩).outcome
      ((Receiver.cls cls).entered allocSelector s') = (.ok v, u))
    (left : Honours method.ownership s'.memory u.memory v.object? added opened held) (made : v.object? = some a)
    (initializes : Initializes code selector args u a init w t pooled pushed kept rest) :
    ∃ t, (allocInit code (some cls) selector args).outcome s = (.ok w.object?, t) ∧
      t.memory.pools = ((s.memory.pools.given added).under opened).under (PoolStack.kept pooled pushed) ∧
      (t.memory.Accounts fun b => rest b + w.object?.toList.count b + (objectsOf (PoolStack.kept pooled pushed)).count b) ∧
      ∀ b, t.memory.count b + (if method.ownership = .notRetained then [a].count b else 0) =
        held b + added.count b + (objectsOf opened).count b + (objectsOf (PoolStack.kept pooled pushed)).count b +
          kept.count b + w.object?.toList.count b := by
  rw [memory_asked asked] at left
  obtain ⟨t, called, pools, accounts⟩ := outcome_initialize (settled_of_left settled top left) initializes
  refine ⟨t, ?_, by rw [pools, left.pools], accounts, fun b => ?_⟩
  · rw [outcome_alloc_sent asked found accepted ran, made]
    exact called
  · have carries := left.accounts.count b
    have consumed := initializes.consumed b
    rw [made] at carries
    rw [accounts.count]
    cases native : method.ownership with
    | retained =>
      simp only [native, carried, Option.toList_some] at carries
      simp only [reduceCtorEq, if_false]
      omega
    | notRetained =>
      simp only [native, carried, List.count_nil] at carries
      simp only [if_true]
      omega

/-- Take an allocation and an initializer that keep to their ownerships, whichever those are; the allocation leaves no
    pools of its own, or one in use on top. The call gives nil exactly if one of the two does, and the pools hold what
    they held before, what the allocation put there, and what either left in pools of its own. The result lives, and
    every count is made up of what others hold, what the pools hold and one reference of the caller, except that an
    allocation whose result is not retained leaves its object one short: nobody made up for the reference that the
    initializer consumed. -/
theorem allocations_are_short_of_what_they_borrow (settled : s.memory.pools.Settled)
    (top : ∀ l ∈ opened.getLast?, l.live = true)
    (asked : (baseSelector "alloc").outcome s = (.ok allocSelector, s'))
    (found : (Receiver.cls cls).Finds s' allocSelector method) (accepted : method.signature.accepts .object [] = true)
    (ran : (code method.routine ⟨.cls cls, allocSelector, .object, []⟩).outcome
      ((Receiver.cls cls).entered allocSelector s') = (.ok v, u))
    (left : Honours method.ownership s'.memory u.memory v.object? added opened held)
    (initializes : ∀ a, v.object? = some a → Initializes code selector args u a init w t pooled pushed kept rest) :
    ∃ t, (allocInit code (some cls) selector args).outcome s = (.ok (v.object?.bind fun _ => w.object?), t) ∧
      (catchThrown (allocInit code (some cls) selector args)).outcome s =
        (.ok (.ok (v.object?.bind fun _ => w.object?)), t) ∧
      match v.object? with
      | none => t.memory = u.memory ∧ t.memory.pools = (s.memory.pools.given added).under opened
      | some a => t.memory.pools = ((s.memory.pools.given added).under opened).under (PoolStack.kept pooled pushed) ∧
        (∀ b, w.object? = some b → (t.memory.get? b).isSome) ∧
        ∀ b, t.memory.count b + (if method.ownership = .notRetained then [a].count b else 0) =
          held b + added.count b + (objectsOf opened).count b + (objectsOf (PoolStack.kept pooled pushed)).count b +
            kept.count b + w.object?.toList.count b := by
  cases made : v.object? with
  | none =>
    have called := outcome_allocInit_nil selector args asked found accepted ran made
    rw [memory_asked asked] at left
    exact ⟨u, called, outcome_catchThrown_ok called, rfl, left.pools⟩
  | some a =>
    obtain ⟨t, called, pools, accounts, counts⟩ :=
      outcome_allocInit_some settled top asked found accepted ran left made (initializes a made)
    refine ⟨t, called, outcome_catchThrown_ok called, pools, fun b result => ?_, counts⟩
    rw [accounts.isSome_iff, result]
    simp only [Option.toList_some, List.count_singleton_self]
    omega

end

/-! ### An allocation that keeps its object -/

namespace Borrowed
open Lone (it twin)

def allocating : Selector := (SelectorTable.empty.register "alloc").1

/-- The allocation puts its object into the innermost pool, and says so. -/
def allocation : Method := ⟨allocating, .sample .makeChild, ⟨.object, .cls, []⟩, .notRetained⟩

/-- The initializer hands on the reference that it is given. -/
def initializer : Method := ⟨twin, .sample .itself, ⟨.object, .object, []⟩, .retained⟩

def routines : Code := fun routine inv =>
  match routine with
  | .sample .makeChild => do
    let a ← alloc ⟨0⟩
    autorelease a
    pure (.object (some a))
  | _ => pure (.object inv.this.object?)

/-- A machine with one class and one pool, and with its symbols resolved. -/
def machine : Machine :=
  { Machine.fresh 0 none (.fresh false false) with
    classes := ⟨[{ ClassEntry.fresh ⟨0⟩ "Thing" none with
      classMethods := FiniteMap.empty.insert allocating allocation
      instanceMethods := FiniteMap.empty.insert twin initializer }], 1⟩
    memory := { Memory.empty 0 with pools := PoolStack.empty.push.2 }
    setup := ⟨none, true, none, none, FiniteMap.empty.insert "BaseSymbols" ⟨"BaseSymbols", [], []⟩⟩ }

def asked : Machine := { machine with selectors := (machine.selectors.register "alloc").2 }

/-- The memory after the allocation: the pool has the one reference. -/
def allocated : Memory := { (Memory.empty 0).place it ⟨0⟩ with pools := ⟨[it], [⟨0, true⟩]⟩ }

theorem outcome_asked : (baseSelector "alloc").outcome machine = (.ok allocating, asked) :=
  outcome_baseSelector (FiniteMap.get?_insert_self _ _ _) "alloc"

theorem finds : (Receiver.cls ⟨0⟩).Finds asked allocating allocation := by
  show (ClassTable.lookup _ _ _ _).1 = _
  simp [asked, machine, ClassTable.lookup, ClassTable.remembered?, ClassTable.resolve?, ClassTable.chain,
    ClassTable.chainFrom, ClassTable.get?, ClassEntry.fresh, ClassEntry.methods]

theorem accounts : allocated.Accounts fun b => [it].count b := by
  have empty : (Memory.empty 0).Accounts fun _ => 0 := ⟨fun _ => rfl, fun _ _ live => nomatch live⟩
  exact ((empty.place (a := it) rfl ⟨0⟩).setPools _).congr fun b => Nat.zero_add _

theorem outcome_pooling {e : Machine} (memory : e.memory = machine.memory) (inv : Invocation) : ∃ journal,
    (routines allocation.routine inv).outcome e = (.ok (.object (some it)), { e with memory := allocated, journal }) := by
  obtain ⟨journal, made⟩ := outcome_alloc (s := e) ⟨0⟩
  have placed : e.memory.heap.fresh = it := by rw [memory]; rfl
  have added : (e.memory.place it ⟨0⟩).pools.add? it = some ⟨[it], [⟨0, true⟩]⟩ := by rw [memory]; rfl
  have after : { e.memory.place it ⟨0⟩ with pools := ⟨[it], [⟨0, true⟩]⟩ } = allocated := by rw [memory]; rfl
  rw [placed] at made
  refine ⟨journal, (outcome_bind_ok made).trans ?_⟩
  rw [outcome_bind_ok (outcome_autorelease (s := { e with memory := e.memory.place it ⟨0⟩, journal }) added), ← after]
  rfl

theorem allocates : ∃ u, (routines allocation.routine ⟨.cls ⟨0⟩, allocating, .object, []⟩).outcome
      ((Receiver.cls ⟨0⟩).entered allocating asked) = (.ok (.object (some it)), u) ∧ u.memory = allocated ∧
    (Receiver.object it).Finds u twin initializer := by
  have kept := memory_entered finds
  obtain ⟨journal, made⟩ := outcome_pooling (e := (Receiver.cls ⟨0⟩).entered allocating asked) kept
    ⟨.cls ⟨0⟩, allocating, .object, []⟩
  have live : allocated.get? it = some ⟨⟨0⟩, 1, none, false⟩ := rfl
  refine ⟨_, made, rfl, _, live, ?_⟩
  obtain ⟨_, id, kind, classes, rfl, entered, -⟩ := entered_eq finds
  rw [entered, ClassTable.lookup_lookup]
  rfl

theorem left : Honours .notRetained machine.memory allocated (some it) [it] [] fun _ => 0 := by
  refine ⟨rfl, accounts.congr fun b => ?_, fun _ a same => ?_⟩
  · simp [carried]
  · obtain rfl := Option.mem_some.mp same
    decide

theorem initializes {u : Machine} (memory : u.memory = allocated) (finds : (Receiver.object it).Finds u twin initializer) :
    ∃ t, Initializes routines twin [] u it initializer (.object (some it)) t [] [] [] fun _ => 0 := by
  have finds' := finds.congr (t := { u with memory := { u.memory with pools := u.memory.pools.push.2 } }) rfl rfl
  refine ⟨_, finds, rfl, rfl, ?_, fun b => ?_⟩
  · rw [memory_entered finds', memory]
    exact ⟨rfl, (accounts.setPools _).congr fun b => by simp [carried, initializer, Value.object?], nofun⟩
  · rw [memory, accounts.count]
    simp

theorem settled : machine.memory.pools.Settled := fun mark top => by cases top; rfl

end Borrowed

open Borrowed Lone in
/-- The pool and the caller share one reference. -/
theorem pooled_allocation_has_one_reference : machine.memory.pools.Settled ∧
    ∃ t, (allocInit routines (some ⟨0⟩) twin []).outcome machine = (.ok (some it), t) ∧
      t.memory.pools = ⟨[it], [⟨0, true⟩]⟩ ∧ t.memory.count it = 1 := by
  obtain ⟨u, ran, memory, found⟩ := allocates
  obtain ⟨w, initialized⟩ := initializes memory found
  obtain ⟨t, called, -, pools, -, counts⟩ := allocations_are_short_of_what_they_borrow
    settled (by simp) outcome_asked Borrowed.finds rfl ran (memory ▸ left) fun a made => by
      obtain rfl := Option.some.inj made
      exact initialized
  exact ⟨settled, t, called, pools, Nat.add_right_cancel (counts it)⟩

open Borrowed Lone in
/-- The result does not always come with a reference that only the caller owns. -/
theorem allocations_are_not_always_owned :
    ¬∀ (code : Code) (cls : ClassId) (allocSelector selector : Selector) (args : List Value) (method init : Method)
        (s s' u w t : Machine) (v x : Value) (a : Address) (added pooled kept : List Address) (held rest : Address → Nat),
      s.memory.pools.Settled → (baseSelector "alloc").outcome s = (.ok allocSelector, s') →
      (Receiver.cls cls).Finds s' allocSelector method → method.signature.accepts .object [] = true →
      (code method.routine ⟨.cls cls, allocSelector, .object, []⟩).outcome ((Receiver.cls cls).entered allocSelector s') =
        (.ok v, u) →
      Honours method.ownership s'.memory u.memory v.object? added [] held → v.object? = some a →
      Initializes code selector args u a init x w pooled [] kept rest →
      (allocInit code (some cls) selector args).outcome s = (.ok x.object?, t) →
      ∀ b, t.memory.count b = held b + added.count b + kept.count b + x.object?.toList.count b := by
  intro owned
  obtain ⟨u, ran, memory, found⟩ := allocates
  obtain ⟨w, initialized⟩ := initializes memory found
  obtain ⟨t, called, pools, accounts, -⟩ :=
    outcome_allocInit_some settled (by simp) outcome_asked Borrowed.finds rfl ran (memory ▸ left) rfl initialized
  have counts := owned routines ⟨0⟩ allocating twin [] allocation initializer machine asked u w t (.object (some it))
    (.object (some it)) it [it] [] [] (fun _ => 0) (fun _ => 0) settled outcome_asked Borrowed.finds rfl ran (memory ▸ left)
    rfl initialized called it
  rw [accounts.count] at counts
  cases counts

end Messaging
