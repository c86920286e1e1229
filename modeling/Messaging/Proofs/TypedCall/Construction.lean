import Messaging.Proofs.Delivery.Posts
import Messaging.Proofs.TypedCall.Allocation

/-! Two ways to construct an object. The method `new` of the root class allocates an instance and sends `init` to it;
    an allocating call does the same from outside. Both enter the same initializer on the same memory, but only the
    allocating call makes up for what the initializer declares. -/

namespace Messaging
open Exec
open PoolStack (Level objectsOf)

/-- A class with the root class's `alloc` and `new`, and an `init` for its instances. -/
structure Constructible (s : Machine) (cls : ClassId) (newSelector : Selector) (construct allocation init : Method) :
    Prop where
  constructs : (Receiver.cls cls).Finds s newSelector construct
  new : construct.routine = .builtin .new ∧ construct.ownership = .retained
  allocates : (Receiver.cls cls).Finds s (s.selectors.register "alloc").1 allocation
  alloc : allocation.routine = .builtin .alloc
  initializes : (s.classes.lookup cls .ofInstances (s.selectors.register "init").1).1 = some init
  types : construct.signature.accepts .object [] = true ∧ allocation.signature.accepts .object [] = true ∧
    init.signature.accepts .object [] = true

/-- The memory with a new instance, and with a pool of its own for the call that initializes it. -/
def Memory.instantiated (m : Memory) (cls : ClassId) : Memory := { m.place m.heap.fresh cls with pools := m.pools.push.2 }

section
variable {outer inner code : Code} {s e u : Machine} {cls : ClassId} {newSelector : Selector}
  {construct allocation init : Method} {v : Value} {after : Memory} {added : List Address} {opened : List Level}
  {held : Address → Nat}

/-- What the code of the initializer does wherever it is entered on a memory: it returns a value and leaves another
    memory. -/
def Settles (code : Code) (init : Method) (inv : Invocation) (before : Memory) (v : Value) (after : Memory) : Prop :=
  ∀ e : Machine, e.memory = before → ∃ u, (code init.routine inv).outcome e = (.ok v, u) ∧ u.memory = after

/-- The message that initializes a new instance. -/
def initialization (s : Machine) : Invocation :=
  ⟨.object s.memory.heap.fresh, (s.selectors.register "init").1, .object, []⟩

theorem outcome_init_sent (found : (s.classes.lookup cls .ofInstances (s.selectors.register "init").1).1 = some init)
    (accepted : init.signature.accepts .object [] = true)
    (settles : Settles code init (initialization s) (s.memory.instantiated cls) v after)
    (memory : e.memory = s.memory.instantiated cls)
    (classes : ∃ id kind selector, e.classes = (s.classes.lookup id kind selector).2) :
    ∃ u, (send code (.object s.memory.heap.fresh) (s.selectors.register "init").1 .object []).outcome e =
      (.ok (v, init.ownership), u) ∧ u.memory = after := by
  have live : e.memory.get? s.memory.heap.fresh = some ⟨cls, 1, none, false⟩ := by
    rw [memory]
    exact (Memory.get?_place cls).trans (if_pos rfl)
  obtain ⟨id, kind, selector, looked⟩ := classes
  have finds : (Receiver.object s.memory.heap.fresh).Finds e (s.selectors.register "init").1 init := by
    refine ⟨_, live, ?_⟩
    rw [looked, ClassTable.lookup_lookup]
    exact found
  obtain ⟨u, ran, left⟩ := settles ((Receiver.object s.memory.heap.fresh).entered (s.selectors.register "init").1 e)
    ((memory_entered finds).trans memory)
  have sent : (send code (.object s.memory.heap.fresh) (s.selectors.register "init").1 .object []).outcome e = _ :=
    outcome_send code finds accepted
  rw [show (⟨.object s.memory.heap.fresh, (s.selectors.register "init").1, .object, []⟩ : Invocation) =
    initialization s from rfl, ran] at sent
  exact ⟨u, sent, left⟩

/-! ### From inside -/

/-- The code of `new` drops what the initializer declares. -/
theorem outcome_new (class_ : Constructible s cls newSelector construct allocation init)
    (settles : Settles inner init (initialization s) (s.memory.instantiated cls) v after)
    (memory : e.memory = { s.memory with pools := s.memory.pools.push.2 }) (selectors : e.selectors = s.selectors)
    (classes : ∃ id kind selector, e.classes = (s.classes.lookup id kind selector).2) :
    ∃ u, (BuiltinRoutine.run inner .new ⟨.cls cls, newSelector, .object, []⟩).outcome e = (.ok v, u) ∧
      u.memory = after := by
  obtain ⟨journal, made⟩ := outcome_alloc (s := e) cls
  rw [memory] at made
  obtain ⟨u, sent, left⟩ := outcome_init_sent
    (e := { e with memory := s.memory.instantiated cls, journal, selectors := (e.selectors.register "init").2 })
    class_.initializes class_.types.2.2 settles rfl classes
  refine ⟨u, ?_, left⟩
  refine (outcome_bind_ok (outcome_pure cls)).trans ((outcome_bind_ok made).trans ?_)
  have interned : (intern "init").outcome { e with memory := s.memory.instantiated cls, journal } =
      (.ok (s.selectors.register "init").1,
        { e with memory := s.memory.instantiated cls, journal, selectors := (e.selectors.register "init").2 }) := by
    rw [← selectors]
    rfl
  refine (outcome_bind_ok interned).trans ?_
  exact outcome_bind_ok sent

theorem outcome_new_sent (ties : Delivery.Ties outer inner)
    (class_ : Constructible s cls newSelector construct allocation init)
    (settles : Settles inner init (initialization s) (s.memory.instantiated cls) v after) :
    ∃ u, (sendAdopting outer (.cls cls) newSelector [] .retained).outcome
        { s with memory := { s.memory with pools := s.memory.pools.push.2 } } = (.ok v.object?, u) ∧ u.memory = after := by
  have finds : (Receiver.cls cls).Finds { s with memory := { s.memory with pools := s.memory.pools.push.2 } } newSelector
    construct := class_.constructs.congr rfl rfl
  have memory := memory_entered finds
  obtain ⟨_, id, kind, classes, rfl, entered, -⟩ := entered_eq finds
  obtain ⟨u, ran, left⟩ := outcome_new class_ settles memory (by rw [entered]) ⟨id, kind, newSelector, by rw [entered]⟩
  have sent : (send outer (.cls cls) newSelector .object []).outcome _ = _ := outcome_send outer finds class_.types.1
  rw [class_.new.1, ties, ran, class_.new.2] at sent
  refine ⟨u, ?_, left⟩
  unfold sendAdopting
  rw [outcome_bind_ok sent]
  dsimp only
  cases v.object? with
  | none => rfl
  | some a => exact outcome_bind_ok (outcome_pure ())

/-- The result of `new` carries what the initializer declared and no more, and the pool of the call is given up. -/
theorem outcome_construct (ties : Delivery.Ties outer inner) (settled : s.memory.pools.Settled)
    (class_ : Constructible s cls newSelector construct allocation init)
    (settles : Settles inner init (initialization s) (s.memory.instantiated cls) v after)
    (left : Honours init.ownership (s.memory.instantiated cls) after v.object? added opened held) :
    ∃ t, (classCallObject outer (some cls) newSelector [] .retained).outcome s = (.ok v.object?, t) ∧
      t.memory.pools = s.memory.pools.under (PoolStack.kept added opened) ∧
      t.memory.Accounts fun b =>
        held b + (carried init.ownership v.object?).count b + (objectsOf (PoolStack.kept added opened)).count b := by
  obtain ⟨u, sent, rfl⟩ := outcome_new_sent ties class_ settles
  have carries : u.memory.Accounts fun b =>
      held b + (carried init.ownership v.object?).count b + added.count b + (objectsOf opened).count b :=
    left.accounts.congr fun b => by omega
  obtain ⟨t, called, pools, accounts⟩ := outcome_sendObject_drained settled sent left.pools carries
  exact ⟨t, (outcome_bind_ok (outcome_pure cls)).trans called, pools, accounts⟩

/-! ### From outside -/

theorem outcome_built_alloc (inner : Code) (cls : ClassId) (selector : Selector) (memory : e.memory = s.memory) : ∃ journal,
    (BuiltinRoutine.run inner .alloc ⟨.cls cls, selector, .object, []⟩).outcome e =
      (.ok (.object (some s.memory.heap.fresh)),
        { e with memory := s.memory.place s.memory.heap.fresh cls, journal }) := by
  obtain ⟨journal, made⟩ := outcome_alloc (s := e) cls
  rw [memory] at made
  exact ⟨journal, (outcome_bind_ok (outcome_pure cls)).trans ((outcome_bind_ok made).trans (outcome_pure _))⟩

/-- The result of an allocating call has one reference that the caller owns, and the pool of the call is given up. -/
theorem outcome_allocInit_builtin {table : SymbolTable} (ties : Delivery.Ties outer inner)
    (settled : s.memory.pools.Settled) (resolved : s.setup.symbols.get? baseSymbolList.title = some table)
    (class_ : Constructible s cls newSelector construct allocation init)
    (settles : Settles outer init (initialization s) (s.memory.instantiated cls) v after)
    (left : Honours init.ownership (s.memory.instantiated cls) after v.object? added opened held) :
    ∃ t, (allocInit outer (some cls) (s.selectors.register "init").1 []).outcome s = (.ok v.object?, t) ∧
      t.memory.pools = s.memory.pools.under (PoolStack.kept added opened) ∧
      t.memory.Accounts fun b =>
        held b + v.object?.toList.count b + (objectsOf (PoolStack.kept added opened)).count b := by
  have asked := outcome_baseSelector resolved "alloc"
  have finds : (Receiver.cls cls).Finds { s with selectors := (s.selectors.register "alloc").2 }
    (s.selectors.register "alloc").1 allocation := class_.allocates.congr rfl rfl
  have memory := memory_entered finds
  obtain ⟨_, id, kind, classes, rfl, entered, -⟩ := entered_eq finds
  obtain ⟨journal, ran⟩ := outcome_built_alloc inner cls (s.selectors.register "alloc").1 memory
  rw [← ties, ← class_.alloc] at ran
  -- The pool of the call is pushed after the allocation here, and before it in `new`; the memory is the same.
  obtain ⟨u, sent, rfl⟩ := outcome_init_sent class_.initializes class_.types.2.2 settles
    (e := { (Receiver.cls cls).entered (s.selectors.register "alloc").1
      { s with selectors := (s.selectors.register "alloc").2 } with memory := s.memory.instantiated cls, journal })
    rfl ⟨id, kind, (s.selectors.register "alloc").1, by rw [entered]⟩
  rw [outcome_alloc_sent asked finds class_.types.2.1 ran]
  exact outcome_sendObject_retained settled sent left

/-- Take a class with the root class's `alloc` and `new`, and any initializer that keeps to its ownership and does the same
    wherever it is entered. A call of `new` and an allocating call give the same result and leave the same pools: those
    that were there, with what is left of the initializer's own if one of these is in use. The allocating call gives a
    reference of the caller's own. The call of `new` gives what the initializer declared: the same where that is
    retained, and a reference less where it is not. -/
theorem new_gives_what_init_declares {table : SymbolTable} (ties : Delivery.Ties outer inner)
    (settled : s.memory.pools.Settled) (resolved : s.setup.symbols.get? baseSymbolList.title = some table)
    (class_ : Constructible s cls newSelector construct allocation init)
    (settles : ∀ code ∈ [outer, inner], Settles code init (initialization s) (s.memory.instantiated cls) v after)
    (left : Honours init.ownership (s.memory.instantiated cls) after v.object? added opened held) :
    ∃ t t', (classCallObject outer (some cls) newSelector [] .retained).outcome s = (.ok v.object?, t) ∧
      (allocInit outer (some cls) (s.selectors.register "init").1 []).outcome s = (.ok v.object?, t') ∧
      t.memory.pools = s.memory.pools.under (PoolStack.kept added opened) ∧ t'.memory.pools = t.memory.pools ∧
      (t.memory.pools = s.memory.pools ↔ ∀ l ∈ opened, l.live = false) ∧
      (t.memory.Accounts fun b =>
        held b + (carried init.ownership v.object?).count b + (objectsOf (PoolStack.kept added opened)).count b) ∧
      (t'.memory.Accounts fun b =>
        held b + v.object?.toList.count b + (objectsOf (PoolStack.kept added opened)).count b) ∧
      ∀ b, t.memory.count b + (if init.ownership = .notRetained then v.object?.toList.count b else 0) =
        t'.memory.count b := by
  obtain ⟨t, constructed, pools, accounts⟩ := outcome_construct ties settled class_ (settles inner (by simp)) left
  obtain ⟨t', allocated, pools', accounts'⟩ :=
    outcome_allocInit_builtin ties settled resolved class_ (settles outer (by simp)) left
  refine ⟨t, t', constructed, allocated, pools, pools'.trans pools.symm, ?_, accounts, accounts', fun b => ?_⟩
  · rw [pools, PoolStack.under_eq_self, PoolStack.kept_eq_nil]
  · rw [accounts.count, accounts'.count]
    cases init.ownership <;> simp [carried]
    omega

end

/-! ### An initializer that pools its receiver -/

namespace Unowned
open Lone (it)

def allocating : Selector := (SelectorTable.empty.register "alloc").1

def initializing : Selector := (SelectorTable.empty.register "init").1

def creating : Selector := ⟨1, "new", 0⟩

def construct : Method := ⟨creating, .builtin .new, ⟨.object, .cls, []⟩, .retained⟩

def allocation : Method := ⟨allocating, .builtin .alloc, ⟨.object, .cls, []⟩, .retained⟩

/-- The initializer says that it keeps what it was given. -/
def init : Method := ⟨initializing, .sample .itself, ⟨.object, .object, []⟩, .notRetained⟩

def inner : Code := fun _ _ => do
  autorelease it
  pure (.object (some it))

def outer : Code := fun routine inv =>
  match routine with
  | .builtin r => r.run inner inv
  | _ => inner routine inv

def machine : Machine :=
  { Machine.fresh 0 none (.fresh false false) with
    classes := ⟨[{ ClassEntry.fresh ⟨0⟩ "Thing" none with
      classMethods := (FiniteMap.empty.insert allocating allocation).insert creating construct
      instanceMethods := FiniteMap.empty.insert initializing init }], 1⟩
    setup := ⟨none, true, none, none, FiniteMap.empty.insert "BaseSymbols" ⟨"BaseSymbols", [], []⟩⟩ }

theorem creating_ne : creating ≠ allocating := by
  have serial : allocating.serial = 0 := by
    simp [allocating, SelectorTable.register, SelectorTable.lookup?, SelectorTable.shard, SelectorTable.empty]
  intro same
  rw [← same] at serial
  cases serial

theorem constructible : Constructible machine ⟨0⟩ creating construct allocation init where
  constructs := by
    show (ClassTable.lookup _ _ _ _).1 = _
    simp [machine, ClassTable.lookup, ClassTable.remembered?, ClassTable.resolve?, ClassTable.chain, ClassTable.chainFrom,
      ClassTable.get?, ClassEntry.fresh, ClassEntry.methods]
  new := ⟨rfl, rfl⟩
  allocates := by
    show (ClassTable.lookup machine.classes ⟨0⟩ .ofClass allocating).1 = _
    simp [machine, ClassTable.lookup, ClassTable.remembered?, ClassTable.resolve?, ClassTable.chain, ClassTable.chainFrom,
      ClassTable.get?, ClassEntry.fresh, ClassEntry.methods, FiniteMap.get?_insert, creating_ne]
  alloc := rfl
  initializes := by
    show (ClassTable.lookup machine.classes ⟨0⟩ .ofInstances initializing).1 = _
    simp [machine, ClassTable.lookup, ClassTable.remembered?, ClassTable.resolve?, ClassTable.chain, ClassTable.chainFrom,
      ClassTable.get?, ClassEntry.fresh, ClassEntry.methods]
  types := ⟨rfl, rfl, rfl⟩

theorem ties : Delivery.Ties outer inner := fun _ _ => rfl

theorem settled : machine.memory.pools.Settled := fun _ top => nomatch top

theorem settles : ∀ code ∈ [outer, inner], Settles code init (initialization machine) (machine.memory.instantiated ⟨0⟩)
    (.object (some it)) Borrowed.allocated := by
  intro code mem e memory
  have same : code init.routine (initialization machine) = inner init.routine (initialization machine) := by
    rcases List.mem_cons.mp mem with rfl | mem
    · rfl
    · rw [List.mem_singleton.mp mem]
  have added : e.memory.pools.add? it = some ⟨[it], [⟨0, true⟩]⟩ := by rw [memory]; rfl
  have after : { e.memory with pools := ⟨[it], [⟨0, true⟩]⟩ } = Borrowed.allocated := by rw [memory]; rfl
  rw [same]
  exact ⟨_, (outcome_bind_ok (outcome_autorelease added)).trans (outcome_pure _), after⟩

theorem resolved : machine.setup.symbols.get? baseSymbolList.title = some ⟨"BaseSymbols", [], []⟩ :=
  FiniteMap.get?_insert_self _ _ _

theorem left : Honours init.ownership (machine.memory.instantiated ⟨0⟩) Borrowed.allocated (some it) [it] [] fun _ => 0 :=
  ⟨rfl, Borrowed.left.accounts, Borrowed.left.alive⟩

end Unowned

open Unowned Lone in
/-- The caller of `new` is left with a freed object, the allocating caller with its own. -/
theorem pooling_init_leaves_a_freed_object : machine.memory.pools.Settled ∧
    ∃ t t', (classCallObject outer (some ⟨0⟩) creating [] .retained).outcome machine = (.ok (some it), t) ∧
      (allocInit outer (some ⟨0⟩) initializing []).outcome machine = (.ok (some it), t') ∧
      t.memory.count it = 0 ∧ t'.memory.count it = 1 := by
  obtain ⟨t, t', constructed, allocated, -, -, -, accounts, accounts', -⟩ :=
    new_gives_what_init_declares ties settled resolved constructible settles left
  exact ⟨settled, t, t', constructed, allocated, accounts.count it, accounts'.count it⟩

open Unowned Lone in
/-- A call of `new` does not always leave the caller what an allocating call does. -/
theorem new_differs_from_an_allocating_call :
    ¬∀ (outer inner : Code) (s t t' : Machine) (table : SymbolTable) (cls : ClassId) (newSelector : Selector)
        (construct allocation init : Method) (v : Value) (after : Memory) (added : List Address) (held : Address → Nat),
      Delivery.Ties outer inner → s.memory.pools.Settled →
      s.setup.symbols.get? baseSymbolList.title = some table →
      Constructible s cls newSelector construct allocation init →
      (∀ code ∈ [outer, inner], Settles code init (initialization s) (s.memory.instantiated cls) v after) →
      Honours init.ownership (s.memory.instantiated cls) after v.object? added [] held →
      (classCallObject outer (some cls) newSelector [] .retained).outcome s = (.ok v.object?, t) →
      (allocInit outer (some cls) (s.selectors.register "init").1 []).outcome s = (.ok v.object?, t') →
      ∀ b, t.memory.count b = t'.memory.count b := by
  intro agree
  obtain ⟨t, constructed, -, accounts⟩ := outcome_construct ties settled constructible (settles inner (by simp)) left
  obtain ⟨t', allocated, -, accounts'⟩ :=
    outcome_allocInit_builtin ties settled resolved constructible (settles outer (by simp)) left
  have same := agree outer inner machine t t' _ ⟨0⟩ creating construct allocation init _ _ _ _ ties settled resolved
    constructible settles left constructed allocated it
  rw [accounts.count, accounts'.count] at same
  cases same

end Messaging
