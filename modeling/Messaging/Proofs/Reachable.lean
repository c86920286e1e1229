import Messaging.Proofs.Class.Resolution
import Messaging.Proofs.Frame
import Messaging.Proofs.Memory.Balance

/-! Reachable machines. Whatever a program does comes down to a few operations, in any order. On every machine that
    they lead to, superclasses are older than their subclasses, what a class remembers is what the walk along its
    chain finds, and no object lives where the next one will be placed. -/

namespace Messaging
open Exec

/-- The journal, the client, what was set up, and the pools when another thread takes over, may change freely. -/
inductive Operation
  | createClass (name : String) (superclass : Option ClassId)
  | insertMethod (id : ClassId) (kind : MethodKind) (m : Method)
  | lookupMethod (id : ClassId) (kind : MethodKind) (selector : Selector)
  | createProtocol (name : String)
  | require (id : ProtocolId) (selector : Selector)
  | adoptProtocol (id : ClassId) (p : ProtocolId)
  | intern (name : String)
  | alloc (cls : ClassId)
  | retain (a : Address)
  | release (a : Address)
  | attach (a : Address) (p : Payload)
  | setPayload (a : Address) (p : Payload)
  | newSlot
  | storeWeak (slot : SlotId) (target : Option Address)
  | loadWeak (slot : SlotId)
  | dropWeak (slot : SlotId)
  | pushPool
  | popPool (token : Nat)
  | retirePool (token : Nat)
  | autorelease (a : Address)
  | setPools (pools : PoolStack)
  | setUp (change : Setup → Setup)
  | modifyClient (change : Client → Client)
  | modifyJournal (change : Log.Journal → Log.Journal)

namespace Operation

def run : Operation → Exec Unit
  | createClass name superclass => do let _ ← Messaging.createClass name superclass
  | insertMethod id kind m => do let _ ← Messaging.insertMethod id kind m
  | lookupMethod id kind selector => do let _ ← Messaging.lookupMethod id kind selector
  | createProtocol name => do let _ ← Messaging.createProtocol name
  | require id selector => Messaging.require id selector
  | adoptProtocol id p => do let _ ← Messaging.adoptProtocol id p
  | intern name => do let _ ← Messaging.intern name
  | alloc cls => do let _ ← Messaging.alloc cls
  | retain a => Messaging.retain a
  | release a => Messaging.release a
  | attach a p => Messaging.attach a p
  | setPayload a p => Messaging.setPayload a p
  | newSlot => do let _ ← Messaging.newSlot
  | storeWeak slot target => Messaging.storeWeak slot target
  | loadWeak slot => do let _ ← Messaging.loadWeak slot
  | dropWeak slot => Messaging.dropWeak slot
  | pushPool => do let _ ← Messaging.pushPool
  | popPool token => Messaging.popPool token
  | retirePool token => Messaging.retirePool token
  | autorelease a => Messaging.autorelease a
  | setPools pools => Messaging.setPools pools
  | setUp change => modify fun s => { s with setup := change s.setup }
  | modifyClient change => Messaging.modifyClient change
  | modifyJournal change => modify fun s => { s with journal := change s.journal }

/-- A superclass, and a class that a method is added to, must be there. -/
def Permitted (s : Machine) : Operation → Prop
  | createClass name superclass => MethodLookup.Permits s.classes (.create name superclass)
  | insertMethod id kind m => MethodLookup.Permits s.classes (.insert id kind m)
  | _ => True

end Operation

/-- The machines that a program can lead to, however its operations end. -/
inductive Reachable : Machine → Prop
  | fresh (heapStart : Nat) (environment : Option String) (client : Client) :
      Reachable (.fresh heapStart environment client)
  | step {s : Machine} (op : Operation) (before : Reachable s) (permitted : op.Permitted s) :
      Reachable (op.run.outcome s).2

/-! ### What holds of them -/

/-- Every live object has an address that was given out. -/
def Memory.Below (m : Memory) : Prop := ∀ a o, m.get? a = some o → a.toNat < m.heap.fresh.toNat

structure Machine.Coherent (s : Machine) : Prop where
  ordered : ClassTable.Ordered s.classes.entries
  current : s.classes.Current
  below : s.memory.Below

namespace Memory
variable {m n : Memory} {a : Address}

theorem Below.of_heap (h : m.Below) (same : n.heap = m.heap) : n.Below := by
  intro a o live
  rw [same]
  exact h a o (by rwa [Memory.get?, same] at live)

theorem Below.fresh_free (h : m.Below) : m.get? m.heap.fresh = none := by
  cases live : m.get? m.heap.fresh with
  | none => rfl
  | some o => exact absurd (h _ o live) (Nat.lt_irrefl _)

theorem Below.put (h : m.Below) {old : Object} (live : m.get? a = some old) (o : Object) : (m.put a o).Below := by
  intro b x liveB
  rw [get?_put] at liveB
  split at liveB
  · next same =>
    rw [← same]
    exact h a old live
  · exact h b x liveB

theorem Below.modify? (h : m.Below) {change : Object → Object} (done : m.modify? a change = some n) : n.Below := by
  obtain ⟨o, live, rfl⟩ := modify?_eq_some.mp done
  exact h.put live _

theorem Below.release (h : m.Below) (done : m.release a = some n) : n.Below := by
  obtain ⟨o, live, ⟨-, rfl⟩ | ⟨-, rfl⟩⟩ := release_eq_some.mp done
  · intro b x liveB
    rw [get?_free] at liveB
    split at liveB
    · cases liveB
    · exact h b x liveB
  · exact h.put live _

theorem Below.place (h : m.Below) (cls : ClassId) : (m.place m.heap.fresh cls).Below := by
  intro b o live
  have up := Balanced.fresh_lt_place (m := m) m.heap.fresh cls
  rw [get?_place] at live
  split at live
  · next same => rwa [← same]
  · exact Nat.lt_trans (h b o live) up

theorem Below.storeWeak (h : m.Below) {slot : SlotId} {target : Option Address}
    (done : m.storeWeak slot target = some n) : n.Below := by
  cases target with
  | none =>
    cases done
    exact h.of_heap rfl
  | some a =>
    obtain ⟨o, live, rfl⟩ := storeWeak_some_eq_some.mp done
    exact (h.put live _).of_heap rfl

theorem Below.loadWeak (h : m.Below) {slot : SlotId} {target : Option Address}
    (done : m.loadWeak slot = some (target, n)) : n.Below := by
  unfold Memory.loadWeak at done
  split at done
  · cases done
    exact h
  · obtain ⟨k, retained, same⟩ := Option.map_eq_some_iff.mp done
    cases same
    exact h.modify? retained

end Memory

namespace Machine.Coherent
variable {s t : Machine} {m : Memory}

theorem setMemory (h : s.Coherent) (below : m.Below) : Coherent { s with memory := m } := ⟨h.ordered, h.current, below⟩

theorem congr (h : s.Coherent) (classes : t.classes = s.classes) (heap : t.memory.heap = s.memory.heap) : t.Coherent :=
  ⟨by rw [classes]; exact h.ordered, by rw [classes]; exact h.current, h.below.of_heap heap⟩

theorem perform (h : s.Coherent) {op : MethodLookup.Op} (permitted : MethodLookup.Permits s.classes op) :
    Coherent { s with classes := MethodLookup.perform s.classes op } :=
  ⟨MethodLookup.ordered_perform h.ordered permitted, MethodLookup.current_perform h.ordered h.current, h.below⟩

end Machine.Coherent

/-! ### Computations that preserve it -/

section
variable {α β : Type} {a : Address}

def Preserves (x : Exec α) : Prop := ∀ s : Machine, s.Coherent → (x.outcome s).2.Coherent

theorem preserves_pure (a : α) : Preserves (pure a : Exec α) := fun _ h => h

theorem Preserves.bind {x : Exec α} {f : α → Exec β} (hx : Preserves x) (hf : ∀ a, Preserves (f a)) :
    Preserves (x >>= f) := by
  intro s h
  have first := hx s h
  rw [outcome_bind]
  generalize x.outcome s = ended at first ⊢
  obtain ⟨r, t⟩ := ended
  cases r with
  | ok a => exact hf a t first
  | error i => exact first

theorem preserves_log (origin : Log.Origin) (level : Log.Level) (text : String) : Preserves (log origin level text) :=
  fun _ h => h.congr rfl rfl

theorem preserves_setPools (pools : PoolStack) : Preserves (setPools pools) := fun _ h => h.congr rfl rfl

theorem preserves_objectAt : Preserves (objectAt a) := by
  intro s h
  unfold objectAt
  rw [outcome_bind_ok outcome_get]
  split <;> exact h

theorem preserves_onObject {op : Memory → Option Memory} (keeps : ∀ m n, m.Below → op m = some n → n.Below) :
    Preserves (onObject a op) := by
  intro s h
  unfold onObject
  rw [outcome_bind_ok outcome_get]
  split
  · next done => exact h.setMemory (keeps _ _ h.below done)
  · exact h

theorem preserves_release : Preserves (release a) := by
  refine preserves_objectAt.bind fun o => ?_
  have done : Preserves (onObject a fun m => m.release a) := preserves_onObject fun _ _ h done => h.release done
  split
  · refine Preserves.bind (fun s h => ?_) fun _ => done
    obtain ⟨journal, announced⟩ := outcome_announceFree (s := s) (a := a) o
    rw [announced]
    exact h.congr rfl rfl
  · exact done

theorem preserves_drain (token : Nat) (l : List Address) : Preserves (drain token l) := by
  have all : Preserves (l.forM release) := by
    induction l with
    | nil => exact preserves_pure ()
    | cons a rest ih => exact preserves_release.bind fun _ => ih
  unfold drain
  split
  · exact (preserves_log _ _ _).bind fun _ => all
  · exact all

theorem preserves_cutPools (token : Nat) (cut : PoolStack → List Address × PoolStack) : Preserves (do
    let (objects, after) := cut (← pools)
    setPools after
    drain token objects) :=
  Preserves.bind (fun _ h => h) fun _ => (preserves_setPools _).bind fun _ => preserves_drain _ _

theorem preserves_autorelease : Preserves (autorelease a) := by
  refine Preserves.bind (fun _ h => h) fun pools => ?_
  split
  · exact preserves_setPools _
  · exact preserves_log _ _ _

theorem preserves_loadWeak (slot : SlotId) : Preserves (loadWeak slot) := by
  intro s h
  unfold loadWeak
  rw [outcome_bind_ok outcome_get]
  split
  · next done => exact h.setMemory (h.below.loadWeak done)
  · exact h

end

/-! ### Runs -/

namespace Machine.Coherent
variable {s : Machine}

theorem createProtocol (h : s.Coherent) (name : String) : ((Messaging.createProtocol name).outcome s).2.Coherent := by
  obtain ⟨r, protocols, ran⟩ := outcome_createProtocol (s := s) name
  rw [ran]
  exact h.congr rfl rfl

theorem createClass (h : s.Coherent) {name : String} {superclass : Option ClassId}
    (permitted : MethodLookup.Permits s.classes (.create name superclass)) :
    ((Messaging.createClass name superclass).outcome s).2.Coherent := by
  have created := h.perform permitted
  unfold MethodLookup.perform at created
  dsimp only at created
  unfold Messaging.createClass
  rw [outcome_bind_ok outcome_get]
  generalize s.classes.create name superclass = result at created ⊢
  cases result with
  | error cause => exact h
  | ok made => exact created

theorem adoptProtocol (h : s.Coherent) (id : ClassId) (p : ProtocolId) :
    ((Messaging.adoptProtocol id p).outcome s).2.Coherent := by
  cases found : s.protocols.get? p with
  | none => rwa [outcome_adoptProtocol_none found]
  | some protocol =>
    rw [outcome_adoptProtocol_some found]
    exact ⟨ClassTable.ordered_adopt h.ordered, h.current.adopt id protocol, h.below⟩

/-- One operation. -/
theorem step (h : s.Coherent) {op : Operation} (permitted : op.Permitted s) : (op.run.outcome s).2.Coherent := by
  have dropping {α : Type} {x : Exec α} (kept : (x.outcome s).2.Coherent) :
      ((do let _ ← x : Exec Unit).outcome s).2.Coherent := by
    rw [machine_dropped]
    exact kept
  cases op with
  | createClass name superclass => exact dropping (h.createClass permitted)
  | insertMethod id kind m => exact h.perform (show MethodLookup.Permits s.classes (.insert id kind m) from permitted)
  | lookupMethod id kind selector =>
    exact h.perform (show MethodLookup.Permits s.classes (.lookup id kind selector) from trivial)
  | createProtocol name => exact dropping (h.createProtocol name)
  | adoptProtocol id p => exact dropping (h.adoptProtocol id p)
  | alloc cls => exact (h.setMemory (h.below.place cls)).congr rfl rfl
  | retain a => exact preserves_onObject (fun _ _ h done => h.modify? done) s h
  | release a => exact preserves_release s h
  | attach a p => exact preserves_onObject (fun _ _ h done => h.modify? done) s h
  | setPayload a p => exact preserves_onObject (fun _ _ h done => h.modify? done) s h
  | storeWeak slot target => exact preserves_onObject (fun _ _ h done => h.storeWeak done) s h
  | loadWeak slot => exact dropping (preserves_loadWeak slot s h)
  | popPool token => exact preserves_cutPools token (fun pools => pools.pop token) s h
  | retirePool token => exact preserves_cutPools token (fun pools => pools.retire token) s h
  | autorelease a => exact preserves_autorelease s h
  | _ => exact h.congr rfl rfl

end Machine.Coherent

/-- Every reachable machine is coherent. -/
theorem Reachable.coherent {s : Machine} (reachable : Reachable s) : s.Coherent := by
  induction reachable with
  | fresh heapStart environment client =>
    exact ⟨trivial, ClassTable.current_empty, fun _ _ live => nomatch live⟩
  | step op before permitted ih => exact ih.step permitted

end Messaging
