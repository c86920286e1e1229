import Mathlib.Logic.Relation
import Messaging.Proofs.Builtin.Routines

/-! Programs over the built-in classes. Clients have classes, routines and callbacks of their own and leave the built-in
    classes their methods; all they do comes down to operations, installations, new strings and exceptions, and sends.
    Sends run code that may send again, so programs are built up by the depth to which sends nest. Every machine that a
    program leads to is regular. -/

namespace Messaging
open Exec

variable {s t : Machine}

/-- What an operation of a client must fit: a class that it uses is there, the built-in classes keep their methods, and
    a text is not for objects that are compared by their identity. -/
def Operation.Proper (s : Machine) : Operation → Prop
  | createClass name superclass => MethodLookup.Permits s.classes (.create name superclass)
  | insertMethod id _ _ => (s.classes.get? id).isSome ∧ ∀ known, s.setup.builtins = some known → id ∉ known.classes
  | alloc cls => (s.classes.get? cls).isSome
  | attach a p | setPayload a p => s.Fits a p
  | setUp change => (change s.setup).builtins = s.setup.builtins
  | _ => True

namespace Clients

/-- What a program does next, however it ends. -/
inductive Step (code : Code) (s : Machine) : Machine → Prop
  | operate (op : Operation) (proper : op.Proper s) : Step code s (op.run.outcome s).2
  | install : Step code s (builtins.outcome s).2
  | installAdapter : Step code s (adapterClass.outcome s).2
  | newString (contents : String) : Step code s ((newString contents).outcome s).2
  | newException (name reason : String) : Step code s ((newException name reason).outcome s).2
  | send (r : Receiver) (selector : Selector) (ret : TypeCode) (args : List Value) :
      Step code s ((send code r selector ret args).outcome s).2

/-- What a program leads to. -/
def Leads (code : Code) : Machine → Machine → Prop := Relation.ReflTransGen (Step code)

/-- The classes are there that objects and a receiver name. -/
def Knows (s : Machine) (r : Receiver) : Prop :=
  (∀ a o, s.memory.get? a = some o → (s.classes.get? o.cls).isSome) ∧ ∀ id, r = .cls id → (s.classes.get? id).isSome

/-- The code of a program whose sends nest to some depth. The routines of clients are whatever leads on by sends that
    nest less deep. -/
inductive Program : Code → Prop
  | flat : Program fun _ _ => throw .abort
  | nested {inner outer : Code} (below : Program inner) (ties : Delivery.Ties outer inner)
      (clients : ∀ routine inv s, (∀ b, routine ≠ .builtin b) → Knows s inv.this →
        Leads inner s ((outer routine inv).outcome s).2) : Program outer

end Clients

namespace Machine.Regular

/-- One operation. -/
theorem operate (h : s.Regular) {op : Operation} (proper : op.Proper s) : (op.run.outcome s).2.Regular := by
  have dropping {α : Type} {x : Exec α} (kept : (x.outcome s).2.Regular) :
      ((do let _ ← x : Exec Unit).outcome s).2.Regular := by
    rw [machine_dropped]
    exact kept
  cases op with
  | createClass name superclass =>
    exact dropping (h.installs (registers_createClass h.ordered h.current proper name).1)
  | insertMethod id kind m =>
    refine dropping (h.congr (MethodLookup.ordered_insert h.ordered) (h.current.insert id kind m) (fun other known => ?_)
      (fun known installed other mem => ?_) (.refl _) rfl (.refl _))
    · show ((s.classes.insert id kind m).2.get? other).isSome
      rw [ClassTable.get?_insert, Option.isSome_map]
      exact known
    · refine ClassTable.carries_insert ((h.stand known installed).known_of_mem mem) ?_ proper.1 kind m
      rintro rfl
      exact proper.2 known installed mem
  | lookupMethod id kind selector => exact dropping (maintains_lookupMethod s h)
  | createProtocol name =>
    obtain ⟨r, protocols, ran⟩ := outcome_createProtocol (s := s) name
    refine dropping ?_
    rw [ran]
    exact h.of_same rfl rfl rfl (.refl _)
  | adoptProtocol id p => exact dropping (h.installs (registers_adoptProtocol (.refl h.ordered h.current) id p).1)
  | intern name => exact dropping (maintains_intern s h)
  | alloc cls => exact dropping (ensures_alloc h proper).1
  | retain a => exact maintains_retain s h
  | release a => exact maintains_release s h
  | attach a p => exact regular_attach h proper
  | setPayload a p => exact regular_setPayload h proper
  | newSlot => exact dropping (maintains_newSlot s h)
  | storeWeak slot target => exact maintains_storeWeak s h
  | loadWeak slot => exact dropping (maintains_loadWeak s h)
  | popPool token => exact maintains_cutPools token (fun pools => pools.pop token) s h
  | retirePool token => exact maintains_cutPools token (fun pools => pools.retire token) s h
  | autorelease a => exact maintains_autorelease s h
  | setUp change => exact h.of_same rfl rfl proper (.refl _)
  | require _ _ | modifyClient _ | modifyJournal _ => exact h.of_same rfl rfl rfl (.refl _)
  | dropWeak _ | pushPool | setPools _ => exact h.setMemory (.of_heap rfl)

variable {code : Code}

theorem step (h : s.Regular) (decent : code.Decent) (step : Clients.Step code s t) : t.Regular := by
  cases step with
  | operate op proper => exact h.operate proper
  | install => exact maintains_builtins s h
  | installAdapter => exact maintains_adapterClass s h
  | newString contents => exact maintains_newString contents s h
  | newException name reason => exact maintains_newException name reason s h
  | send r selector ret args => exact maintains_send decent s h

theorem leads (h : s.Regular) (decent : code.Decent) (leads : Clients.Leads code s t) : t.Regular := by
  induction leads with
  | refl => exact h
  | tail _ step ih => exact ih.step decent step

theorem fresh (heapStart : Nat) (environment : Option String) (client : Client) :
    (Machine.fresh heapStart environment client).Regular :=
  ⟨trivial, ClassTable.current_empty, nofun, nofun, nofun⟩

end Machine.Regular

namespace Clients

/-- The code of a program keeps machines regular, by the depth to which its sends nest. -/
theorem Program.decent {code : Code} (program : Program code) : code.Decent := by
  induction program with
  -- At the bottom nothing runs: whoever sends so deep is aborted.
  | flat => exact fun _ _ _ h _ => h
  | nested below ties clients ih =>
    intro routine inv s h enters
    cases routine with
    | builtin b =>
      rw [ties]
      exact BuiltinRoutine.regular_run ih h enters
    | sample r => exact h.leads ih (clients _ inv s nofun ⟨h.typed, enters.there⟩)
    | callback c => exact h.leads ih (clients _ inv s nofun ⟨h.typed, enters.there⟩)

/-- Every machine that a program leads to from the start is regular. -/
theorem Program.regular {code : Code} {heapStart : Nat} {environment : Option String} {client : Client}
    (program : Program code) (run : Leads code (.fresh heapStart environment client) s) : s.Regular :=
  (Machine.Regular.fresh heapStart environment client).leads program.decent run

end Clients
end Messaging
