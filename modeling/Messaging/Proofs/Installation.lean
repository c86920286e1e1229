import Mathlib.Order.Basic
import Messaging.Proofs.Class.Cache
import Messaging.Proofs.Interning
import Messaging.Proofs.Unwind

/-! Installing the built-in classes. It succeeds where nothing has their names yet; the classes that were there keep
    their methods and superclasses, and no object is made. -/

namespace Messaging
open Exec

/-- The names of the built-in classes. -/
def reservedNames : List String := ["OxObject", "OxString", "OxNumber", "OxException", "OxPort"]

/-- The built-in classes are installed, or nothing has their names. -/
def Machine.Ready (s : Machine) : Prop :=
  s.setup.builtins = none →
    (∀ name ∈ reservedNames, s.classes.named? name = none) ∧ s.protocols.named? "OxPortDelegate" = none

/-- Nothing but caches and the journal changed from `s` to `t`, or the built-in classes were installed in between. -/
structure Machine.Extended (s t : Machine) : Prop where
  tables : ∀ id c, s.classes.bare.get? id = some c → t.classes.bare.get? id = some c
  client : t.client = s.client
  same : s.setup.builtins.isSome → t.classes.bare = s.classes.bare ∧ t.selectors = s.selectors ∧
    t.protocols = s.protocols ∧ t.setup = s.setup

section
variable {α β : Type} {s t u : Machine} {id : ClassId} {name : String} {names names' : List String}

theorem outcome_registering_ok {x : Registering α} {f : α → Registering β} {a : α}
    (h : x.run.outcome s = (.ok (.ok a), t)) : (x >>= f).run.outcome s = (f a).run.outcome t :=
  outcome_bind_ok h

theorem outcome_lift {x : Exec α} {a : α} (h : x.outcome s = (.ok a, t)) :
    (ExceptT.lift x : Registering α).run.outcome s = (.ok (.ok a), t) :=
  (outcome_bind_ok h).trans rfl

/-! ### One class -/

/-- One class got methods, and nothing else happened to the classes. -/
structure Filled (id : ClassId) (s t : Machine) : Prop where
  listed : (t.classes.entries.map fun c => (c.id, c.name)) = s.classes.entries.map fun c => (c.id, c.name)
  others : ∀ other, other ≠ id → t.classes.get? other = s.classes.get? other
  rest : t.memory = s.memory ∧ t.client = s.client ∧ t.setup = s.setup ∧ t.protocols = s.protocols

theorem Filled.refl (id : ClassId) (s : Machine) : Filled id s s := ⟨rfl, fun _ _ => rfl, rfl, rfl, rfl, rfl⟩

theorem Filled.trans (first : Filled id s t) (second : Filled id t u) : Filled id s u := by
  obtain ⟨memory, client, setup, protocols⟩ := first.rest
  obtain ⟨memory', client', setup', protocols'⟩ := second.rest
  exact ⟨second.listed.trans first.listed,
    fun other differs => (second.others other differs).trans (first.others other differs),
    memory'.trans memory, client'.trans client, setup'.trans setup, protocols'.trans protocols⟩

theorem filled_insert (id : ClassId) (kind : MethodKind) (m : Method) :
    Filled id s { s with classes := (s.classes.insert id kind m).2 } := by
  refine ⟨?_, fun other differs => ?_, rfl, rfl, rfl, rfl⟩
  · show (s.classes.entries.map _).map _ = _
    rw [List.map_map]
    refine List.map_congr_left fun c _ => ?_
    simp only [Function.comp_apply]
    split
    · cases kind <;> rfl
    · rfl
  · show (s.classes.insert id kind m).2.get? other = _
    rw [ClassTable.get?_insert]
    cases found : s.classes.get? other with
    | none => rfl
    | some c =>
      obtain ⟨-, rfl⟩ := ClassTable.mem_of_get? found
      rw [Option.map_some, if_neg differs]

theorem outcome_defineMethod (id : ClassId) {spec : MethodSpec} (readable : (Signature.read spec.types).isOk = true) : ∃ t,
    (defineMethod id spec).run.outcome s = (.ok (.ok ()), t) ∧ Filled id s t := by
  obtain ⟨m, made⟩ : ∃ m, Method.read (s.selectors.register spec.name).1 spec.routine spec.types = .ok m := by
    unfold Method.read
    cases read : Signature.read spec.types with
    | error cause => simp [read, Except.isOk, Except.toBool] at readable
    | ok signature => exact ⟨_, rfl⟩
  obtain ⟨r, registered⟩ : ∃ r, r = { s with selectors := (s.selectors.register spec.name).2 } := ⟨_, rfl⟩
  have same : Filled id s r := by
    rw [registered]
    exact ⟨rfl, fun _ _ => rfl, rfl, rfl, rfl, rfl⟩
  have interned : (intern spec.name).outcome s = (.ok (s.selectors.register spec.name).1, r) := by
    rw [registered]
    rfl
  have read : (ExceptT.mk (pure (Method.read (s.selectors.register spec.name).1 spec.routine spec.types)) :
      Registering Method).run.outcome r = (.ok (.ok m), r) := by
    rw [made]
    rfl
  refine ⟨_, (outcome_registering_ok (outcome_lift interned)).trans (outcome_registering_ok read), ?_⟩
  exact same.trans (filled_insert id spec.kind _)

theorem outcome_defineMethods (id : ClassId) {specs : List MethodSpec}
    (readable : ∀ spec ∈ specs, (Signature.read spec.types).isOk = true) : ∃ t,
      (specs.forM (defineMethod id)).run.outcome s = (.ok (.ok ()), t) ∧ Filled id s t := by
  induction specs generalizing s with
  | nil => exact ⟨s, rfl, .refl id s⟩
  | cons spec rest ih =>
    obtain ⟨t, defined, filled⟩ := outcome_defineMethod (s := s) id (readable spec (List.mem_cons_self ..))
    obtain ⟨u, others, filled'⟩ := ih (s := t) fun spec mem => readable spec (List.mem_cons_of_mem _ mem)
    exact ⟨u, (outcome_registering_ok defined).trans others, filled.trans filled'⟩

/-! ### All classes -/

/-- Every class has a number below their count. -/
def ClassTable.Numbered (t : ClassTable) : Prop := ∀ c ∈ t.entries, c.id.toNat < t.entries.length

/-- Classes with the given names came in, and the others are as they were. -/
structure Added (names : List String) (s t : Machine) : Prop where
  numbered : t.classes.Numbered
  tables : ∀ id c, s.classes.get? id = some c → t.classes.get? id = some c
  free : ∀ name, name ∉ names → s.classes.named? name = none → t.classes.named? name = none
  rest : t.memory = s.memory ∧ t.client = s.client ∧ t.setup = s.setup

theorem Added.of_same (numbered : s.classes.Numbered) (classes : t.classes = s.classes) (memory : t.memory = s.memory)
    (client : t.client = s.client) (setup : t.setup = s.setup) : Added [] s t := by
  refine ⟨?_, fun id c found => ?_, fun name _ free => ?_, memory, client, setup⟩
  · rwa [classes]
  · rwa [classes]
  · rwa [classes]

theorem Added.trans (first : Added names s t) (second : Added names' t u) : Added (names ++ names') s u := by
  obtain ⟨memory, client, setup⟩ := first.rest
  obtain ⟨memory', client', setup'⟩ := second.rest
  refine ⟨second.numbered, fun id c found => second.tables id c (first.tables id c found), fun name other free => ?_,
    memory'.trans memory, client'.trans client, setup'.trans setup⟩
  rw [List.mem_append, not_or] at other
  exact second.free name other.2 (first.free name other.1 free)

/-- A new class, before it has methods. -/
theorem added_create (numbered : s.classes.Numbered) (name : String) (superclass : Option ClassId) :
    Added [name] s { s with classes := { s.classes with
      entries := .fresh ⟨s.classes.entries.length⟩ name superclass :: s.classes.entries } } := by
  refine ⟨fun c mem => ?_, fun id c found => ?_, fun other differs free => ?_, rfl, rfl, rfl⟩
  · rcases List.mem_cons.mp mem with rfl | mem
    · exact Nat.lt_succ_self _
    · exact Nat.lt_succ_of_lt (numbered c mem)
  · obtain ⟨mem, rfl⟩ := ClassTable.mem_of_get? found
    refine ClassTable.find?_cons.trans ?_
    rw [if_neg]
    · exact found
    · intro same
      exact Nat.lt_irrefl _ (same ▸ numbered c mem)
  · refine (List.find?_cons_of_neg ?_).trans free
    simpa [ClassEntry.fresh] using fun same => differs (by rw [same]; exact List.mem_singleton_self _)

theorem Filled.mem (filled : Filled id s t) {d : ClassEntry} (mem : d ∈ t.classes.entries) :
    ∃ c ∈ s.classes.entries, c.id = d.id ∧ c.name = d.name := by
  have listed := List.mem_map_of_mem (f := fun c : ClassEntry => (c.id, c.name)) mem
  rw [filled.listed] at listed
  obtain ⟨c, memC, same⟩ := List.mem_map.mp listed
  obtain ⟨sameId, sameName⟩ := Prod.mk.inj same
  exact ⟨c, memC, sameId, sameName⟩

/-- Giving methods to a class that came in. -/
theorem Added.filled (added : Added names s t) (new : s.classes.get? id = none) (filled : Filled id t u) :
    Added names s u := by
  obtain ⟨memory, client, setup⟩ := added.rest
  obtain ⟨memory', client', setup', -⟩ := filled.rest
  have count : u.classes.entries.length = t.classes.entries.length := by
    simpa using congrArg List.length filled.listed
  refine ⟨fun d mem => ?_, fun other c found => ?_, fun name other free => ?_, memory'.trans memory,
    client'.trans client, setup'.trans setup⟩
  · obtain ⟨c, memC, same, -⟩ := filled.mem mem
    rw [← same, count]
    exact added.numbered c memC
  · rw [filled.others other]
    · exact added.tables other c found
    · rintro rfl
      rw [new] at found
      cases found
  · refine List.find?_eq_none.mpr fun d mem => ?_
    obtain ⟨c, memC, -, same⟩ := filled.mem mem
    rw [← same]
    exact List.find?_eq_none.mp (added.free name other free) c memC

/-- A class is created under a free name, and then gets its methods. -/
theorem outcome_defineClass_free {specs : List MethodSpec} (free : s.classes.named? name = none)
    (superclass : Option ClassId) (readable : ∀ spec ∈ specs, (Signature.read spec.types).isOk = true) : ∃ t,
    (defineClass name superclass specs).run.outcome s = (.ok (.ok ⟨s.classes.entries.length⟩), t) ∧
      Filled ⟨s.classes.entries.length⟩ { s with classes := { s.classes with
        entries := .fresh ⟨s.classes.entries.length⟩ name superclass :: s.classes.entries } } t := by
  obtain ⟨t, defined, filled⟩ := outcome_defineMethods (s := { s with classes := { s.classes with
    entries := .fresh ⟨s.classes.entries.length⟩ name superclass :: s.classes.entries } })
    ⟨s.classes.entries.length⟩ readable
  exact ⟨t, (outcome_registering_ok (outcome_createClass_free free superclass)).trans (outcome_registering_ok defined),
    filled⟩

theorem ClassTable.Numbered.get?_next {t : ClassTable} (numbered : t.Numbered) : t.get? ⟨t.entries.length⟩ = none := by
  cases found : t.get? ⟨t.entries.length⟩ with
  | none => rfl
  | some c =>
    obtain ⟨mem, same⟩ := ClassTable.mem_of_get? found
    have lt := numbered c mem
    rw [same] at lt
    exact absurd lt (Nat.lt_irrefl _)

theorem outcome_defineClass {specs : List MethodSpec} (numbered : s.classes.Numbered)
    (free : s.classes.named? name = none) (superclass : Option ClassId)
    (readable : ∀ spec ∈ specs, (Signature.read spec.types).isOk = true) : ∃ id t,
    (defineClass name superclass specs).run.outcome s = (.ok (.ok id), t) ∧ Added [name] s t ∧
      t.protocols = s.protocols := by
  obtain ⟨t, defined, filled⟩ := outcome_defineClass_free free superclass readable
  obtain ⟨-, -, -, protocols⟩ := filled.rest
  exact ⟨_, t, defined, (added_create numbered name superclass).filled numbered.get?_next filled, protocols⟩

/-! ### What is built in -/

def builtinMethods : List (List MethodSpec) :=
  [objectMethods, stringMethods, numberMethods, exceptionMethods, portMethods]

theorem readable_builtins : ∀ specs ∈ builtinMethods, ∀ spec ∈ specs, (Signature.read spec.types).isOk = true := by
  have all : builtinMethods.all fun specs => specs.all fun spec => (Signature.read spec.types).isOk := by cbv
  intro specs listed spec mem
  exact List.all_eq_true.mp (List.all_eq_true.mp all specs listed) spec mem

/-- One more class, under a name that is still free. -/
theorem Added.define (added : Added names s t) {specs : List MethodSpec} (free : s.classes.named? name = none)
    (other : name ∉ names) (superclass : Option ClassId)
    (readable : ∀ spec ∈ specs, (Signature.read spec.types).isOk = true) : ∃ id u,
    (defineClass name superclass specs).run.outcome t = (.ok (.ok id), u) ∧ Added (names ++ [name]) s u ∧
      u.protocols = t.protocols := by
  obtain ⟨id, u, defined, more, protocols⟩ :=
    outcome_defineClass added.numbered (added.free name other free) superclass readable
  exact ⟨id, u, defined, added.trans more, protocols⟩

theorem outcome_portDelegate (numbered : s.classes.Numbered) (free : s.protocols.named? "OxPortDelegate" = none) :
    ∃ id t, (createProtocol "OxPortDelegate").outcome s = (.ok (.ok id), t) ∧ Added [] s t := by
  refine ⟨⟨s.protocols.entries.length⟩, { s with protocols :=
    ⟨s.protocols.entries ++ [⟨⟨s.protocols.entries.length⟩, "OxPortDelegate", []⟩]⟩ }, ?_,
    .of_same numbered rfl rfl rfl rfl⟩
  unfold createProtocol ProtocolTable.create
  rw [outcome_bind_ok outcome_get, free]
  rfl

theorem names_require (t : ProtocolTable) (id : ProtocolId) (selector : Selector) :
    (t.require id selector).entries.map Protocol.name = t.entries.map Protocol.name := by
  show (t.entries.map _).map Protocol.name = _
  rw [List.map_map]
  refine List.map_congr_left fun p _ => ?_
  rw [Function.comp_apply]
  split
  · dsimp only
    split <;> rfl
  · rfl

/-- Requiring interns the selectors, and the protocols stay those that there are. -/
theorem outcome_requires (id : ProtocolId) (selectors : List String) : ∃ table protocols,
    (selectors.forM (fun name => do
      let selector ← intern name
      require id selector : String → Registering PUnit)).run.outcome s =
      (.ok (.ok ()), { s with selectors := table, protocols }) ∧
      s.selectors.Grows table ∧ protocols.entries.map Protocol.name = s.protocols.entries.map Protocol.name := by
  induction selectors generalizing s with
  | nil => exact ⟨s.selectors, s.protocols, rfl, .refl _, rfl⟩
  | cons name rest ih =>
    obtain ⟨table, protocols, required, grows, names⟩ := ih (s := { s with
      selectors := (s.selectors.register name).2
      protocols := s.protocols.require id (s.selectors.register name).1 })
    exact ⟨table, protocols, required, (SelectorTable.grows_register _ _).trans grows, names.trans (names_require _ _ _)⟩

theorem outcome_registerBuiltins (numbered : s.classes.Numbered)
    (free : ∀ name ∈ reservedNames, s.classes.named? name = none) (protocol : s.protocols.named? "OxPortDelegate" = none) :
    ∃ known t, registerBuiltins.run.outcome s = (.ok (.ok known), t) ∧ Added reservedNames s t := by
  have readable := readable_builtins
  simp only [builtinMethods, reservedNames, List.forall_mem_cons] at readable free
  obtain ⟨objects, strings, numbers, exceptions, ports, -⟩ := readable
  obtain ⟨freeObject, freeString, freeNumber, freeException, freePort, -⟩ := free
  have added := Added.of_same numbered rfl rfl rfl rfl
  obtain ⟨object, t₁, object_made, added, same₁⟩ := added.define freeObject (by decide) none objects
  obtain ⟨string, t₂, string_made, added, same₂⟩ := added.define freeString (by decide) (some object) strings
  obtain ⟨number, t₃, number_made, added, same₃⟩ := added.define freeNumber (by decide) (some object) numbers
  obtain ⟨exception, t₄, exception_made, added, same₄⟩ := added.define freeException (by decide) (some object) exceptions
  rw [← same₁, ← same₂, ← same₃, ← same₄] at protocol
  obtain ⟨portDelegate, t₅, protocol_made, more⟩ := outcome_portDelegate added.numbered protocol
  obtain ⟨table, protocols, required, -, -⟩ := outcome_requires (s := t₅) portDelegate delegateSelectors
  have rest : Added [] t₅ { t₅ with selectors := table, protocols } := .of_same more.numbered rfl rfl rfl rfl
  obtain ⟨port, t₇, port_made, added, -⟩ :=
    ((added.trans more).trans rest).define freePort (by decide) (some object) ports
  obtain ⟨journal, logged⟩ : ∃ journal, (log .builtins .debug "installed builtin runtime classes").outcome t₇ =
      (.ok (), { t₇ with journal }) := ⟨_, rfl⟩
  refine ⟨⟨object, string, number, exception, port, portDelegate⟩, { t₇ with journal }, ?_, ?_⟩
  · refine (outcome_registering_ok object_made).trans ?_
    refine (outcome_registering_ok string_made).trans ?_
    refine (outcome_registering_ok number_made).trans ?_
    refine (outcome_registering_ok exception_made).trans ?_
    refine (outcome_registering_ok protocol_made).trans ?_
    refine (outcome_registering_ok required).trans ?_
    refine (outcome_registering_ok port_made).trans ?_
    exact (outcome_registering_ok (outcome_lift logged)).trans rfl
  · exact added.trans (.of_same added.numbered rfl rfl rfl rfl)

/-! ### Asking for them -/

namespace Machine.Extended

theorem of_same (classes : t.classes.bare = s.classes.bare) (client : t.client = s.client)
    (others : t.selectors = s.selectors ∧ t.protocols = s.protocols ∧ t.setup = s.setup) : s.Extended t := by
  refine ⟨fun id c found => ?_, client, fun _ => ⟨classes, others⟩⟩
  rwa [classes]

theorem trans (first : s.Extended t) (second : t.Extended u) : s.Extended u := by
  refine ⟨fun id c found => second.tables id c (first.tables id c found), second.client.trans first.client,
    fun installed => ?_⟩
  obtain ⟨classes, selectors, protocols, setup⟩ := first.same installed
  rw [← setup] at installed
  obtain ⟨classes', selectors', protocols', setup'⟩ := second.same installed
  exact ⟨classes'.trans classes, selectors'.trans selectors, protocols'.trans protocols, setup'.trans setup⟩

/-- Where nothing was installed, classes may come in. -/
theorem of_tables (tables : ∀ id c, s.classes.get? id = some c → t.classes.get? id = some c) (client : t.client = s.client)
    (pending : s.setup.builtins = none) : s.Extended t := by
  refine ⟨fun id c listed => ?_, client, fun installed => ?_⟩
  · rw [ClassTable.get?_bare] at listed ⊢
    obtain ⟨d, here, rfl⟩ := Option.map_eq_some_iff.mp listed
    exact Option.map_eq_some_iff.mpr ⟨d, tables id d here, rfl⟩
  · rw [pending] at installed
    cases installed

end Machine.Extended

theorem outcome_builtins_ready (ready : s.Ready) (numbered : s.classes.Numbered) : ∃ known t,
    builtins.outcome s = (.ok known, t) ∧ t.setup.builtins = some known ∧ t.memory = s.memory ∧ s.Extended t := by
  cases found : s.setup.builtins with
  | some known => exact ⟨known, s, outcome_builtins found, found, rfl, .of_same rfl rfl ⟨rfl, rfl, rfl⟩⟩
  | none =>
    obtain ⟨free, protocol⟩ := ready found
    obtain ⟨known, t, registered, added⟩ := outcome_registerBuiltins numbered free protocol
    obtain ⟨memory, client, -⟩ := added.rest
    refine ⟨known, { t with setup := { t.setup with builtins := some known } }, ?_, rfl, memory, ?_⟩
    · unfold builtins
      rw [outcome_bind_ok outcome_get]
      simp only [found]
      exact (outcome_bind_ok registered).trans rfl
    · exact .of_tables added.tables client found

theorem outcome_raiseNamed_ready (ready : s.Ready) (numbered : s.classes.Numbered) (name reason : String) : ∃ known t,
    (raiseNamed name reason : Exec α).outcome s = (.error (.thrown s.memory.heap.fresh), t) ∧
      t.setup.builtins = some known ∧ t.memory = s.memory.carrying known.exception (.exception name reason) ∧
      s.Extended t := by
  obtain ⟨known, t, asked, installed, memory, extended⟩ := outcome_builtins_ready ready numbered
  obtain ⟨journal, made⟩ := outcome_carrying (s := t) known.exception (.exception name reason)
  rw [memory] at made
  obtain ⟨journal, thrown⟩ := outcome_throw_made (α := α) (x := newException name reason)
    ((outcome_bind_ok asked).trans made) rfl
  exact ⟨known, _, thrown, installed, rfl, extended.trans (.of_same rfl rfl ⟨rfl, rfl, rfl⟩)⟩

end
end Messaging
