import Messaging.Proofs.Class.Hierarchy
import Messaging.Proofs.Installation

/-! Attempts to install what is built in. The names are registered one after another, and the first one that is taken
    stops the attempt with a panic. What was registered before it stays, so the root class is there from then on, and
    it is what all later attempts stop at. Where no name is taken one attempt is enough. -/

namespace Messaging

/-- The names of the classes, newest first. -/
def ClassTable.names (t : ClassTable) : List String := t.entries.map ClassEntry.name

/-- The names of the protocols, oldest first. -/
def ProtocolTable.names (t : ProtocolTable) : List String := t.entries.map Protocol.name

namespace Attempts
open Exec ClassTable Hierarchy
open Relation (ReflTransGen)

/-- What an installation registers: classes and protocols, by their names. -/
inductive Registration
  | ofClass (name : String)
  | ofProtocol (name : String)
deriving DecidableEq

namespace Registration

/-- Something has the name already. -/
def Taken (s : Machine) : Registration → Prop
  | ofClass name => name ∈ s.classes.names
  | ofProtocol name => name ∈ s.protocols.names

/-- Why a registration under a name that is taken is refused. -/
def refusal : Registration → RegistrationError
  | ofClass name => .classAlreadyExists name
  | ofProtocol name => .protocolAlreadyExists name

def className? : Registration → Option String
  | ofClass name => some name
  | ofProtocol _ => none

def protocolName? : Registration → Option String
  | ofClass _ => none
  | ofProtocol name => some name

end Registration

/-- What is registered for the built-in classes, in this order. -/
def reserved : List Registration :=
  [.ofClass "OxObject", .ofClass "OxString", .ofClass "OxNumber", .ofClass "OxException", .ofProtocol "OxPortDelegate",
    .ofClass "OxPort"]

/-- The panic of an attempt that stops at a name. -/
def failure (r : Registration) : Interruption := .panic ("failed to install builtin classes: " ++ r.refusal.message)

/-- Of the names in a plan, `r` is the first that is taken, and those of `done` come before it. -/
structure StopsAt (s : Machine) (plan done : List Registration) (r : Registration) : Prop where
  split : ∃ rest, plan = done ++ r :: rest
  free : ∀ x ∈ done, ¬x.Taken s
  taken : r.Taken s

/-- The registrations of the second machine are those of the first and some more. The classes that were there are as
    they were, and no object was touched. -/
structure Left (done : List Registration) (s t : Machine) : Prop where
  numbered : t.classes.Numbered
  classes : t.classes.names = (done.filterMap Registration.className?).reverse ++ s.classes.names
  tables : ∀ id c, s.classes.get? id = some c → t.classes.get? id = some c
  protocols : t.protocols.names = s.protocols.names ++ done.filterMap Registration.protocolName?
  rest : t.memory = s.memory ∧ t.client = s.client ∧ t.setup = s.setup

/-- The computation makes the registrations of a plan in their order, until one of them is refused. -/
def Makes {α : Type} (x : Registering α) (s : Machine) (plan : List Registration) : Prop :=
  ((∀ r ∈ plan, ¬r.Taken s) ∧ ∃ a t, x.run.outcome s = (.ok (.ok a), t) ∧ Left plan s t) ∨
  ∃ done r t, StopsAt s plan done r ∧ x.run.outcome s = (.ok (.error r.refusal), t) ∧ Left done s t

/-- Nothing is installed, and nothing can be any more. -/
structure Blocked (s : Machine) : Prop where
  pending : s.setup.builtins = none
  taken : (Registration.ofClass "OxObject").Taken s

variable {α β : Type} {start s t u : Machine} {name : String} {r : Registration} {done done' plan : List Registration}

/-! ### Names -/

theorem named?_eq_none_iff {t : ClassTable} : t.named? name = none ↔ name ∉ t.names := by
  unfold ClassTable.named? ClassTable.names
  simp [List.find?_eq_none]

theorem protocol_named?_eq_none_iff {t : ProtocolTable} : t.named? name = none ↔ name ∉ t.names := by
  unfold ProtocolTable.named? ProtocolTable.names
  simp [List.find?_eq_none]

/-- What classes remember has no part in their names. -/
theorem names_of_bare {t u : ClassTable} (same : t.bare = u.bare) : t.names = u.names := by
  have bare (t : ClassTable) : t.names = t.bare.names := by
    unfold ClassTable.names ClassTable.bare
    rw [List.map_map]
    rfl
  rw [bare t, bare u, same]

/-! ### What was registered -/

theorem left_of_same (numbered : s.classes.Numbered) (classes : t.classes = s.classes)
    (protocols : t.protocols.names = s.protocols.names) (memory : t.memory = s.memory) (client : t.client = s.client)
    (setup : t.setup = s.setup) : Left [] s t := by
  refine ⟨?_, ?_, fun id c found => ?_, ?_, memory, client, setup⟩
  · rwa [classes]
  · rw [classes]
    rfl
  · rwa [classes]
  · rw [protocols]
    exact (List.append_nil _).symm

/-- Whether a name is taken depends on the names alone. -/
theorem taken_congr (classes : t.classes.names = s.classes.names) (protocols : t.protocols.names = s.protocols.names) :
    r.Taken t ↔ r.Taken s := by
  cases r with
  | ofClass name => rw [Registration.Taken, Registration.Taken, classes]
  | ofProtocol name => rw [Registration.Taken, Registration.Taken, protocols]

theorem StopsAt.congr (stops : StopsAt t plan done r) (classes : t.classes.names = s.classes.names)
    (protocols : t.protocols.names = s.protocols.names) : StopsAt s plan done r where
  split := stops.split
  free x mem taken := stops.free x mem ((taken_congr classes protocols).mpr taken)
  taken := (taken_congr classes protocols).mp stops.taken

namespace Left

theorem trans (first : Left done s t) (second : Left done' t u) : Left (done ++ done') s u where
  numbered := second.numbered
  classes := by
    rw [second.classes, first.classes, List.filterMap_append, List.reverse_append, List.append_assoc]
  tables id c found := second.tables id c (first.tables id c found)
  protocols := by
    rw [second.protocols, first.protocols, List.filterMap_append, List.append_assoc]
  rest := by
    obtain ⟨memory, client, setup⟩ := first.rest
    obtain ⟨memory', client', setup'⟩ := second.rest
    exact ⟨memory'.trans memory, client'.trans client, setup'.trans setup⟩

/-- The names that are taken afterwards are those that were, and the ones that were registered. -/
theorem taken_iff (left : Left done s t) : r.Taken t ↔ r ∈ done ∨ r.Taken s := by
  cases r with
  | ofClass name =>
    have mem : name ∈ done.filterMap Registration.className? ↔ Registration.ofClass name ∈ done := by
      rw [List.mem_filterMap]
      constructor
      · rintro ⟨x, mem, same⟩
        cases x with
        | ofClass other =>
          obtain rfl := Option.some.inj same
          exact mem
        | ofProtocol other => cases same
      · exact fun mem => ⟨_, mem, rfl⟩
    show name ∈ t.classes.names ↔ _ ∨ name ∈ s.classes.names
    rw [left.classes, List.mem_append, List.mem_reverse, mem]
  | ofProtocol name =>
    have mem : name ∈ done.filterMap Registration.protocolName? ↔ Registration.ofProtocol name ∈ done := by
      rw [List.mem_filterMap]
      constructor
      · rintro ⟨x, mem, same⟩
        cases x with
        | ofClass other => cases same
        | ofProtocol other =>
          obtain rfl := Option.some.inj same
          exact mem
      · exact fun mem => ⟨_, mem, rfl⟩
    show name ∈ t.protocols.names ↔ _ ∨ name ∈ s.protocols.names
    rw [left.protocols, List.mem_append, mem, or_comm]

end Left

/-! ### Plans -/

/-- Whether the second part of a plan goes through does not depend on the first, which registers other names. -/
theorem Makes.bind {x : Registering α} {f : α → Registering β} (plan' : List Registration) (hx : Makes x s plan)
    (hf : ∀ a t, Left plan s t → Makes (f a) t plan') (apart : ∀ r ∈ plan', r ∉ plan) :
    Makes (x >>= f) s (plan ++ plan') := by
  rcases hx with ⟨free, a, t, ran, left⟩ | ⟨done, r, t, ⟨⟨rest, split⟩, free, taken⟩, ran, left⟩
  · have unchanged {r : Registration} (mem : r ∈ plan') : r.Taken t ↔ r.Taken s := by
      rw [left.taken_iff, or_iff_right (apart r mem)]
    rcases hf a t left with ⟨free', b, u, went, left'⟩ | ⟨done, r, u, ⟨⟨rest, split⟩, free', taken⟩, went, left'⟩
    · refine Or.inl ⟨fun r mem => ?_, b, u, (outcome_registering_ok ran).trans went, left.trans left'⟩
      rcases List.mem_append.mp mem with mem | mem
      · exact free r mem
      · exact fun taken => free' r mem ((unchanged mem).mpr taken)
    · have inside {y : Registration} (mem : y ∈ done ++ r :: rest) : y ∈ plan' := by rwa [split]
      refine Or.inr ⟨plan ++ done, r, u, ⟨⟨rest, ?_⟩, fun y mem => ?_, ?_⟩, (outcome_registering_ok ran).trans went,
        left.trans left'⟩
      · rw [split, List.append_assoc]
      · rcases List.mem_append.mp mem with mem | mem
        · exact free y mem
        · exact fun taken => free' y mem ((unchanged (inside (List.mem_append_left _ mem))).mpr taken)
      · exact (unchanged (inside (List.mem_append_right _ List.mem_cons_self))).mp taken
  · refine Or.inr ⟨done, r, t, ⟨⟨rest ++ plan', ?_⟩, free, taken⟩, outcome_bind_ok ran, left⟩
    rw [split, List.append_assoc, List.cons_append]

/-- A part that registers nothing. -/
theorem makes_nothing {x : Registering α} {a : α} (ran : x.run.outcome s = (.ok (.ok a), t)) (left : Left [] s t) :
    Makes x s [] :=
  Or.inl ⟨nofun, a, t, ran, left⟩

theorem makes_class {specs : List MethodSpec} (numbered : s.classes.Numbered) (name : String)
    (superclass : Option ClassId) (readable : ∀ spec ∈ specs, (Signature.read spec.types).isOk = true) :
    Makes (defineClass name superclass specs) s [.ofClass name] := by
  cases found : s.classes.named? name with
  | none =>
    have free := named?_eq_none_iff.mp found
    obtain ⟨t, defined, filled⟩ := outcome_defineClass_free found superclass readable
    obtain ⟨memory, client, setup, protocols⟩ := filled.rest
    have added := (added_create numbered name superclass).filled numbered.get?_next filled
    refine Or.inl ⟨?_, _, t, defined, ⟨added.numbered, ?_, added.tables, ?_, added.rest⟩⟩
    · rintro r mem
      obtain rfl := List.mem_singleton.mp mem
      exact free
    · have listed := congrArg (List.map Prod.snd) filled.listed
      rw [List.map_map, List.map_map] at listed
      exact listed
    · rw [protocols]
      exact (List.append_nil _).symm
  | some e =>
    have taken : name ∈ s.classes.names := by
      by_contra free
      rw [named?_eq_none_iff.mpr free] at found
      cases found
    refine Or.inr ⟨[], _, s, ⟨⟨[], rfl⟩, nofun, taken⟩, ?_, left_of_same numbered rfl rfl rfl rfl rfl⟩
    exact outcome_bind_ok (outcome_createClass_taken (by rw [found]; rfl) superclass)

theorem makes_protocol (numbered : s.classes.Numbered) (name : String) :
    Makes (ExceptT.mk (createProtocol name)) s [.ofProtocol name] := by
  have ran : (createProtocol name).outcome s = _ := outcome_bind_ok outcome_get
  unfold ProtocolTable.create at ran
  cases found : s.protocols.named? name with
  | none =>
    rw [found] at ran
    refine Or.inl ⟨?_, _, _, ran, ⟨numbered, rfl, fun id c found => found, ?_, rfl, rfl, rfl⟩⟩
    · rintro r mem
      obtain rfl := List.mem_singleton.mp mem
      exact protocol_named?_eq_none_iff.mp found
    · exact List.map_append
  | some p =>
    rw [found] at ran
    have taken : name ∈ s.protocols.names := by
      by_contra free
      rw [protocol_named?_eq_none_iff.mpr free] at found
      cases found
    exact Or.inr ⟨[], _, s, ⟨⟨[], rfl⟩, nofun, taken⟩, ran, left_of_same numbered rfl rfl rfl rfl rfl⟩

theorem makes_requires (numbered : s.classes.Numbered) (id : ProtocolId) (selectors : List String) :
    Makes (selectors.forM (fun name => do
      let selector ← intern name
      require id selector : String → Registering PUnit)) s [] := by
  obtain ⟨table, protocols, ran, -, names⟩ := outcome_requires (s := s) id selectors
  exact makes_nothing ran (left_of_same numbered rfl names rfl rfl rfl)

theorem makes_reserved (numbered : s.classes.Numbered) : Makes registerBuiltins s reserved := by
  have readable := readable_builtins
  simp only [builtinMethods, List.forall_mem_cons] at readable
  obtain ⟨objects, strings, numbers, exceptions, ports, -⟩ := readable
  refine (makes_class numbered _ _ objects).bind (reserved.drop 1) (fun object t left => ?_) (by decide)
  refine (makes_class left.numbered _ _ strings).bind (reserved.drop 2) (fun string t left => ?_) (by decide)
  refine (makes_class left.numbered _ _ numbers).bind (reserved.drop 3) (fun number t left => ?_) (by decide)
  refine (makes_class left.numbered _ _ exceptions).bind (reserved.drop 4) (fun exception t left => ?_) (by decide)
  refine (makes_protocol left.numbered _).bind (reserved.drop 5) (fun portDelegate t left => ?_) (by decide)
  refine (makes_requires left.numbered portDelegate delegateSelectors).bind (reserved.drop 5)
    (fun _ t left => ?_) fun _ _ => List.not_mem_nil
  refine (makes_class left.numbered _ _ ports).bind [] (fun port t left => ?_) (List.forall_mem_nil _)
  exact makes_nothing rfl (left_of_same left.numbered rfl rfl rfl rfl rfl)

/-! ### One attempt -/

theorem outcome_attempt (pending : s.setup.builtins = none) {r : Except RegistrationError Builtins}
    (ran : registerBuiltins.run.outcome s = (.ok r, t)) : match r with
      | .ok known => builtins.outcome s = (.ok known, { t with setup := { t.setup with builtins := some known } })
      | .error cause => ∃ journal, builtins.outcome s =
          (.error (.panic ("failed to install builtin classes: " ++ cause.message)), { t with journal }) := by
  have asked : builtins.outcome s = _ := outcome_bind_ok outcome_get
  simp only [pending] at asked
  rw [asked, outcome_bind_ok ran]
  cases r with
  | ok known => rfl
  | error cause => exact ⟨_, rfl⟩

/-- An attempt goes through where no name is taken, and stops at the first one that is. -/
theorem outcome_builtins_pending (numbered : s.classes.Numbered) (pending : s.setup.builtins = none) :
    ((∀ r ∈ reserved, ¬r.Taken s) ∧ ∃ known t, Left reserved s t ∧
      builtins.outcome s = (.ok known, { t with setup := { t.setup with builtins := some known } })) ∨
    ∃ done r t, StopsAt s reserved done r ∧ Left done s t ∧ builtins.outcome s = (.error (failure r), t) := by
  rcases makes_reserved numbered with ⟨free, known, t, ran, left⟩ | ⟨done, r, t, stops, ran, left⟩
  · exact Or.inl ⟨free, known, t, left, outcome_attempt pending ran⟩
  · obtain ⟨journal, panics⟩ := outcome_attempt pending ran
    exact Or.inr ⟨done, r, { t with journal }, stops, ⟨left.numbered, left.classes, left.tables, left.protocols, left.rest⟩,
      panics⟩

/-- What is missing can be installed exactly where no name is taken. -/
theorem ready_iff : s.Ready ↔ (s.setup.builtins = none → ∀ r ∈ reserved, ¬r.Taken s) := by
  unfold Machine.Ready reservedNames reserved
  refine imp_congr_right fun _ => ?_
  simp only [List.forall_mem_cons, List.not_mem_nil, false_implies, implies_true, and_true, named?_eq_none_iff,
    protocol_named?_eq_none_iff, Registration.Taken]
  tauto

/-- Where a name is taken an attempt stops at the first one that is. -/
theorem outcome_builtins_unready (numbered : s.classes.Numbered) (unready : ¬s.Ready) : s.setup.builtins = none ∧
    ∃ done r t, StopsAt s reserved done r ∧ Left done s t ∧ builtins.outcome s = (.error (failure r), t) := by
  rw [ready_iff, Classical.not_imp] at unready
  obtain ⟨pending, taken⟩ := unready
  rcases outcome_builtins_pending numbered pending with ⟨free, -⟩ | stopped
  · exact absurd free taken
  · exact ⟨pending, stopped⟩

theorem Left.extended (left : Left done s t) (pending : s.setup.builtins = none) : s.Extended t := by
  obtain ⟨-, client, -⟩ := left.rest
  exact .of_tables left.tables client pending

/-- Where the root class is taken an attempt registers nothing. -/
theorem outcome_builtins_blocked (blocked : Blocked s) : ∃ journal,
    builtins.outcome s = (.error (failure (.ofClass "OxObject")), { s with journal }) := by
  have found : (s.classes.named? "OxObject").isSome := by
    rw [← Option.ne_none_iff_isSome, Ne, named?_eq_none_iff, not_not]
    exact blocked.taken
  have ran : registerBuiltins.run.outcome s = (.ok (.error (.classAlreadyExists "OxObject")), s) :=
    outcome_bind_ok (outcome_bind_ok (outcome_createClass_taken found none) : (defineClass _ _ _).run.outcome s = _)
  exact outcome_attempt blocked.pending ran

/-- Only the first name leads to a failed attempt that leaves nothing behind. -/
theorem unchanged_iff (pending : s.setup.builtins = none) (stops : StopsAt s reserved done r) (left : Left done s t)
    (panics : builtins.outcome s = (.error (failure r), t)) :
    t.classes = s.classes ∧ t.protocols = s.protocols ↔ r = .ofClass "OxObject" := by
  obtain ⟨rest, split⟩ := stops.split
  constructor
  · rintro ⟨same, -⟩
    cases done with
    | nil =>
      obtain ⟨first, -⟩ := List.cons.inj split
      exact first.symm
    | cons x done =>
      obtain ⟨rfl, -⟩ := List.cons.inj split
      have names := congrArg List.length left.classes
      simp [same, Registration.className?] at names
      omega
  · rintro rfl
    obtain ⟨journal, unchanged⟩ := outcome_builtins_blocked ⟨pending, stops.taken⟩
    obtain ⟨-, rfl⟩ := Prod.mk.inj (panics.symm.trans unchanged)
    exact ⟨rfl, rfl⟩

/-- An attempt that failed leaves the root class behind, whichever name it stopped at. -/
theorem blocked_of_stops (pending : s.setup.builtins = none) (stops : StopsAt s reserved done r) (left : Left done s t) :
    Blocked t where
  pending := by
    obtain ⟨-, -, setup⟩ := left.rest
    rw [setup, pending]
  taken := by
    obtain ⟨rest, split⟩ := stops.split
    rw [left.taken_iff]
    cases done with
    | nil =>
      obtain ⟨first, -⟩ := List.cons.inj split
      rw [first]
      exact Or.inr stops.taken
    | cons x done =>
      obtain ⟨first, -⟩ := List.cons.inj split
      rw [first]
      exact Or.inl List.mem_cons_self

/-! ### Later attempts -/

namespace Blocked

theorem journal (blocked : Blocked s) (journal : Log.Journal) : Blocked { s with journal } := ⟨blocked.pending, blocked.taken⟩

theorem of_later (blocked : Blocked s) (later : Later s t) (pending : t.setup.builtins = none) : Blocked t where
  pending := pending
  taken := by
    obtain ⟨e, mem, same⟩ := List.mem_map.mp blocked.taken
    obtain ⟨f, mem, kept⟩ := List.mem_map.mp (later.grows (List.mem_map_of_mem (f := ClassEntry.fixed) mem))
    obtain ⟨-, name, -⟩ : f.id = e.id ∧ f.name = e.name ∧ f.superclass = e.superclass := by
      simpa [ClassEntry.fixed] using kept
    exact List.mem_map.mpr ⟨f, mem, name.trans same⟩

theorem adapter (blocked : Blocked s) : Blocked (adapterClass.outcome s).2 := by
  cases found : s.setup.adapter with
  | some c =>
    rw [outcome_adapterClass found]
    exact blocked
  | none =>
    have asked : adapterClass.outcome s = _ := outcome_bind_ok outcome_get
    simp only [found] at asked
    obtain ⟨journal, panics⟩ := outcome_builtins_blocked blocked
    have refused : registerAdapter.run.outcome s = _ := outcome_bind_error (outcome_bind_error panics)
    rw [asked, outcome_bind_error refused]
    exact blocked.journal journal

theorem install (blocked : Blocked s) : ∃ t, install.outcome s = (.error (failure (.ofClass "OxObject")), t) ∧ Blocked t := by
  obtain ⟨journal, read⟩ := outcome_readEnvironment s
  have pending : Blocked { s with journal, setup := { s.setup with environmentRead := true } } :=
    ⟨blocked.pending, blocked.taken⟩
  obtain ⟨journal, panics⟩ := outcome_builtins_blocked pending
  exact ⟨_, (outcome_bind_ok read).trans (outcome_bind_error panics), pending.journal journal⟩

/-- Nothing that a program does to single classes and protocols sets anything up. -/
theorem setup_perform (op : Conformance.Op) : (Conformance.perform s op).setup = s.setup := by
  cases op with
  | classes op => rw [Conformance.perform_classes]
  | createProtocol name => rcases Conformance.perform_createProtocol (s := s) name with same | same <;> rw [same]
  | require p selector => rfl
  | adopt c p =>
    cases found : s.protocols.get? p with
    | none =>
      have same : Conformance.perform s (.adopt c p) = _ := Conformance.machine_dropping
      rw [same, outcome_adoptProtocol_none found]
    | some protocol => rw [Conformance.perform_adopt found]

theorem step (sound : Sound s) (blocked : Blocked s) (step : Step s t) : Blocked t := by
  have later := step.later sound
  cases step with
  | op op permitted =>
    refine blocked.of_later later ?_
    rw [setup_perform, blocked.pending]
  | builtins =>
    obtain ⟨journal, panics⟩ := outcome_builtins_blocked blocked
    rw [panics]
    exact blocked.journal journal
  | adapter => exact blocked.adapter
  | install =>
    obtain ⟨t, panics, blocked⟩ := blocked.install
    rwa [panics]
  | resolve name =>
    obtain ⟨t, panics, blocked⟩ := blocked.install
    have refused : (resolveClass name).outcome s = _ := outcome_bind_error panics
    rwa [refused]
  | elsewhere classes environment builtins adapter => exact blocked.of_later later (builtins.trans blocked.pending)

/-- The built-in classes stay missing, whatever else happens. -/
theorem of_run (sound : Sound s) (blocked : Blocked s) (run : ReflTransGen Step s t) : Blocked t := by
  induction run with
  | refl => exact blocked
  | tail run last ih => exact ih.step (later_of_run sound run).sound last

end Blocked

/-- An attempt to install what is built in either goes through or stops at the first name that is taken. In the first
    case all names are registered, and every later attempt gives the same handles and changes nothing. In the second
    case the names before the one that is taken are registered, so the registries are as they were only if the attempt
    stopped at the root class. From then on, whatever else happens, every attempt stops at the root class and
    registers nothing. -/
theorem attempts_succeed_at_once_or_never (blank : Blank start) (run : ReflTransGen Step start s)
    (pending : s.setup.builtins = none) :
    ((∀ r ∈ reserved, ¬r.Taken s) ∧ ∃ known t, Left reserved s t ∧
      builtins.outcome s = (.ok known, { t with setup := { t.setup with builtins := some known } }) ∧
      ∀ u, ReflTransGen Step { t with setup := { t.setup with builtins := some known } } u →
        builtins.outcome u = (.ok known, u)) ∨
    ∃ done r t, StopsAt s reserved done r ∧ Left done s t ∧ builtins.outcome s = (.error (failure r), t) ∧
      (t.classes = s.classes ∧ t.protocols = s.protocols ↔ r = .ofClass "OxObject") ∧
      ∀ u, ReflTransGen Step t u → ∃ journal,
        builtins.outcome u = (.error (failure (.ofClass "OxObject")), { u with journal }) := by
  have sound := (later_of_run blank.sound run).sound
  have numbered : s.classes.Numbered := fun c mem => sound.classes.ordered.id_lt mem
  have attempted := (ends_builtins sound).1
  rcases outcome_builtins_pending numbered pending with ⟨free, known, t, left, went⟩ | ⟨done, r, t, stops, left, panics⟩
  · rw [went] at attempted
    refine Or.inl ⟨free, known, t, left, went, fun u run => ?_⟩
    exact outcome_builtins ((later_of_run attempted.sound run).builtins known rfl)
  · rw [panics] at attempted
    have blocked := blocked_of_stops pending stops left
    exact Or.inr ⟨done, r, t, stops, left, panics, unchanged_iff pending stops left panics, fun u run =>
      outcome_builtins_blocked (blocked.of_run attempted.sound run)⟩

/-- A machine in which the name of the second class is given already. -/
def stringTaken : Machine :=
  Conformance.perform (Machine.fresh 0 none (.fresh false false)) (.classes (.create "OxString" none))

theorem stringTaken_stops : (builtins.outcome stringTaken).1 = .error (failure (.ofClass "OxString")) ∧
    (builtins.outcome stringTaken).2.classes.names = ["OxObject", "OxString"] := by decide +kernel

theorem blank_fresh : Blank (Machine.fresh 0 none (.fresh false false)) := ⟨rfl, rfl⟩

theorem run_stringTaken : ReflTransGen Step (Machine.fresh 0 none (.fresh false false)) stringTaken :=
  .single (.op (.classes (.create "OxString" none)) fun _ up => by cases up)

/-- The attempt stops at the second class, with the root class registered, and that is what later attempts stop at. -/
theorem attempt_stops_at_second_class : ∃ t,
    builtins.outcome stringTaken = (.error (failure (.ofClass "OxString")), t) ∧
      t.classes.names = ["OxObject", "OxString"] ∧ ∀ u, ReflTransGen Step t u → ∃ journal,
        builtins.outcome u = (.error (failure (.ofClass "OxObject")), { u with journal }) := by
  obtain ⟨stopped, names⟩ := stringTaken_stops
  obtain ⟨free, -⟩ | ⟨done, r, t, stops, left, panics, -, later⟩ :=
    attempts_succeed_at_once_or_never blank_fresh run_stringTaken rfl
  · exact absurd List.mem_cons_self (free (.ofClass "OxString") (by decide))
  · rw [panics] at stopped names
    exact ⟨t, panics.trans (Prod.ext stopped rfl), names, later⟩

/-- A failed attempt need not leave the registries as they were. -/
theorem failed_attempt_leaves_names : ¬∀ (start s t : Machine) (i : Interruption), Blank start →
    ReflTransGen Step start s → builtins.outcome s = (.error i, t) →
      t.classes = s.classes ∧ t.protocols = s.protocols ∧ (builtins.outcome t).1 = .error i := by
  intro undone
  obtain ⟨stopped, names⟩ := stringTaken_stops
  rcases ran : builtins.outcome stringTaken with ⟨i, t⟩
  rw [ran] at stopped names
  obtain rfl : i = .error (failure (.ofClass "OxString")) := stopped
  obtain ⟨same, -⟩ := undone _ stringTaken t _ blank_fresh run_stringTaken ran
  have before : stringTaken.classes.names = ["OxString"] := rfl
  dsimp only at names
  rw [same, before] at names
  exact absurd names (by decide)

end Attempts
end Messaging
