import Messaging.Proofs.Class.Ancestors
import Messaging.Proofs.Class.Resolution
import Messaging.Proofs.Ensures
import Messaging.Proofs.Installation

/-! The tables of the built-in classes. After an installation each of them has the methods that are written down for it
    and no others, under the handles of their names. Names that are interned keep their handles, and classes that come
    in leave the others alone, so this stays true. -/

namespace Messaging
open Exec

/-! ### Methods of one class -/

/-- A class is the same in two tables, as far as methods are looked up. -/
structure ClassTable.Carries (t u : ClassTable) (id : ClassId) : Prop where
  known : (u.get? id).isSome
  superclass : u.superclass? id = t.superclass? id
  own : ∀ kind s, u.own? id kind s = t.own? id kind s

/-- The method that is written down. -/
structure MethodSpec.Gives (spec : MethodSpec) (m : Method) : Prop where
  routine : m.routine = spec.routine
  signature : Signature.read spec.types = .ok m.signature

/-- That the ownership is written down too makes no difference. -/
theorem MethodSpec.Gives.declared {spec : MethodSpec} {m : Method} (gives : spec.Gives m) :
    spec.Gives (match spec.ownership with
      | some ownership => m.returning ownership
      | none => m) ∧ (match spec.ownership with
      | some ownership => m.returning ownership
      | none => m).selector = m.selector := by
  split
  · exact ⟨⟨gives.routine, gives.signature⟩, rfl⟩
  · exact ⟨gives, rfl⟩

/-- A class has the methods that are written down for it, and no others. -/
structure Machine.Defines (s : Machine) (id : ClassId) (above : Option ClassId) (specs : List MethodSpec) : Prop where
  known : (s.classes.get? id).isSome
  superclass : s.classes.superclass? id = above
  has : ∀ spec ∈ specs, ∃ selector m, s.selectors.lookup? spec.name = some selector ∧
    s.classes.own? id spec.kind selector = some m ∧ spec.Gives m
  only : ∀ kind selector m, s.classes.own? id kind selector = some m →
    ∃ spec ∈ specs, spec.kind = kind ∧ spec.name = selector.name ∧ spec.Gives m

/-- Which method of a class a message is for. -/
def MethodSpec.message (spec : MethodSpec) : MethodKind × String := (spec.kind, spec.name)

namespace ClassTable
variable {t u v : ClassTable} {id other : ClassId} {kind : MethodKind} {m : Method}

namespace Carries

theorem of_bare (same : u.bare = t.bare) (known : (t.get? id).isSome) : t.Carries u id where
  known := by rwa [isSome_get?_of_bare same]
  superclass := superclass?_of_bare same
  own _ _ := own?_of_bare same

theorem trans (first : t.Carries u id) (second : u.Carries v id) : t.Carries v id where
  known := second.known
  superclass := second.superclass.trans first.superclass
  own kind s := (second.own kind s).trans (first.own kind s)

end Carries

theorem carries_create (ordered : Ordered t.entries) (name : String) (superclass : Option ClassId)
    (known : (t.get? id).isSome) :
    t.Carries { t with entries := .fresh ⟨t.entries.length⟩ name superclass :: t.entries } id := by
  have other : (⟨t.entries.length⟩ : ClassId) ≠ id := by
    rintro rfl
    rw [get?_eq_none_of_le ordered (Nat.le_refl _)] at known
    cases known
  refine ⟨?_, ?_, fun kind s => own?_create ordered name superclass⟩
  · rw [get?_create, if_neg other]
    exact known
  · unfold superclass?
    rw [get?_create, if_neg other]

theorem carries_insert (known : (t.get? id).isSome) (differs : other ≠ id) (into : (t.get? other).isSome) (kind : MethodKind)
    (m : Method) : t.Carries (t.insert other kind m).2 id := by
  refine ⟨?_, superclass?_insert, fun k s => ?_⟩
  · rw [get?_insert, Option.isSome_map]
    exact known
  · rw [own?_insert into, if_neg fun here => differs here.1]

theorem carries_adopt (known : (t.get? id).isSome) (other : ClassId) (p : Protocol) : t.Carries (t.adopt other p).2 id := by
  have looked : t.Carries (t.firstMissing other p.required).2 id := .of_bare bare_firstMissing known
  rcases adopt_cases t other p with same | same | same
  · rw [same]
    exact .of_bare rfl known
  · rw [same]
    exact looked
  · rw [same]
    refine looked.trans (u := (t.firstMissing other p.required).2) ⟨?_, ?_, fun kind s => ?_⟩
    · show ((adopting _ other p.id).get? id).isSome
      rw [get?_adopting, Option.isSome_map]
      exact looked.known
    · show (adopting _ other p.id).superclass? id = _
      unfold superclass?
      rw [get?_adopting, Option.bind_map]
      exact Option.bind_congr fun c _ => (noting_eq other p.id c).2.1
    · show (adopting _ other p.id).own? id kind s = _
      unfold own?
      rw [get?_adopting, Option.bind_map]
      exact Option.bind_congr fun c _ => by rw [Function.comp_apply, (noting_eq other p.id c).2.2.2]

end ClassTable

section
variable {s t u : Machine} {id : ClassId} {above superclass : Option ClassId} {name : String} {spec : MethodSpec}
  {specs done rest : List MethodSpec} {kind : MethodKind} {selector : Selector}

namespace Machine.Defines

theorem congr (defines : s.Defines id above specs) (carries : s.classes.Carries t.classes id)
    (grows : s.selectors.Grows t.selectors) : t.Defines id above specs where
  known := carries.known
  superclass := carries.superclass.trans defines.superclass
  has spec mem := by
    obtain ⟨selector, m, handle, own, gives⟩ := defines.has spec mem
    exact ⟨selector, m, grows _ _ handle, (carries.own _ _).trans own, gives⟩
  only kind selector m own := defines.only kind selector m ((carries.own _ _).symm.trans own)

/-- What a class itself answers to a message is what is written down for the message, if anything is. -/
theorem own?_cases (defines : s.Defines id above specs) (kind : MethodKind)
    (handle : s.selectors.lookup? name = some selector) :
    (∃ spec ∈ specs, spec.message = (kind, name) ∧ ∃ m, s.classes.own? id kind selector = some m ∧ spec.Gives m) ∨
    (∀ spec ∈ specs, spec.message ≠ (kind, name)) ∧ s.classes.own? id kind selector = none := by
  cases own : s.classes.own? id kind selector with
  | some m =>
    obtain ⟨spec, mem, rfl, same, gives⟩ := defines.only kind selector m own
    refine Or.inl ⟨spec, mem, ?_, m, rfl, gives⟩
    rw [MethodSpec.message, same, SelectorTable.name_of_lookup? handle]
  | none =>
    refine Or.inr ⟨fun spec mem same => ?_, rfl⟩
    obtain ⟨rfl, rfl⟩ := Prod.mk.inj same
    obtain ⟨_, m, found, here, -⟩ := defines.has spec mem
    obtain rfl := Option.some.inj (handle.symm.trans found)
    rw [own] at here
    cases here

/-- One more method. -/
theorem insert (defines : s.Defines id above done) {m : Method} (handle : s.selectors.lookup? spec.name = some m.selector)
    (gives : spec.Gives m) (new : spec.message ∉ done.map MethodSpec.message) :
    Machine.Defines { s with classes := (s.classes.insert id spec.kind m).2 } id above (done ++ [spec]) where
  known := by
    show ((s.classes.insert id spec.kind m).2.get? id).isSome
    rw [ClassTable.get?_insert, Option.isSome_map]
    exact defines.known
  superclass := ClassTable.superclass?_insert.trans defines.superclass
  has old mem := by
    rcases List.mem_append.mp mem with mem | mem
    · obtain ⟨selector, m', found, own, gives'⟩ := defines.has old mem
      refine ⟨selector, m', found, ?_, gives'⟩
      show (s.classes.insert id spec.kind m).2.own? id old.kind selector = some m'
      rw [ClassTable.own?_insert defines.known, if_neg]
      · exact own
      · rintro ⟨-, kind, same⟩
        refine new (List.mem_map.mpr ⟨old, mem, ?_⟩)
        have names := SelectorTable.name_of_lookup? found
        rw [← same, SelectorTable.name_of_lookup? handle] at names
        rw [MethodSpec.message, MethodSpec.message, kind, names]
    · obtain rfl := List.mem_singleton.mp mem
      refine ⟨m.selector, m, handle, ?_, gives⟩
      show (s.classes.insert id _ m).2.own? id _ m.selector = some m
      rw [ClassTable.own?_insert defines.known, if_pos ⟨rfl, rfl, rfl⟩]
  only kind selector m' own := by
    replace own : (s.classes.insert id spec.kind m).2.own? id kind selector = some m' := own
    rw [ClassTable.own?_insert defines.known] at own
    split at own
    · next here =>
      obtain ⟨-, rfl, rfl⟩ := here
      obtain rfl := Option.some.inj own
      refine ⟨spec, List.mem_append_right _ (List.mem_singleton_self _), rfl, ?_, gives⟩
      exact (SelectorTable.name_of_lookup? handle).symm
    · obtain ⟨old, mem, same⟩ := defines.only kind selector m' own
      exact ⟨old, List.mem_append_left _ mem, same⟩

end Machine.Defines

/-! ### Installing -/

/-- What installing does to a machine: classes and handles come in, and the others are as they were. -/
structure Machine.Installs (s t : Machine) : Prop where
  ordered : ClassTable.Ordered t.classes.entries
  current : t.classes.Current
  carries : ∀ id, (s.classes.get? id).isSome → s.classes.Carries t.classes id
  handles : s.selectors.Grows t.selectors
  memory : t.memory = s.memory
  builtins : t.setup.builtins = s.setup.builtins

namespace Machine.Installs

theorem refl (ordered : ClassTable.Ordered s.classes.entries) (current : s.classes.Current) : s.Installs s :=
  ⟨ordered, current, fun _ known => .of_bare rfl known, .refl _, rfl, rfl⟩

theorem trans (first : s.Installs t) (second : t.Installs u) : s.Installs u where
  ordered := second.ordered
  current := second.current
  carries id known := (first.carries id known).trans (second.carries id (first.carries id known).known)
  handles := first.handles.trans second.handles
  memory := second.memory.trans first.memory
  builtins := second.builtins.trans first.builtins

/-- The classes are left alone. -/
theorem same (ordered : ClassTable.Ordered s.classes.entries) (current : s.classes.Current) (classes : t.classes = s.classes)
    (handles : s.selectors.Grows t.selectors) (memory : t.memory = s.memory)
    (builtins : t.setup.builtins = s.setup.builtins) : s.Installs t := by
  refine ⟨?_, ?_, fun id known => .of_bare (by rw [classes]) known, handles, memory, builtins⟩
  · rwa [classes]
  · rwa [classes]

theorem defines (installs : s.Installs t) (defines : s.Defines id above specs) : t.Defines id above specs :=
  defines.congr (installs.carries id defines.known) installs.handles

/-- Whatever is changed in a class that came in since. -/
theorem modify (installs : s.Installs t) (new : s.classes.get? id = none) {classes : ClassTable}
    (ordered : ClassTable.Ordered classes.entries) (current : classes.Current)
    (carries : ∀ other, other ≠ id → (t.classes.get? other).isSome → t.classes.Carries classes other) :
    s.Installs { t with classes } where
  ordered := ordered
  current := current
  carries other known := by
    refine (installs.carries other known).trans (carries other ?_ (installs.carries other known).known)
    rintro rfl
    rw [new] at known
    cases known
  handles := installs.handles
  memory := installs.memory
  builtins := installs.builtins

end Machine.Installs

/-- A registration from `t` on, in an installation that began at `s`. -/
def Registers {α : Type} (s : Machine) (x : Registering α) (t : Machine) (post : α → Machine → Prop) : Prop :=
  Ensures s.Installs x.run t fun r u => ∀ a, r = .ok a → post a u

section
variable {α β : Type} {P : α → Machine → Prop} {Q : β → Machine → Prop}

theorem registers_pure {a : α} (here : s.Installs t) (post : P a t) : Registers s (pure a) t P :=
  ensures_pure here (by rintro _ ⟨⟩; exact post)

theorem Registers.bind {x : Registering α} {f : α → Registering β} (hx : Registers s x t P)
    (hf : ∀ a u, s.Installs u → P a u → Registers s (f a) u Q) : Registers s (x >>= f) t Q := by
  refine Ensures.bind hx fun r u left post => ?_
  cases r with
  | ok a => exact hf a u left (post a rfl)
  | error cause => exact ensures_pure left nofun

theorem registers_lift {x : Exec α} (hx : Ensures s.Installs x t P) : Registers s (ExceptT.lift x) t P :=
  Ensures.bind hx fun a u left post => ensures_pure left (by rintro _ ⟨⟩; exact post)

/-- What comes later in an installation is a part of it. -/
theorem Registers.later {x : Registering α} (installs : s.Installs t) (hx : Registers t x t P) : Registers s x t P :=
  Ensures.mono hx (fun _ => installs.trans) fun _ _ _ => id

end

theorem ensures_intern (installs : s.Installs t) (name : String) :
    Ensures s.Installs (intern name) t fun selector u => u = { t with selectors := (t.selectors.register name).2 } ∧
      selector.name = name ∧ u.selectors.lookup? name = some selector := by
  have interned : (intern name).outcome t =
      (.ok (t.selectors.register name).1, { t with selectors := (t.selectors.register name).2 }) := rfl
  refine ensures_of_outcome interned (installs.trans (.same installs.ordered installs.current rfl
    (SelectorTable.grows_register _ _) rfl rfl)) ?_
  rintro _ ⟨⟩
  exact ⟨rfl, SelectorTable.name_register _ _, by rw [SelectorTable.lookup?_register, if_pos rfl]⟩

theorem ensures_record (installs : s.Installs t) (origin : Log.Origin) (level : Log.Level) (text : String) :
    Ensures s.Installs (log origin level text) t fun _ _ => True :=
  ensures_of_outcome (outcome_log _ _ _) (installs.trans (.same installs.ordered installs.current rfl (.refl _) rfl rfl))
    fun _ _ => trivial

theorem registers_defineMethod (installs : s.Installs t) (new : s.classes.get? id = none) (defines : t.Defines id above done)
    (other : spec.message ∉ done.map MethodSpec.message) :
    Registers s (defineMethod id spec) t fun _ u => u.Defines id above (done ++ [spec]) := by
  refine (registers_lift (ensures_intern installs spec.name)).bind fun selector u installs interned => ?_
  obtain ⟨rfl, -, handle⟩ := interned
  replace defines : Machine.Defines { t with selectors := (t.selectors.register spec.name).2 } id above done :=
    defines.congr (.of_bare rfl defines.known) (SelectorTable.grows_register _ _)
  generalize { t with selectors := (t.selectors.register spec.name).2 } = u at installs handle defines
  refine Registers.bind (P := fun m v => v = u ∧ m.selector = selector ∧ spec.Gives m) ?_ fun m v installs read => ?_
  · refine ensures_pure installs fun m made => ?_
    unfold Method.read at made
    cases read : Signature.read spec.types with
    | error cause =>
      rw [read] at made
      cases made
    | ok signature =>
      rw [read] at made
      cases made
      exact ⟨rfl, rfl, rfl, read⟩
  obtain ⟨rfl, rfl, gives⟩ := read
  refine (registers_lift (P := fun _ w => w.Defines id above (done ++ [spec])) ?_).bind fun _ w installs defines =>
    registers_pure installs defines
  obtain ⟨gives, same⟩ := gives.declared
  refine ensures_of_outcome rfl (installs.modify new ?_ ?_ fun other differs known => ?_) fun _ _ => ?_
  · exact MethodLookup.ordered_insert installs.ordered
  · exact installs.current.insert _ _ _
  · exact ClassTable.carries_insert known differs.symm defines.known _ _
  · exact defines.insert (handle.trans (congrArg some same.symm)) gives other

theorem registers_defineMethods (installs : s.Installs t) (new : s.classes.get? id = none) (defines : t.Defines id above done)
    (distinct : ((done ++ rest).map MethodSpec.message).Nodup) :
    Registers s (rest.forM (defineMethod id)) t fun _ u => u.Defines id above (done ++ rest) := by
  induction rest generalizing t done with
  | nil =>
    rw [List.append_nil]
    exact registers_pure installs defines
  | cons spec rest ih =>
    have split : done ++ spec :: rest = done ++ [spec] ++ rest := by rw [List.append_assoc, List.singleton_append]
    rw [split] at distinct ⊢
    have other : spec.message ∉ done.map MethodSpec.message := by
      rw [List.map_append, List.map_append] at distinct
      intro mem
      exact (List.nodup_append.mp (List.nodup_append.mp distinct).1).2.2 _ mem _ (List.mem_singleton_self _) rfl
    exact (registers_defineMethod installs new defines other).bind fun _ u installs defines => ih installs defines distinct

/-- A class comes in without methods. -/
theorem registers_createClass (ordered : ClassTable.Ordered s.classes.entries) (current : s.classes.Current)
    (there : ∀ above, superclass = some above → (s.classes.get? above).isSome) (name : String) :
    Registers s (ExceptT.mk (createClass name superclass)) s fun id t =>
      s.classes.get? id = none ∧ t.Defines id superclass [] := by
  cases free : s.classes.named? name with
  | some e => exact ensures_of_outcome (outcome_createClass_taken (by rw [free]; rfl) superclass) (.refl ordered current) nofun
  | none =>
    have new : s.classes.get? ⟨s.classes.entries.length⟩ = none := ClassTable.get?_eq_none_of_le ordered (Nat.le_refl _)
    have fresh : ClassTable.get? { s.classes with
        entries := .fresh ⟨s.classes.entries.length⟩ name superclass :: s.classes.entries } ⟨s.classes.entries.length⟩ =
        some (.fresh ⟨s.classes.entries.length⟩ name superclass) := by
      rw [ClassTable.get?_create, if_pos rfl]
    refine ensures_of_outcome (outcome_createClass_free free superclass) ⟨?_, ?_, ?_, .refl _, rfl, rfl⟩ ?_
    · exact ⟨rfl, fun above up => MethodLookup.Ordered.get?_lt ordered (there above up), ordered⟩
    · exact current.create ordered name superclass
    · exact fun id known => ClassTable.carries_create ordered name superclass known
    · rintro _ ⟨⟩ _ ⟨⟩
      refine ⟨new, ⟨?_, ?_, nofun, fun kind selector m own => ?_⟩⟩
      · rw [fresh]
        rfl
      · rw [ClassTable.superclass?, fresh]
        rfl
      · rw [ClassTable.own?, fresh] at own
        cases kind <;> cases own

/-- A class that comes in has all its methods, or the installation stops at its name. -/
theorem registers_defineClass (ordered : ClassTable.Ordered s.classes.entries) (current : s.classes.Current)
    (there : ∀ above, superclass = some above → (s.classes.get? above).isSome)
    (distinct : (specs.map MethodSpec.message).Nodup) (name : String) :
    Registers s (defineClass name superclass specs) s fun id t =>
      s.classes.get? id = none ∧ t.Defines id superclass specs := by
  refine (registers_createClass ordered current there name).bind fun id t installs made => ?_
  obtain ⟨new, defines⟩ := made
  exact (registers_defineMethods installs new defines distinct).bind fun _ u installs defines =>
    registers_pure installs ⟨new, defines⟩

/-! ### The built-in classes -/

/-- The classes that are built in. -/
def Builtins.classes (known : Builtins) : List ClassId :=
  [known.object, known.string, known.number, known.exception, known.port]

/-- The built-in classes are there, each with its own methods. -/
structure Builtins.Stand (known : Builtins) (s : Machine) : Prop where
  object : s.Defines known.object none objectMethods
  string : s.Defines known.string (some known.object) stringMethods
  number : s.Defines known.number (some known.object) numberMethods
  exception : s.Defines known.exception (some known.object) exceptionMethods
  port : s.Defines known.port (some known.object) portMethods

theorem Machine.Installs.stand {known : Builtins} (installs : s.Installs t) (stand : known.Stand s) : known.Stand t :=
  ⟨installs.defines stand.object, installs.defines stand.string, installs.defines stand.number,
    installs.defines stand.exception, installs.defines stand.port⟩

theorem distinct_messages : ∀ specs ∈ builtinMethods, (specs.map MethodSpec.message).Nodup := by decide

/-- What was not there when the installation began was not there before. -/
theorem Machine.Installs.new (installs : s.Installs t) (new : t.classes.get? id = none) : s.classes.get? id = none := by
  cases known : s.classes.get? id with
  | none => rfl
  | some c =>
    have carried := (installs.carries id (by rw [known]; rfl)).known
    rw [new] at carried
    cases carried

theorem registers_requires (installs : s.Installs t) (id : ProtocolId) (selectors : List String) :
    Registers s (selectors.forM (fun name => do
      let selector ← intern name
      require id selector : String → Registering PUnit)) t fun _ _ => True := by
  obtain ⟨table, protocols, ran, grows, -⟩ := outcome_requires (s := t) id selectors
  exact ensures_of_outcome ran (installs.trans (.same installs.ordered installs.current rfl grows rfl rfl))
    fun _ _ _ _ => trivial

/-- An installation that goes through makes the built-in classes anew. -/
theorem registers_registerBuiltins (ordered : ClassTable.Ordered s.classes.entries) (current : s.classes.Current) :
    Registers s registerBuiltins s fun known t => known.Stand t ∧ ∀ id ∈ known.classes, s.classes.get? id = none := by
  have distinct := distinct_messages
  simp only [builtinMethods, List.forall_mem_cons] at distinct
  obtain ⟨objects, strings, numbers, exceptions, ports, -⟩ := distinct
  have below {t : Machine} {object : ClassId} {specs : List MethodSpec} (defines : t.Defines object none specs) :
      ∀ above, some object = some above → (t.classes.get? above).isSome := by
    rintro above ⟨⟩
    exact defines.known
  -- After each class the rest is an installation of its own, so that the classes before it are carried along.
  refine (registers_defineClass ordered current (fun _ up => by cases up) objects _).bind fun object t₁ i₁ made => ?_
  obtain ⟨newObject, object_⟩ := made
  refine .later i₁ ?_
  refine (registers_defineClass i₁.ordered i₁.current (below object_) strings _).bind fun string t₂ i₂ made => ?_
  obtain ⟨newString, string_⟩ := made
  replace object_ := i₂.defines object_
  refine .later i₂ ?_
  refine (registers_defineClass i₂.ordered i₂.current (below object_) numbers _).bind fun number t₃ i₃ made => ?_
  obtain ⟨newNumber, number_⟩ := made
  replace object_ := i₃.defines object_
  refine .later i₃ ?_
  refine (registers_defineClass i₃.ordered i₃.current (below object_) exceptions _).bind fun exception t₄ i₄ made => ?_
  obtain ⟨newException, exception_⟩ := made
  refine .later i₄ ?_
  refine Registers.bind (P := fun _ _ => True) ?_ fun portDelegate t₅ i₅ _ => ?_
  · obtain ⟨r, protocols, ran⟩ := outcome_createProtocol (s := t₄) "OxPortDelegate"
    exact ensures_of_outcome ran (.same i₄.ordered i₄.current rfl (.refl _) rfl rfl) fun _ _ _ _ => trivial
  refine (registers_requires i₅ portDelegate delegateSelectors).bind fun _ t₆ i₆ _ => ?_
  replace object_ := i₆.defines (i₄.defines object_)
  refine .later i₆ ?_
  refine (registers_defineClass i₆.ordered i₆.current (below object_) ports _).bind fun port t₇ i₇ made => ?_
  obtain ⟨newPort, port_⟩ := made
  refine .later i₇ ?_
  refine (registers_lift (ensures_record (.refl i₇.ordered i₇.current) _ _ _)).bind fun _ u i₈ _ => ?_
  refine registers_pure i₈ ⟨?_, ?_⟩
  · have stand : Builtins.Stand ⟨object, string, number, exception, port, portDelegate⟩ t₇ :=
      ⟨i₇.defines object_, i₇.defines (i₆.defines (i₄.defines (i₃.defines string_))),
        i₇.defines (i₆.defines (i₄.defines number_)), i₇.defines (i₆.defines exception_), port_⟩
    exact i₈.stand stand
  · simp only [Builtins.classes, List.forall_mem_cons]
    exact ⟨newObject, i₁.new newString, i₁.new (i₂.new newNumber), i₁.new (i₂.new (i₃.new newException)),
      i₁.new (i₂.new (i₃.new (i₄.new (i₆.new newPort)))), List.forall_mem_nil _⟩

end
end Messaging
