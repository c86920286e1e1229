import Messaging.Proofs.Builtin.Tables
import Messaging.Proofs.Reachable
import Messaging.Builtin.Routines

/-! What built-in objects carry. Whatever a program does, the class of every object is there, the built-in classes keep
    their methods once they are installed, and among their objects only strings carry a text. Objects get what they
    carry from operations that must fit their classes, and keep it for life. -/

namespace Messaging
open Exec

/-- The built-in classes whose objects are compared by their identity. -/
def Builtins.plain (known : Builtins) : List ClassId := [known.object, known.number, known.exception, known.port]

theorem Builtins.plain_subset (known : Builtins) : known.plain ⊆ known.classes := by
  simp [plain, classes]

structure Machine.Regular (s : Machine) : Prop where
  ordered : ClassTable.Ordered s.classes.entries
  current : s.classes.Current
  typed : ∀ a o, s.memory.get? a = some o → (s.classes.get? o.cls).isSome
  stand : ∀ known, s.setup.builtins = some known → known.Stand s
  texts : ∀ known, s.setup.builtins = some known → ∀ a o, s.memory.get? a = some o →
    (Payload.text? o.payload).isSome → o.cls ∉ known.plain

/-- What an object may be given to carry: a text is not for an object that is compared by its identity. -/
def Machine.Fits (s : Machine) (a : Address) (p : Payload) : Prop :=
  ∀ known o, s.setup.builtins = some known → s.memory.get? a = some o → (Payload.text? (some p)).isSome →
    o.cls ∉ known.plain

/-- The objects of the first memory live in the second, are of the same classes there and carry no other text. -/
def Memory.Inherits (n m : Memory) : Prop :=
  ∀ a o, n.get? a = some o → ∃ p, m.get? a = some p ∧ p.cls = o.cls ∧
    ((Payload.text? o.payload).isSome → (Payload.text? p.payload).isSome)

variable {s t : Machine} {m n : Memory} {a : Address} {p : Payload} {id : ClassId} {known : Builtins}

/-! ### Memories -/

namespace Memory.Inherits

theorem of_heap (same : n.heap = m.heap) : n.Inherits m := fun a o live => ⟨o, by rwa [get?, same] at live, rfl, id⟩

theorem refl (m : Memory) : m.Inherits m := of_heap rfl

theorem trans {k : Memory} (first : n.Inherits m) (second : k.Inherits n) : k.Inherits m := by
  intro a o live
  obtain ⟨p, live, cls, text⟩ := second a o live
  obtain ⟨q, live, cls', text'⟩ := first a p live
  exact ⟨q, live, cls'.trans cls, fun carries => text' (text carries)⟩

theorem put {o old : Object} (live : m.get? a = some old) (cls : o.cls = old.cls)
    (text : (Payload.text? o.payload).isSome → (Payload.text? old.payload).isSome) : (m.put a o).Inherits m := by
  intro b q liveB
  rw [get?_put] at liveB
  split at liveB
  · next same =>
    obtain rfl := Option.some.inj liveB
    exact ⟨old, same ▸ live, cls.symm, text⟩
  · exact ⟨q, liveB, rfl, id⟩

theorem modify? {change : Object → Object} (done : m.modify? a change = some n) (cls : ∀ o, (change o).cls = o.cls)
    (payload : ∀ o, (change o).payload = o.payload) : n.Inherits m := by
  obtain ⟨o, live, rfl⟩ := modify?_eq_some.mp done
  exact put live (cls o) (by rw [payload]; exact id)

theorem release (done : m.release a = some n) : n.Inherits m := by
  obtain ⟨o, live, ⟨-, rfl⟩ | ⟨-, rfl⟩⟩ := release_eq_some.mp done
  · intro b q liveB
    rw [get?_free] at liveB
    split at liveB
    · cases liveB
    · exact ⟨q, liveB, rfl, id⟩
  · exact put live rfl id

theorem storeWeak {slot : SlotId} {target : Option Address} (done : m.storeWeak slot target = some n) : n.Inherits m := by
  cases target with
  | none =>
    cases done
    exact of_heap rfl
  | some a =>
    obtain ⟨k, marked, rfl⟩ := Option.map_eq_some_iff.mp done
    exact (modify? marked (fun _ => rfl) fun _ => rfl).trans (of_heap rfl)

theorem loadWeak {slot : SlotId} {target : Option Address} (done : m.loadWeak slot = some (target, n)) : n.Inherits m := by
  unfold Memory.loadWeak at done
  split at done
  · cases done
    exact .refl m
  · obtain ⟨k, retained, same⟩ := Option.map_eq_some_iff.mp done
    cases same
    exact modify? retained (fun _ => rfl) fun _ => rfl

end Memory.Inherits

/-! ### Machines -/

/-- Two classes differ if one has a method for a message that nothing is written down for in the other. -/
theorem Machine.Defines.ne {other : ClassId} {above above' : Option ClassId} {specs specs' : List MethodSpec}
    (defines : s.Defines id above specs) (defines' : s.Defines other above' specs') {message : MethodKind × String}
    (has : message ∈ specs.map MethodSpec.message) (lacks : message ∉ specs'.map MethodSpec.message) : id ≠ other := by
  rintro rfl
  obtain ⟨spec, mem, rfl⟩ := List.mem_map.mp has
  obtain ⟨selector, m, handle, own, -⟩ := defines.has spec mem
  obtain ⟨spec', mem', kind, name, -⟩ := defines'.only _ _ _ own
  refine lacks (List.mem_map.mpr ⟨spec', mem', ?_⟩)
  rw [MethodSpec.message, kind, name, SelectorTable.name_of_lookup? handle, MethodSpec.message]

/-- Strings are not compared by their identity. -/
theorem Builtins.Stand.string_notMem (stand : known.Stand s) : known.string ∉ known.plain := by
  have differs {other : ClassId} {above : Option ClassId} {specs : List MethodSpec} (defines : s.Defines other above specs)
      (lacks : (MethodKind.ofInstances, "length") ∉ specs.map MethodSpec.message) : known.string ≠ other :=
    stand.string.ne defines (by decide) lacks
  simp only [plain, List.mem_cons, List.not_mem_nil, or_false, not_or]
  exact ⟨differs stand.object (by decide), differs stand.number (by decide), differs stand.exception (by decide),
    differs stand.port (by decide)⟩

theorem Builtins.Stand.known_of_mem (stand : known.Stand s) (mem : id ∈ known.classes) : (s.classes.get? id).isSome := by
  simp only [classes, List.mem_cons, List.not_mem_nil, or_false] at mem
  rcases mem with rfl | rfl | rfl | rfl | rfl
  · exact stand.object.known
  · exact stand.string.known
  · exact stand.number.known
  · exact stand.exception.known
  · exact stand.port.known

theorem Builtins.Stand.congr (stand : known.Stand s) (carries : ∀ id ∈ known.classes, s.classes.Carries t.classes id)
    (handles : s.selectors.Grows t.selectors) : known.Stand t := by
  simp only [classes, List.forall_mem_cons] at carries
  obtain ⟨object, string, number, exception, port, -⟩ := carries
  exact ⟨stand.object.congr object handles, stand.string.congr string handles, stand.number.congr number handles,
    stand.exception.congr exception handles, stand.port.congr port handles⟩

namespace Machine.Regular

/-- Classes and handles may come in, and objects may go. -/
theorem congr (h : s.Regular) (ordered : ClassTable.Ordered t.classes.entries) (current : t.classes.Current)
    (there : ∀ id, (s.classes.get? id).isSome → (t.classes.get? id).isSome)
    (carries : ∀ known, s.setup.builtins = some known → ∀ id ∈ known.classes, s.classes.Carries t.classes id)
    (handles : s.selectors.Grows t.selectors) (builtins : t.setup.builtins = s.setup.builtins)
    (objects : t.memory.Inherits s.memory) : t.Regular where
  ordered := ordered
  current := current
  typed a o live := by
    obtain ⟨p, live, cls, -⟩ := objects a o live
    rw [← cls]
    exact there _ (h.typed a p live)
  stand known installed := by
    rw [builtins] at installed
    exact (h.stand known installed).congr (carries known installed) handles
  texts known installed a o live text := by
    rw [builtins] at installed
    obtain ⟨p, live, cls, carried⟩ := objects a o live
    rw [← cls]
    exact h.texts known installed a p live (carried text)

theorem of_bare (h : s.Regular) (bare : t.classes.bare = s.classes.bare) (current : t.classes.Current)
    (handles : s.selectors.Grows t.selectors) (builtins : t.setup.builtins = s.setup.builtins)
    (objects : t.memory.Inherits s.memory) : t.Regular :=
  h.congr (ClassTable.ordered_of_bare bare h.ordered) current (fun id known => by rwa [ClassTable.isSome_get?_of_bare bare])
    (fun known installed id mem => .of_bare bare ((h.stand known installed).known_of_mem mem)) handles builtins objects

/-- Only objects and the parts of the machine that nothing here reads are changed. -/
theorem of_same (h : s.Regular) (classes : t.classes = s.classes) (selectors : t.selectors = s.selectors)
    (builtins : t.setup.builtins = s.setup.builtins) (objects : t.memory.Inherits s.memory) : t.Regular :=
  h.of_bare (by rw [classes]) (by rw [classes]; exact h.current) (by rw [selectors]; exact .refl _) builtins objects

theorem setMemory (h : s.Regular) (objects : m.Inherits s.memory) : Regular { s with memory := m } :=
  h.of_same rfl rfl rfl objects

theorem setJournal (h : s.Regular) (journal : Log.Journal) : Regular { s with journal } := h.of_same rfl rfl rfl (.refl _)

theorem installs (h : s.Regular) (installs : s.Installs t) : t.Regular :=
  h.congr installs.ordered installs.current (fun id known => (installs.carries id known).known)
    (fun known installed id mem => installs.carries id ((h.stand known installed).known_of_mem mem)) installs.handles
    installs.builtins (by rw [installs.memory]; exact .refl _)

/-- A new object carries nothing. -/
theorem place (h : s.Regular) (there : (s.classes.get? id).isSome) (a : Address) :
    Regular { s with memory := s.memory.place a id } where
  ordered := h.ordered
  current := h.current
  typed b o live := by
    rw [Memory.get?_place] at live
    split at live
    · obtain rfl := Option.some.inj live
      exact there
    · exact h.typed b o live
  stand known installed := (h.stand known installed).congr
    (fun id mem => .of_bare rfl ((h.stand known installed).known_of_mem mem)) (.refl _)
  texts known installed b o live text := by
    rw [Memory.get?_place] at live
    split at live
    · obtain rfl := Option.some.inj live
      cases text
    · exact h.texts known installed b o live text

/-- An object is given something to carry. -/
theorem give (h : s.Regular) {change : Object → Object} (done : s.memory.modify? a change = some m) (fits : s.Fits a p)
    (cls : ∀ o, (change o).cls = o.cls) (payload : ∀ o, (change o).payload = o.payload ∨ (change o).payload = some p) :
    Regular { s with memory := m } := by
  obtain ⟨o, live, rfl⟩ := Memory.modify?_eq_some.mp done
  refine ⟨h.ordered, h.current, fun b q liveB => ?_, fun known installed => ?_, fun known installed b q liveB text => ?_⟩
  · rw [Memory.get?_put] at liveB
    split at liveB
    · obtain rfl := Option.some.inj liveB
      rw [cls]
      exact h.typed a o live
    · exact h.typed b q liveB
  · exact (h.stand known installed).congr
      (fun id mem => .of_bare rfl ((h.stand known installed).known_of_mem mem)) (.refl _)
  · rw [Memory.get?_put] at liveB
    split at liveB
    · obtain rfl := Option.some.inj liveB
      rw [cls]
      rcases payload o with same | same
      · rw [same] at text
        exact h.texts known installed a o live text
      · rw [same] at text
        exact fits known o installed live text
    · exact h.texts known installed b q liveB text

end Machine.Regular

/-! ### Operations -/

section
variable {α : Type} {holds : Machine → Prop} {slot : SlotId} {kind : MethodKind} {selector : Selector} {name : String}

theorem ensures_objectAt (here : holds s) :
    Ensures holds (objectAt a) s fun o t => t = s ∧ s.memory.get? a = some o := by
  cases live : s.memory.get? a with
  | none =>
    have stray : (objectAt a).outcome s = _ := outcome_bind_ok outcome_get
    simp only [live] at stray
    exact ensures_of_outcome stray here nofun
  | some o => exact ensures_of_outcome (outcome_objectAt live) here (by rintro _ ⟨⟩; exact ⟨rfl, rfl⟩)

theorem ensures_classOf (here : holds s) :
    Ensures holds (classOf a) s fun id t => t = s ∧ ∃ o, s.memory.get? a = some o ∧ o.cls = id :=
  (ensures_objectAt here).bind fun o _ here asked => ensures_pure here ⟨asked.1, o, asked.2, rfl⟩

theorem ensures_payloadOf (here : holds s) : Ensures holds (payloadOf a) s fun _ t => t = s :=
  (ensures_objectAt here).bind fun _ _ here asked => ensures_pure here asked.1

theorem maintains_objectAt : Maintains holds (objectAt a) := fun _ here => (ensures_objectAt here).1

theorem maintains_classOf : Maintains holds (classOf a) := fun _ here => (ensures_classOf here).1

theorem maintains_payloadOf : Maintains holds (payloadOf a) := fun _ here => (ensures_payloadOf here).1

theorem maintains_className : Maintains holds (className id) := maintains_get.bind fun _ => maintains_pure _

theorem maintains_record (origin : Log.Origin) (level : Log.Level) (text : String) :
    Maintains Machine.Regular (log origin level text) := fun _ h => h.setJournal _

theorem maintains_onObject {op : Memory → Option Memory} (keeps : ∀ m n, op m = some n → n.Inherits m) :
    Maintains Machine.Regular (onObject a op) := by
  intro s h
  unfold onObject
  rw [outcome_bind_ok outcome_get]
  split
  · next done => exact h.setMemory (keeps _ _ done)
  · exact h

theorem maintains_retain : Maintains Machine.Regular (retain a) :=
  maintains_onObject fun _ _ done => .modify? done (fun _ => rfl) fun _ => rfl

theorem maintains_storeWeak {target : Option Address} : Maintains Machine.Regular (storeWeak slot target) :=
  maintains_onObject fun _ _ done => .storeWeak done

theorem maintains_announceFree (o : Object) : Maintains Machine.Regular (announceFree a o) := by
  intro s h
  obtain ⟨journal, announced⟩ := outcome_announceFree (s := s) (a := a) o
  rw [announced]
  exact h.setJournal journal

theorem maintains_release : Maintains Machine.Regular (release a) := by
  refine maintains_objectAt.bind fun o => ?_
  have done : Maintains Machine.Regular (onObject a fun m => m.release a) := maintains_onObject fun _ _ done => .release done
  split
  · exact (maintains_announceFree o).bind fun _ => done
  · exact done

theorem maintains_loadWeak : Maintains Machine.Regular (loadWeak slot) := by
  intro s h
  unfold loadWeak
  rw [outcome_bind_ok outcome_get]
  split
  · next done => exact h.setMemory (.loadWeak done)
  · exact h

theorem maintains_newSlot : Maintains Machine.Regular newSlot := fun _ h => h.setMemory (.of_heap rfl)

theorem maintains_setPools (pools : PoolStack) : Maintains Machine.Regular (setPools pools) :=
  fun _ h => h.setMemory (.of_heap rfl)

theorem maintains_pools : Maintains Machine.Regular pools := fun _ h => h

theorem maintains_autorelease : Maintains Machine.Regular (autorelease a) := by
  refine maintains_pools.bind fun pools => ?_
  split
  · exact maintains_setPools _
  · exact maintains_record _ _ _

theorem maintains_drain (token : Nat) (l : List Address) : Maintains Machine.Regular (drain token l) := by
  unfold drain
  split
  · exact (maintains_record _ _ _).bind fun _ => maintains_forM fun _ => maintains_release
  · exact maintains_forM fun _ => maintains_release

theorem maintains_cutPools (token : Nat) (cut : PoolStack → List Address × PoolStack) : Maintains Machine.Regular (do
    let (objects, after) := cut (← pools)
    setPools after
    drain token objects) :=
  maintains_pools.bind fun _ => (maintains_setPools _).bind fun _ => maintains_drain _ _

theorem maintains_lookupMethod : Maintains Machine.Regular (lookupMethod id kind selector) := fun _ h =>
  h.of_bare ClassTable.bare_lookup (h.current.lookup id kind selector) (.refl _) rfl (.refl _)

theorem maintains_intern : Maintains Machine.Regular (intern name) := fun _ h =>
  h.of_bare rfl h.current (SelectorTable.grows_register _ _) rfl (.refl _)

/-! ### Giving objects something to carry -/

theorem regular_attach (h : s.Regular) (fits : s.Fits a p) : ((attach a p).outcome s).2.Regular := by
  unfold attach onObject
  rw [outcome_bind_ok outcome_get]
  split
  · next done =>
    refine h.give done fits (fun _ => rfl) fun o => ?_
    dsimp only
    cases o.payload with
    | none => exact Or.inr rfl
    | some q => exact Or.inl rfl
  · exact h

theorem regular_setPayload (h : s.Regular) (fits : s.Fits a p) : ((setPayload a p).outcome s).2.Regular := by
  unfold setPayload onObject
  rw [outcome_bind_ok outcome_get]
  split
  · next done => exact h.give done fits (fun _ => rfl) fun _ => Or.inr rfl
  · exact h

/-- What is no text fits any object. -/
theorem Machine.fits_of_none (plain : Payload.text? (some p) = none) : s.Fits a p := by
  intro known o _ _ text
  rw [plain] at text
  cases text

theorem maintains_attach (plain : Payload.text? (some p) = none) : Maintains Machine.Regular (attach a p) :=
  fun _ h => regular_attach h (Machine.fits_of_none plain)

theorem maintains_setPayload (plain : Payload.text? (some p) = none) : Maintains Machine.Regular (setPayload a p) :=
  fun _ h => regular_setPayload h (Machine.fits_of_none plain)

/-- A new object is of the class that it is made of, and nothing else changes that is read here. -/
theorem ensures_alloc (h : s.Regular) (there : (s.classes.get? id).isSome) :
    Ensures Machine.Regular (alloc id) s fun a t => t.memory.get? a = some ⟨id, 1, none, false⟩ ∧ t.setup = s.setup := by
  obtain ⟨journal, made⟩ := outcome_alloc (s := s) id
  refine ensures_of_outcome made ((h.place there _).setJournal journal) ?_
  rintro _ ⟨⟩
  exact ⟨(Memory.get?_place id).trans (if_pos rfl), rfl⟩

/-! ### What is installed when it is asked for -/

/-- The classes are new when they are installed, so no object is of one of them. -/
theorem ensures_builtins (h : s.Regular) : Ensures Machine.Regular builtins s fun known t => t.setup.builtins = some known := by
  cases installed : s.setup.builtins with
  | some known => exact ensures_of_outcome (outcome_builtins installed) h (by rintro _ ⟨⟩; exact installed)
  | none =>
    have asked : builtins.outcome s = _ := outcome_bind_ok outcome_get
    simp only [installed] at asked
    have registered : Ensures Machine.Regular registerBuiltins.run s fun r t => s.Installs t ∧ ∀ known, r = .ok known →
        known.Stand t ∧ ∀ id ∈ known.classes, s.classes.get? id = none :=
      (registers_registerBuiltins h.ordered h.current).mono (fun _ => h.installs) fun _ _ installs made => ⟨installs, made⟩
    refine Ensures.congr (registered.bind ?_) asked
    rintro (cause | known) t later ⟨installs, made⟩
    · exact ensures_of_outcome rfl (later.setJournal _) nofun
    · obtain ⟨stand, new⟩ := made known rfl
      refine ensures_of_outcome rfl ⟨later.ordered, later.current, later.typed, ?_, ?_⟩ (by rintro _ ⟨⟩; rfl)
      · rintro _ ⟨⟩
        exact stand.congr (fun id mem => .of_bare rfl (stand.known_of_mem mem)) (.refl _)
      · rintro _ ⟨⟩ a o live - plain
        have memory : t.memory = s.memory := installs.memory
        have there := h.typed a o (by rw [← memory]; exact live)
        rw [new o.cls (known.plain_subset plain)] at there
        cases there

theorem maintains_builtins : Maintains Machine.Regular builtins := fun _ h => (ensures_builtins h).1

theorem maintains_newString (contents : String) : Maintains Machine.Regular (newString contents) := by
  refine Ensures.maintains (P := fun _ _ => True) fun s h => ?_
  refine (ensures_builtins h).bind fun known t h installed => ?_
  have stand := h.stand known installed
  refine (ensures_alloc h stand.string.known).bind fun a u h made => ?_
  obtain ⟨live, setup⟩ := made
  have fits : u.Fits a (.text contents) := by
    intro other o found here _
    rw [setup, installed] at found
    obtain rfl := Option.some.inj found
    obtain rfl := Option.some.inj (live.symm.trans here)
    exact stand.string_notMem
  refine (ensures_of_left (regular_attach h fits)).bind fun _ _ h _ => ?_
  exact ensures_pure h trivial

theorem maintains_newException (name reason : String) : Maintains Machine.Regular (newException name reason) := by
  refine Ensures.maintains (P := fun _ _ => True) fun s h => ?_
  refine (ensures_builtins h).bind fun known t h installed => ?_
  refine (ensures_alloc h (h.stand known installed).exception.known).bind fun a u h _ => ?_
  exact ((maintains_attach rfl).ensures h).bind fun _ _ h _ => ensures_pure h trivial

theorem registers_adoptProtocol (installs : s.Installs t) (id : ClassId) (p : ProtocolId) :
    Registers s (ExceptT.mk (adoptProtocol id p)) t fun _ _ => True := by
  cases found : t.protocols.get? p with
  | none => exact ensures_of_outcome (outcome_adoptProtocol_none found) installs fun _ _ _ _ => trivial
  | some protocol =>
    refine ensures_of_outcome (outcome_adoptProtocol_some found) (installs.trans ?_) fun _ _ _ _ => trivial
    exact ⟨ClassTable.ordered_adopt installs.ordered, installs.current.adopt id protocol,
      fun other known => ClassTable.carries_adopt known id protocol, .refl _, rfl, rfl⟩

theorem maintains_registerAdapter : Maintains Machine.Regular registerAdapter.run := by
  refine Ensures.maintains (P := fun _ _ => True) fun s h => ?_
  have asked : Ensures Machine.Regular (ExceptT.lift builtins : Registering Builtins).run s fun r t =>
      ∀ known, r = .ok known → t.setup.builtins = some known :=
    (ensures_builtins h).bind fun _ _ h installed => ensures_pure h (by rintro _ ⟨⟩; exact installed)
  refine Ensures.bind asked fun r t h installed => ?_
  cases r with
  | error cause => exact ensures_pure h trivial
  | ok known =>
    have object := (h.stand known (installed known rfl)).object
    have made : Registers t (defineClass adapterName (some known.object) adapterMethods) t fun id u =>
        t.classes.get? id = none ∧ u.Defines id (some known.object) adapterMethods :=
      registers_defineClass h.ordered h.current (by rintro _ ⟨⟩; exact object.known) (by decide) adapterName
    refine Ensures.mono (Registers.bind (Q := fun _ _ => True) made fun id u installs _ => ?_) (fun _ => h.installs)
      fun _ _ _ _ => trivial
    refine (registers_adoptProtocol installs id known.portDelegate).bind fun _ v installs _ => ?_
    exact (registers_lift (ensures_record installs _ _ _)).bind fun _ w installs _ => registers_pure installs trivial

theorem maintains_adapterClass : Maintains Machine.Regular adapterClass := by
  refine maintains_get.bind fun s => ?_
  split
  · exact maintains_pure _
  · refine maintains_registerAdapter.bind fun r => ?_
    cases r with
    | ok made => exact Maintains.bind (fun _ h => h.of_same rfl rfl rfl (.refl _)) fun _ => maintains_pure _
    | error cause => exact (maintains_record _ _ _).bind fun _ => maintains_throw _

end

/-! ### What lasts -/

/-- A property of machines that lasts whatever routines do with the objects that they are called on or make. -/
structure Lasting (holds : Machine → Prop) : Prop where
  record (origin : Log.Origin) (level : Log.Level) (text : String) : Maintains holds (log origin level text)
  retain {a : Address} : Maintains holds (retain a)
  release {a : Address} : Maintains holds (release a)
  autorelease {a : Address} : Maintains holds (autorelease a)
  attach {a : Address} {p : Payload} (plain : Payload.text? (some p) = none) : Maintains holds (attach a p)
  setPayload {a : Address} {p : Payload} (plain : Payload.text? (some p) = none) : Maintains holds (setPayload a p)
  newString (contents : String) : Maintains holds (newString contents)
  newException (name reason : String) : Maintains holds (newException name reason)

theorem Machine.lasting_regular : Lasting Machine.Regular where
  record := maintains_record
  retain := maintains_retain
  release := maintains_release
  autorelease := maintains_autorelease
  attach := maintains_attach
  setPayload := maintains_setPayload
  newString := maintains_newString
  newException := maintains_newException

namespace Lasting
variable {α : Type} {holds : Machine → Prop} {P : α → Machine → Prop} {inv : Invocation}

/-- A throw has no result, so it ensures anything of its result. -/
theorem ensures_throwObject (lasting : Lasting holds) (here : holds s) :
    Ensures holds (Messaging.throwObject a : Exec α) s P := by
  refine (maintains_classOf.ensures here).bind fun _ t here _ => ?_
  refine (maintains_className.ensures here).bind fun _ t here _ => ?_
  exact ((lasting.record _ _ _).ensures here).bind fun _ t here _ => ⟨here, nofun⟩

theorem throwObject (lasting : Lasting holds) : Maintains holds (Messaging.throwObject a : Exec α) :=
  Ensures.maintains (P := fun _ _ => True) fun _ here => lasting.ensures_throwObject here

theorem ensures_raiseNamed (lasting : Lasting holds) (here : holds s) (name reason : String) :
    Ensures holds (Messaging.raiseNamed name reason : Exec α) s P :=
  ((lasting.newException name reason).ensures here).bind fun _ _ here _ => lasting.ensures_throwObject here

theorem raiseNamed (lasting : Lasting holds) (name reason : String) :
    Maintains holds (Messaging.raiseNamed name reason : Exec α) :=
  Ensures.maintains (P := fun _ _ => True) fun _ here => lasting.ensures_raiseNamed here name reason

theorem pooledString (lasting : Lasting holds) (contents : String) : Maintains holds (Messaging.pooledString contents) :=
  (lasting.newString contents).bind fun _ => lasting.autorelease.bind fun _ => maintains_pure _

/-! ### Receivers and arguments -/

theorem ensures_object (lasting : Lasting holds) (here : holds s) :
    Ensures holds inv.object s fun a t => inv.this = .object a ∧ t = s := by
  unfold Invocation.object requireObject
  cases inv.this with
  | object a => exact ensures_pure here ⟨rfl, rfl⟩
  | cls id => exact lasting.ensures_raiseNamed here _ _

theorem ensures_cls (lasting : Lasting holds) (here : holds s) :
    Ensures holds inv.cls s fun id t => inv.this = .cls id ∧ t = s := by
  unfold Invocation.cls requireClass
  cases inv.this with
  | object a => exact lasting.ensures_raiseNamed here _ _
  | cls id => exact ensures_pure here ⟨rfl, rfl⟩

theorem object (lasting : Lasting holds) : Maintains holds inv.object := fun _ here => (lasting.ensures_object here).1

theorem ensures_payload (lasting : Lasting holds) (here : holds s) : Ensures holds inv.payload s fun _ t => t = s := by
  refine (lasting.ensures_object here).bind fun a t here this => ?_
  obtain ⟨-, rfl⟩ := this
  exact ensures_payloadOf here

theorem payload (lasting : Lasting holds) : Maintains holds inv.payload := fun _ here => (lasting.ensures_payload here).1

theorem argPayload (n : Nat) : Maintains holds (inv.argPayload n) := by
  unfold Invocation.argPayload
  split
  · exact maintains_payloadOf
  · exact maintains_pure _

theorem argText (n : Nat) : Maintains holds (inv.argText n) := (argPayload n).bind fun _ => maintains_pure _

theorem initialized (lasting : Lasting holds) {p : Payload} (plain : Payload.text? (some p) = none) :
    Maintains holds (inv.initialized p) :=
  lasting.object.bind fun _ => (lasting.attach plain).bind fun _ => maintains_pure _

end Lasting
end Messaging
