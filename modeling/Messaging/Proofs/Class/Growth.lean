import Messaging.Proofs.Class.Naming
import Messaging.Proofs.Unwind
import Messaging.TypedCall.Symbols

/-! Machines in which classes come about. They are created by clients and by the installation of what is built in, which
    may find names taken and panic. However that ends, the classes that were there are there with their names and
    superclasses, and what was installed stays installed. -/

namespace Messaging
namespace Hierarchy
open ClassTable Exec

def Knows (s : Machine) (c : ClassId) : Prop := (s.classes.get? c).isSome

/-- The classes are sound, and the one that built-in classes get as their superclass is there. -/
structure Sound (s : Machine) : Prop where
  classes : s.classes.Sound
  object : ∀ known, s.setup.builtins = some known → Knows s known.object

/-- The second machine is sound, and has all the classes of the first and all that was set up in it. -/
structure Later (s t : Machine) : Prop where
  sound : Sound t
  grows : s.classes.fixed ⊆ t.classes.fixed
  environment : s.setup.environmentRead = true → t.setup.environmentRead = true
  builtins : ∀ known, s.setup.builtins = some known → t.setup.builtins = some known
  adapter : ∀ c, s.setup.adapter = some c → t.setup.adapter = some c

/-- Nothing is left to be installed. -/
structure Installed (s : Machine) : Prop where
  environment : s.setup.environmentRead = true
  builtins : s.setup.builtins.isSome
  adapter : s.setup.adapter.isSome

/-- However the computation ends the machine is a later one, and what is said about its result holds. -/
def Ends {α : Type} (x : Exec α) (s : Machine) (post : α → Machine → Prop) : Prop :=
  Later s (x.outcome s).2 ∧ ∀ a, (x.outcome s).1 = .ok a → post a (x.outcome s).2

def Registers {α : Type} (x : Registering α) (s : Machine) (post : α → Machine → Prop) : Prop :=
  Ends x.run s fun r t => ∀ a, r = .ok a → post a t

variable {s t u : Machine} {c : ClassId} {name : String} {superclass : Option ClassId}

/-! ### Later machines -/

theorem knows_iff : Knows s c ↔ ∃ x ∈ s.classes.fixed, x.1 = c := by
  unfold Knows ClassTable.get? ClassTable.fixed
  simp only [List.find?_isSome, List.mem_map, exists_exists_and_eq_and, decide_eq_true_eq]
  rfl

namespace Later

theorem refl (sound : Sound s) : Later s s := ⟨sound, List.Subset.refl _, id, fun _ => id, fun _ => id⟩

theorem trans (first : Later s t) (second : Later t u) : Later s u where
  sound := second.sound
  grows := List.Subset.trans first.grows second.grows
  environment read := second.environment (first.environment read)
  builtins known found := second.builtins known (first.builtins known found)
  adapter c found := second.adapter c (first.adapter c found)

theorem knows (later : Later s t) (known : Knows s c) : Knows t c := by
  obtain ⟨x, mem, same⟩ := knows_iff.mp known
  exact knows_iff.mpr ⟨x, later.grows mem, same⟩

/-- Only the classes changed. -/
theorem of_table (sound : Sound s) (table : t.classes.Sound) (grows : s.classes.fixed ⊆ t.classes.fixed)
    (setup : t.setup = s.setup) : Later s t := by
  refine ⟨⟨table, fun known found => ?_⟩, grows, ?_, ?_, ?_⟩
  · rw [setup] at found
    obtain ⟨x, mem, same⟩ := knows_iff.mp (sound.object known found)
    exact knows_iff.mpr ⟨x, grows mem, same⟩
  all_goals
    rw [setup]
    simp

theorem of_fixed (sound : Sound s) (table : t.classes.Sound) (same : t.classes.fixed = s.classes.fixed)
    (setup : t.setup = s.setup) : Later s t :=
  of_table sound table (by rw [same]; exact List.Subset.refl _) setup

theorem of_same (sound : Sound s) (classes : t.classes = s.classes) (setup : t.setup = s.setup) : Later s t :=
  of_fixed sound (by rw [classes]; exact sound.classes) (by rw [classes]) setup

theorem installed (later : Later s t) (installed : Installed s) : Installed t := by
  obtain ⟨known, found⟩ := Option.isSome_iff_exists.mp installed.builtins
  obtain ⟨adapter, found'⟩ := Option.isSome_iff_exists.mp installed.adapter
  exact ⟨later.environment installed.environment, by rw [later.builtins known found]; rfl,
    by rw [later.adapter adapter found']; rfl⟩

end Later

/-! ### Computations -/

section
variable {α β : Type} {P : α → Machine → Prop} {Q : β → Machine → Prop}

theorem ends_of_outcome {x : Exec α} {r : Except Interruption α} (ran : x.outcome s = (r, t)) (later : Later s t)
    (holds : ∀ a, r = .ok a → P a t) : Ends x s P := by
  unfold Ends
  rw [ran]
  exact ⟨later, holds⟩

theorem ends_pure {a : α} (sound : Sound s) (holds : P a s) : Ends (pure a : Exec α) s P :=
  ends_of_outcome (outcome_pure a) (.refl sound) (by rintro _ ⟨⟩; exact holds)

theorem Ends.congr {x y : Exec α} (hx : Ends x s P) (same : y.outcome s = x.outcome s) : Ends y s P := by
  unfold Ends
  rw [same]
  exact hx

/-- What goes on with a result need not lead to a later machine itself, only to one that is later than the first. -/
theorem Ends.then {x : Exec α} {f : α → Exec β} (hx : Ends x s P) (hf : ∀ a t, Later s t → P a t →
    ∃ r u, (f a).outcome t = (r, u) ∧ Later s u ∧ ∀ b, r = .ok b → Q b u) : Ends (x >>= f) s Q := by
  obtain ⟨later, holds⟩ := hx
  rcases ran : x.outcome s with ⟨i | a, t⟩
  · rw [ran] at later
    exact ends_of_outcome (outcome_bind_error ran) later nofun
  · rw [ran] at later holds
    obtain ⟨r, u, went, later, holds⟩ := hf a t later (holds a rfl)
    exact ends_of_outcome ((outcome_bind_ok ran).trans went) later holds

theorem Ends.bind {x : Exec α} {f : α → Exec β} (hx : Ends x s P)
    (hf : ∀ a t, Later s t → P a t → Ends (f a) t Q) : Ends (x >>= f) s Q :=
  hx.then fun a t later holds => ⟨_, _, rfl, later.trans (hf a t later holds).1, (hf a t later holds).2⟩

theorem registers_pure {a : α} (sound : Sound s) (holds : P a s) : Registers (pure a : Registering α) s P :=
  ends_pure sound (by rintro _ ⟨⟩; exact holds)

theorem Registers.bind {x : Registering α} {f : α → Registering β} (hx : Registers x s P)
    (hf : ∀ a t, Later s t → P a t → Registers (f a) t Q) : Registers (x >>= f) s Q := by
  refine Ends.bind hx fun r t later holds => ?_
  cases r with
  | ok a => exact hf a t later (holds a rfl)
  | error cause => exact ends_pure later.sound nofun

theorem registers_lift {x : Exec α} (hx : Ends x s P) : Registers (ExceptT.lift x : Registering α) s P :=
  Ends.bind hx fun a t later holds => ends_pure later.sound (by rintro _ ⟨⟩; exact holds)

theorem registers_forM {f : α → Registering PUnit} (hf : ∀ a s, Sound s → Registers (f a) s fun _ _ => True)
    (sound : Sound s) (l : List α) : Registers (l.forM f) s fun _ _ => True := by
  induction l generalizing s with
  | nil => exact registers_pure sound trivial
  | cons a rest ih => exact (hf a s sound).bind fun _ t later _ => ih later.sound

end

theorem ends_log (sound : Sound s) (origin : Log.Origin) (level : Log.Level) (text : String) :
    Ends (log origin level text) s fun _ _ => True :=
  ends_of_outcome (outcome_log _ _ _) (.of_same sound rfl rfl) fun _ _ => trivial

theorem ends_intern (sound : Sound s) (name : String) : Ends (intern name) s fun _ _ => True :=
  ends_of_outcome rfl (.of_same sound rfl rfl) fun _ _ => trivial

theorem registers_createProtocol (sound : Sound s) (name : String) :
    Registers (ExceptT.mk (createProtocol name)) s fun _ _ => True := by
  obtain ⟨r, protocols, ran⟩ := outcome_createProtocol (s := s) name
  exact ends_of_outcome ran (.of_same sound rfl rfl) fun _ _ _ _ => trivial

theorem ends_require (sound : Sound s) (id : ProtocolId) (selector : Selector) :
    Ends (require id selector) s fun _ _ => True :=
  ends_of_outcome rfl (.of_same sound rfl rfl) fun _ _ => trivial

theorem registers_adoptProtocol (sound : Sound s) (id : ClassId) (p : ProtocolId) :
    Registers (ExceptT.mk (adoptProtocol id p)) s fun _ _ => True := by
  cases found : s.protocols.get? p with
  | none => exact ends_of_outcome (outcome_adoptProtocol_none found) (.refl sound) fun _ _ _ _ => trivial
  | some protocol =>
    have later : Later s { s with classes := (s.classes.adopt id protocol).2 } :=
      .of_fixed sound (sound.classes.adopt id protocol) (fixed_adopt protocol) rfl
    exact ends_of_outcome (outcome_adoptProtocol_some found) later fun _ _ _ _ => trivial

theorem ends_insertMethod (sound : Sound s) (id : ClassId) (kind : MethodKind) (m : Method) :
    Ends (insertMethod id kind m) s fun _ _ => True :=
  ends_of_outcome rfl (.of_fixed sound (sound.classes.insert id kind m) fixed_insert rfl) fun _ _ => trivial

/-! ### Creating classes -/

theorem registers_createClass (sound : Sound s) (known : ∀ above, superclass = some above → Knows s above) (name : String) :
    Registers (ExceptT.mk (createClass name superclass)) s fun id t => Knows t id := by
  cases free : s.classes.named? name with
  | some e => exact ends_of_outcome (outcome_createClass_taken (by rw [free]; rfl) superclass) (.refl sound) (by simp)
  | none =>
    refine ends_of_outcome (outcome_createClass_free free superclass) (.of_table sound ?_ ?_ rfl) ?_
    · exact sound.classes.create free known
    · exact List.subset_cons_self _ _
    · rintro _ ⟨⟩ _ ⟨⟩
      exact knows_iff.mpr ⟨_, List.mem_cons_self, rfl⟩

theorem registers_defineMethod (sound : Sound s) (id : ClassId) (spec : MethodSpec) :
    Registers (defineMethod id spec) s fun _ _ => True := by
  refine (registers_lift (ends_intern sound spec.name)).bind fun selector t later _ => ?_
  refine Registers.bind (P := fun _ _ => True) (ends_pure later.sound fun _ _ => trivial) fun m u later _ => ?_
  exact (registers_lift (ends_insertMethod later.sound id spec.kind _)).bind fun _ v later _ =>
    registers_pure later.sound trivial

theorem registers_defineClass (sound : Sound s) (known : ∀ above, superclass = some above → Knows s above) (name : String)
    (methods : List MethodSpec) : Registers (defineClass name superclass methods) s fun id t => Knows t id := by
  refine (registers_createClass sound known name).bind fun id t later known => ?_
  refine (registers_forM (fun spec s sound => registers_defineMethod sound id spec) later.sound methods).bind
    fun _ u later _ => ?_
  exact registers_pure later.sound (later.knows known)

/-! ### Installing what is built in -/

theorem registers_registerBuiltins (sound : Sound s) : Registers registerBuiltins s fun made t => Knows t made.object := by
  have below {t : Machine} {object : ClassId} (known : Knows t object) :
      ∀ above, some object = some above → Knows t above := by
    rintro above ⟨⟩
    exact known
  have root : ∀ above, none = some above → Knows s above := fun _ up => by cases up
  -- That the root class is there is carried along, since it is named again and again.
  refine (registers_defineClass sound root _ _).bind fun object t later known => ?_
  refine (registers_defineClass later.sound (below known) _ _).bind fun string t later _ => ?_
  replace known := later.knows known
  refine (registers_defineClass later.sound (below known) _ _).bind fun number t later _ => ?_
  replace known := later.knows known
  refine (registers_defineClass later.sound (below known) _ _).bind fun exception t later _ => ?_
  replace known := later.knows known
  refine (registers_createProtocol later.sound _).bind fun portDelegate t later _ => ?_
  replace known := later.knows known
  refine (registers_forM (fun name s sound => ?_) later.sound _).bind fun _ t later _ => ?_
  · exact (registers_lift (ends_intern sound name)).bind fun selector t later _ =>
      registers_lift (ends_require later.sound portDelegate selector)
  replace known := later.knows known
  refine (registers_defineClass later.sound (below known) _ _).bind fun port t later _ => ?_
  replace known := later.knows known
  refine (registers_lift (ends_log later.sound _ _ _)).bind fun _ t later _ => ?_
  exact registers_pure later.sound (later.knows known)

/-- Nothing was installed before, so nothing that was is overwritten. -/
theorem ends_builtins (sound : Sound s) : Ends builtins s fun known t => t.setup.builtins = some known := by
  cases found : s.setup.builtins with
  | some known => exact ends_of_outcome (outcome_builtins found) (.refl sound) (by rintro _ ⟨⟩; exact found)
  | none =>
    have asked : builtins.outcome s = _ := outcome_bind_ok outcome_get
    simp only [found] at asked
    refine Ends.congr (Ends.then (registers_registerBuiltins sound) ?_) asked
    rintro (cause | known) t later made
    · exact ⟨_, _, rfl, later.trans (.of_same later.sound rfl rfl), nofun⟩
    · refine ⟨_, _, rfl, ⟨⟨later.sound.classes, ?_⟩, later.grows, later.environment, ?_, later.adapter⟩, ?_⟩
      · rintro _ ⟨⟩
        exact made known rfl
      · rw [found]
        exact nofun
      · rintro _ ⟨⟩
        rfl

theorem ends_readEnvironment (sound : Sound s) : Ends readEnvironment s fun _ t => t.setup.environmentRead = true := by
  obtain ⟨journal, ran⟩ := outcome_readEnvironment s
  exact ends_of_outcome ran ⟨⟨sound.classes, sound.object⟩, List.Subset.refl _, fun _ => rfl, fun _ => id, fun _ => id⟩
    fun _ _ => rfl

theorem registers_registerAdapter (sound : Sound s) : Registers registerAdapter s fun _ _ => True := by
  refine (registers_lift (ends_builtins sound)).bind fun known t later found => ?_
  have object : ∀ above, some known.object = some above → Knows t above := by
    rintro above ⟨⟩
    exact later.sound.object known found
  refine (registers_defineClass later.sound object _ _).bind fun id t later _ => ?_
  refine (registers_adoptProtocol later.sound id known.portDelegate).bind fun _ t later _ => ?_
  exact (registers_lift (ends_log later.sound _ _ _)).bind fun _ t later _ => registers_pure later.sound trivial

theorem outcome_adapterClass (installed : s.setup.adapter = some c) : adapterClass.outcome s = (.ok c, s) := by
  unfold adapterClass
  rw [outcome_bind_ok outcome_get]
  simp only [installed]
  rfl

theorem ends_adapterClass (sound : Sound s) : Ends adapterClass s fun c t => t.setup.adapter = some c := by
  cases found : s.setup.adapter with
  | some c => exact ends_of_outcome (outcome_adapterClass found) (.refl sound) (by rintro _ ⟨⟩; exact found)
  | none =>
    have asked : adapterClass.outcome s = _ := outcome_bind_ok outcome_get
    simp only [found] at asked
    refine Ends.congr (Ends.then (registers_registerAdapter sound) ?_) asked
    rintro (cause | c) t later -
    · exact ⟨_, _, rfl, later.trans (.of_same later.sound rfl rfl), nofun⟩
    · refine ⟨_, _, rfl, ⟨⟨later.sound.classes, later.sound.object⟩, later.grows, later.environment, later.builtins, ?_⟩, ?_⟩
      · rw [found]
        exact nofun
      · rintro _ ⟨⟩
        rfl

theorem ends_install (sound : Sound s) : Ends install s fun _ t => Installed t := by
  refine (ends_readEnvironment sound).bind fun _ t later read => ?_
  refine (ends_builtins later.sound).bind fun known t later found => ?_
  replace read := later.environment read
  refine (ends_adapterClass later.sound).bind fun c t later found' => ?_
  refine ends_pure later.sound ⟨later.environment read, ?_, ?_⟩
  · rw [later.builtins known found]
    rfl
  · rw [found']
    rfl

/-- Where everything is installed nothing is done. -/
theorem outcome_install (installed : Installed s) : install.outcome s = (.ok (), s) := by
  obtain ⟨known, found⟩ := Option.isSome_iff_exists.mp installed.builtins
  obtain ⟨adapter, found'⟩ := Option.isSome_iff_exists.mp installed.adapter
  have read : readEnvironment.outcome s = (.ok (), s) := by
    unfold readEnvironment
    rw [outcome_bind_ok outcome_get]
    simp only [installed.environment]
    rfl
  unfold install
  rw [outcome_bind_ok read, outcome_bind_ok (outcome_builtins found), outcome_bind_ok (outcome_adapterClass found'),
    outcome_pure]

/-- With everything installed a name is looked up, and that is noted. -/
theorem outcome_resolveClass (ready : install.outcome s = (.ok (), t)) (name : String) : ∃ journal,
    (resolveClass name).outcome s = (.ok ((t.classes.named? name).map ClassEntry.id), { t with journal }) := by
  unfold resolveClass
  rw [outcome_bind_ok ready, outcome_bind_ok outcome_get]
  cases t.classes.named? name <;> exact ⟨_, rfl⟩

theorem ends_resolveClass (sound : Sound s) (name : String) : Ends (resolveClass name) s fun r t =>
    Installed t ∧ r = (t.classes.named? name).map ClassEntry.id := by
  obtain ⟨later, installed⟩ := ends_install sound
  rcases ran : install.outcome s with ⟨_ | ⟨⟩, t⟩
  · rw [ran] at later
    exact ends_of_outcome (outcome_bind_error ran) later nofun
  · rw [ran] at later installed
    obtain ⟨journal, resolved⟩ := outcome_resolveClass ran name
    have noted : Later t { t with journal } := .of_same later.sound rfl rfl
    refine ends_of_outcome resolved (later.trans noted) ?_
    rintro _ ⟨⟩
    exact ⟨noted.installed (installed () rfl), rfl⟩

/-! ### Resolving symbols -/

theorem ends_mapM {α β : Type} {f : α → Exec β} (hf : ∀ a s, Sound s → Ends (f a) s fun _ _ => True) (sound : Sound s)
    (l : List α) : Ends (l.mapM f) s fun _ _ => True := by
  induction l generalizing s with
  | nil => exact ends_pure sound trivial
  | cons a rest ih =>
    rw [List.mapM_cons]
    exact (hf a s sound).bind fun _ t later _ => (ih later.sound).bind fun _ t later _ => ends_pure later.sound trivial

/-- Resolving a list that names a class installs everything. -/
theorem ends_resolve (sound : Sound s) {l : SymbolList} (names : l.classes ≠ []) :
    Ends l.resolve s fun _ t => Installed t := by
  obtain ⟨first, rest, same⟩ := List.exists_cons_of_ne_nil names
  unfold SymbolList.resolve
  rw [same, List.mapM_cons]
  refine Ends.bind (P := fun _ t => Installed t) ?_ fun classes t later installed => ?_
  · refine Ends.bind (P := fun _ t => Installed t) ?_ fun token t later installed => ?_
    · exact (ends_resolveClass sound first.2).bind fun _ t later found => ends_pure later.sound found.1
    refine (ends_mapM (fun e s sound => ?_) later.sound rest).bind fun _ u later _ =>
      ends_pure later.sound (later.installed installed)
    exact (ends_resolveClass sound e.2).bind fun _ t later _ => ends_pure later.sound trivial
  refine (ends_mapM (fun e s sound => ?_) later.sound l.selectors).bind fun selectors t later _ => ?_
  · exact (ends_intern sound e.2).bind fun _ t later _ => ends_pure later.sound trivial
  replace installed := later.installed installed
  dsimp only
  split <;>
    exact (ends_log later.sound _ _ _).bind fun _ t later _ => ends_pure later.sound (later.installed installed)

/-- Asking for the symbols of the built-in classes resolves them, or finds them resolved. -/
theorem ends_baseSelector (sound : Sound s) (name : String) :
    Ends (baseSelector name) s fun _ t =>
      Installed t ∨ t.classes = s.classes ∧ t.protocols = s.protocols ∧ t.setup = s.setup := by
  cases found : s.setup.symbols.get? baseSymbolList.title with
  | some table =>
    have asked : baseSymbols.outcome s = (.ok table, s) := by
      unfold baseSymbols SymbolList.table
      rw [outcome_bind_ok outcome_get]
      simp only [found]
      rfl
    exact ends_of_outcome (outcome_bind_ok asked) (.of_same sound rfl rfl) fun _ _ => Or.inr ⟨rfl, rfl, rfl⟩
  | none =>
    have asked : baseSymbols.outcome s = _ := outcome_bind_ok outcome_get
    simp only [found] at asked
    have resolved : Ends baseSymbols s fun _ t => Installed t := by
      have named : baseSymbolList.classes ≠ [] := List.cons_ne_nil _ _
      refine Ends.congr ((ends_resolve sound named).bind fun table t later installed => ?_) asked
      refine ends_of_outcome rfl ⟨⟨later.sound.classes, later.sound.object⟩, List.Subset.refl _, id, fun _ => id, fun _ => id⟩
        fun _ _ => ?_
      exact ⟨installed.environment, installed.builtins, installed.adapter⟩
    refine resolved.bind fun _ t later installed => ?_
    exact ends_of_outcome rfl (.of_same later.sound rfl rfl) fun _ _ =>
      Or.inl ⟨installed.environment, installed.builtins, installed.adapter⟩

end Hierarchy
end Messaging
