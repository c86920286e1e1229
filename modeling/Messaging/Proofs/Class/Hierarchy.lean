import Mathlib.Logic.Relation
import Messaging.Proofs.Class.Conformance
import Messaging.Proofs.Class.Growth

/-! The hierarchy over whole runs. Classes are created, also in vain, methods and protocols are added to them, and what
    is built in is installed, in any order. At any time the superclass links are a forest, and what a name stands for
    once it stands for from then on. -/

namespace Messaging
namespace Hierarchy
open ClassTable Exec
open Relation (ReflTransGen)

/-- There are no classes yet, not even those that are built in. -/
structure Blank (s : Machine) : Prop where
  classes : s.classes = .empty
  builtins : s.setup.builtins = none

/-- What a program does, as far as it concerns classes. Only classes that are there are superclasses. Elsewhere classes
    are left alone, and nothing is installed or taken for not installed. -/
inductive Step : Machine → Machine → Prop
  | op {s : Machine} (op : Conformance.Op) (permitted : Conformance.Permits s op) : Step s (Conformance.perform s op)
  | builtins {s : Machine} : Step s (builtins.outcome s).2
  | adapter {s : Machine} : Step s (adapterClass.outcome s).2
  | install {s : Machine} : Step s (install.outcome s).2
  | resolve {s : Machine} (name : String) : Step s ((resolveClass name).outcome s).2
  | elsewhere {s t : Machine} (classes : t.classes = s.classes)
      (environment : s.setup.environmentRead = true → t.setup.environmentRead = true)
      (builtins : t.setup.builtins = s.setup.builtins) (adapter : t.setup.adapter = s.setup.adapter) : Step s t

/-- A class is created under a name that nothing has yet, or nothing happens at all. -/
structure Creates (s : Machine) (name : String) (superclass : Option ClassId) : Prop where
  taken : (s.classes.named? name).isSome →
    (createClass name superclass).outcome s = (.ok (.error (.classAlreadyExists name)), s)
  free : s.classes.named? name = none → ∃ c t, (createClass name superclass).outcome s = (.ok (.ok c), t) ∧ ¬Knows s c ∧
    t.classes.named? name = some (.fresh c name superclass) ∧
    (∀ other, other ≠ name → t.classes.named? other = s.classes.named? other) ∧
    ∀ d, d ≠ c → t.classes.get? d = s.classes.get? d

variable {start s t u : Machine} {c : ClassId} {name : String}

theorem Blank.sound (blank : Blank s) : Sound s where
  classes := by
    rw [blank.classes]
    exact .empty
  object known found := by
    rw [blank.builtins] at found
    cases found

/-! ### Steps -/

theorem later_perform (sound : Sound s) {op : Conformance.Op} (permitted : Conformance.Permits s op) :
    Later s (Conformance.perform s op) := by
  cases op with
  | classes op =>
    cases op with
    | create name superclass =>
      have made : Conformance.perform s (.classes (.create name superclass)) = _ := Conformance.machine_dropping
      rw [made]
      exact (registers_createClass sound permitted name).1
    | insert id kind m => exact (ends_insertMethod sound id kind m).1
    | lookup id kind sel =>
      exact .of_fixed sound (sound.classes.lookup id kind sel) (fixed_of_bare bare_lookup) rfl
  | createProtocol name =>
    have made : Conformance.perform s (.createProtocol name) = _ := Conformance.machine_dropping
    rw [made]
    exact (registers_createProtocol sound name).1
  | require p sel => exact (ends_require sound p sel).1
  | adopt c p =>
    have made : Conformance.perform s (.adopt c p) = _ := Conformance.machine_dropping
    rw [made]
    exact (registers_adoptProtocol sound c p).1

theorem Step.later (sound : Sound s) (step : Step s t) : Later s t := by
  cases step with
  | op op permitted => exact later_perform sound permitted
  | builtins => exact (ends_builtins sound).1
  | adapter => exact (ends_adapterClass sound).1
  | install => exact (ends_install sound).1
  | resolve name => exact (ends_resolveClass sound name).1
  | elsewhere classes environment builtins adapter =>
    refine ⟨⟨?_, fun known found => ?_⟩, ?_, environment, fun known found => ?_, fun c found => ?_⟩
    · rw [classes]
      exact sound.classes
    · rw [builtins] at found
      unfold Knows
      rw [classes]
      exact sound.object known found
    · rw [classes]
      exact List.Subset.refl _
    · rw [builtins, found]
    · rw [adapter, found]

theorem later_of_run (sound : Sound s) (run : ReflTransGen Step s t) : Later s t := by
  induction run with
  | refl => exact .refl sound
  | tail _ step ih => exact ih.trans (step.later ih.sound)

/-! ### Names -/

theorem creates (sound : Sound s) (name : String) (superclass : Option ClassId) : Creates s name superclass where
  taken taken := outcome_createClass_taken taken superclass
  free free := by
    refine ⟨_, _, outcome_createClass_free free superclass, ?_, ?_, fun other differs => ?_, fun d differs => ?_⟩
    · unfold Knows
      rw [get?_eq_none_of_le sound.classes.ordered (Nat.le_refl _)]
      exact nofun
    · exact List.find?_cons_of_pos (beq_self_eq_true name)
    · exact List.find?_cons_of_neg (by simpa [ClassEntry.fresh] using Ne.symm differs)
    · rw [get?_create, if_neg (Ne.symm differs)]

/-- A class that was resolved is resolved again without anything being installed. -/
theorem resolved_again (sound : Sound s) (resolved : (resolveClass name).outcome s = (.ok (some c), u)) :
    (∃ e, u.classes.named? name = some e ∧ e.id = c) ∧ ∀ t, ReflTransGen Step u t →
      ∃ journal, (resolveClass name).outcome t = (.ok (some c), { t with journal }) := by
  obtain ⟨later, found⟩ := ends_resolveClass sound name
  rw [resolved] at later found
  obtain ⟨installed, here⟩ := found _ rfl
  obtain ⟨e, named, rfl⟩ := Option.map_eq_some_iff.mp here.symm
  refine ⟨⟨e, named, rfl⟩, fun t run => ?_⟩
  have after := later_of_run later.sound run
  obtain ⟨f, kept, same, -⟩ := (later.sound.classes.keeps after.sound.classes after.grows).named name e named
  obtain ⟨journal, again⟩ := outcome_resolveClass (outcome_install (after.installed installed)) name
  rw [kept, Option.map_some, same] at again
  exact ⟨journal, again⟩

/-- At any time in a run the superclass links are a forest, and each name stands for one class. In every later machine
    the classes are there under their names and with their superclasses, and a name that was resolved is resolved to
    the same class, with a line in the journal and no other change. A creation under a name that is taken is refused
    and changes nothing, and another one adds the class and nothing else. -/
theorem hierarchy_is_a_forest (blank : Blank start) (run : ReflTransGen Step start s) :
    s.classes.Forest ∧ s.classes.Named ∧ (∀ t, ReflTransGen Step s t → s.classes.Keeps t.classes) ∧
    (∀ name c u, (resolveClass name).outcome s = (.ok (some c), u) →
      (∃ e, u.classes.named? name = some e ∧ e.id = c) ∧ ∀ t, ReflTransGen Step u t →
        ∃ journal, (resolveClass name).outcome t = (.ok (some c), { t with journal })) ∧
    ∀ name superclass, Creates s name superclass := by
  have sound := (later_of_run blank.sound run).sound
  refine ⟨forest sound.classes.ordered sound.classes.current, sound.classes.named, fun t run => ?_,
    fun name c u => resolved_again sound, creates sound⟩
  have later := later_of_run sound run
  exact sound.classes.keeps later.sound.classes later.grows

/-- Two classes, the second below the first. Nothing that is built in is installed yet. -/
def pair : Machine :=
  Conformance.perform (Conformance.perform (Machine.fresh 0 none (.fresh false false)) (.classes (.create "A" none)))
    (.classes (.create "B" (some ⟨0⟩)))

/-- The name of the first class cannot be given again. That of the second one is resolved, which installs what is built
    in, and from then on it is resolved to the same class. -/
theorem name_is_resolved_for_good : pair.classes.isSubclass ⟨1⟩ ⟨0⟩ = true ∧ ¬pair.classes.isSubclass ⟨0⟩ ⟨1⟩ = true ∧
    (createClass "A" (some ⟨1⟩)).outcome pair = (.ok (.error (.classAlreadyExists "A")), pair) ∧
    ∃ u, (resolveClass "B").outcome pair = (.ok (some ⟨1⟩), u) ∧ ∀ t, ReflTransGen Step u t →
      ∃ journal, (resolveClass "B").outcome t = (.ok (some ⟨1⟩), { t with journal }) := by
  have blank : Blank (Machine.fresh 0 none (.fresh false false)) := ⟨rfl, rfl⟩
  have first : Step (Machine.fresh 0 none (.fresh false false)) _ :=
    .op (.classes (.create "A" none)) fun _ up => by cases up
  have second : Step _ pair := .op (.classes (.create "B" (some ⟨0⟩))) (by rintro _ ⟨⟩; rfl)
  obtain ⟨forest, -, -, resolution, creation⟩ := hierarchy_is_a_forest blank ((ReflTransGen.single first).tail second)
  have below : pair.classes.isSubclass ⟨1⟩ ⟨0⟩ = true := rfl
  have resolved : ((resolveClass "B").outcome pair).1 = .ok (some ⟨1⟩) := by decide +kernel
  rcases ran : (resolveClass "B").outcome pair with ⟨r, u⟩
  rw [ran] at resolved
  obtain rfl : r = .ok (some ⟨1⟩) := resolved
  refine ⟨below, fun above => ?_, (creation "A" (some ⟨1⟩)).taken rfl, u, rfl, (resolution "B" ⟨1⟩ u ran).2⟩
  have same := forest.antisymm ⟨1⟩ ⟨0⟩ below above
  cases same

end Hierarchy
end Messaging
