import Messaging.Proofs.Class.Ancestors
import Messaging.Proofs.Class.Resolution

/-! Conformance over whole runs. Classes and protocols are created, methods added and replaced, selectors required
    and protocols adopted in any order. A class adopts a protocol only with all that the protocol requires then, and
    from then on it and its subclasses have it. -/

namespace Messaging

/-- The selectors that a protocol requires. -/
def ProtocolTable.requirements (t : ProtocolTable) (p : ProtocolId) : List Selector :=
  ((t.get? p).map Protocol.required).getD []

namespace Conformance
open ClassTable Exec

inductive Op
  | classes (op : MethodLookup.Op)
  | createProtocol (name : String)
  | require (p : ProtocolId) (s : Selector)
  | adopt (c : ClassId) (p : ProtocolId)

def Op.run : Op → Exec Unit
  | .classes (.create name superclass) => do let _ ← createClass name superclass
  | .classes (.insert id kind m) => do let _ ← insertMethod id kind m
  | .classes (.lookup id kind s) => do let _ ← lookupMethod id kind s
  | .createProtocol name => do let _ ← Messaging.createProtocol name
  | .require p s => Messaging.require p s
  | .adopt c p => do let _ ← adoptProtocol c p

def perform (s : Machine) (op : Op) : Machine := (op.run.outcome s).2

/-- Only classes and protocols that are there can be named. -/
def Permits (s : Machine) : Op → Prop
  | .classes op => MethodLookup.Permits s.classes op
  | .createProtocol _ => True
  | .require p _ => (s.protocols.get? p).isSome
  | .adopt c p => (s.classes.get? c).isSome ∧ (s.protocols.get? p).isSome

/-- A step of a run. -/
structure Moment where
  before : Machine
  op : Op

/-- A run from a machine without classes and protocols, with its steps, the latest first. Between them, anything may
    happen that leaves classes and protocols alone. -/
inductive Run : List Moment → Machine → Prop
  | start {s : Machine} (classes : s.classes = .empty) (protocols : s.protocols = .empty) : Run [] s
  | elsewhere {history : List Moment} {s t : Machine} (run : Run history s) (classes : t.classes = s.classes)
      (protocols : t.protocols = s.protocols) : Run history t
  | step {history : List Moment} {s : Machine} (run : Run history s) (op : Op) (permitted : Permits s op) :
      Run (⟨s, op⟩ :: history) (perform s op)

/-- The class adopted the protocol in this step. -/
def Moment.Adopts (x : Moment) (c : ClassId) (p : ProtocolId) : Prop :=
  x.op = .adopt c p ∧ ((adoptProtocol c p).outcome x.before).1 = .ok (.ok ())

/-- The selectors that were required for a protocol, the first one first, as often as they were required. -/
def demanded : List Moment → ProtocolId → List Selector
  | [], _ => []
  | ⟨_, .require q s⟩ :: earlier, p => if q = p then demanded earlier p ++ [s] else demanded earlier p
  | _ :: earlier, p => demanded earlier p

variable {history : List Moment} {s : Machine} {op : Op} {x : Moment} {c d : ClassId} {p q : ProtocolId}
  {sel : Selector} {protocol : Protocol}

/-! ### Protocols -/

section Protocols
variable {t : ProtocolTable}

theorem get?_require : (t.require q sel).get? p = (t.get? p).map fun protocol =>
    if p = q ∧ sel ∉ protocol.required then { protocol with required := protocol.required ++ [sel] } else protocol := by
  unfold ProtocolTable.require ProtocolTable.get?
  rw [List.find?_map]
  have keeps : ((fun protocol : Protocol => decide (protocol.id = p)) ∘ fun protocol =>
      if protocol.id = q then
        if protocol.required.contains sel then protocol else { protocol with required := protocol.required ++ [sel] }
      else protocol) = fun protocol => decide (protocol.id = p) := by
    funext protocol
    simp only [Function.comp_apply]
    split
    · split <;> rfl
    · rfl
  rw [keeps]
  cases found : t.entries.find? fun protocol => decide (protocol.id = p) with
  | none => rfl
  | some protocol =>
    have same : protocol.id = p := by simpa using List.find?_some found
    simp only [Option.map_some, same, List.contains_iff_mem]
    by_cases here : p = q <;> by_cases mem : sel ∈ protocol.required <;> simp [here, mem]

theorem requirements_require (known : (t.get? q).isSome) : (t.require q sel).requirements p =
    if q = p ∧ sel ∉ t.requirements p then t.requirements p ++ [sel] else t.requirements p := by
  unfold ProtocolTable.requirements
  rw [get?_require]
  cases found : t.get? p with
  | none =>
    have other : q ≠ p := by
      rintro rfl
      rw [found] at known
      cases known
    rw [if_neg fun h => other h.1]
    rfl
  | some protocol =>
    simp only [Option.map_some, Option.getD_some, eq_comm (a := p)]
    split <;> rfl

end Protocols

/-! ### What an operation does -/

theorem machine_dropping {α : Type} {x : Exec α} : ((do let _ ← x : Exec Unit).outcome s).2 = (x.outcome s).2 := by
  rw [outcome_bind]
  rcases x.outcome s with ⟨_ | _, t⟩ <;> rfl

theorem perform_classes (op : MethodLookup.Op) :
    perform s (.classes op) = { s with classes := MethodLookup.perform s.classes op } := by
  cases op with
  | create name superclass =>
    refine machine_dropping.trans ?_
    unfold createClass MethodLookup.perform
    rw [outcome_bind_ok outcome_get]
    dsimp only
    cases s.classes.create name superclass <;> rfl
  | insert id kind m => rfl
  | lookup id kind s => rfl

theorem perform_createProtocol (name : String) : perform s (.createProtocol name) = s ∨
    perform s (.createProtocol name) = { s with
      protocols := ⟨s.protocols.entries ++ [⟨⟨s.protocols.entries.length⟩, name, []⟩]⟩ } := by
  have same : perform s (.createProtocol name) = _ := machine_dropping
  rw [same]
  unfold Messaging.createProtocol ProtocolTable.create
  rw [outcome_bind_ok outcome_get]
  cases s.protocols.named? name with
  | some _ => exact Or.inl rfl
  | none => exact Or.inr rfl

theorem perform_adopt (found : s.protocols.get? p = some protocol) :
    perform s (.adopt c p) = { s with classes := (s.classes.adopt c protocol).2 } :=
  machine_dropping.trans (by rw [outcome_adoptProtocol_some found])

theorem extends_perform (ordered : Ordered s.classes.entries) {op : MethodLookup.Op}
    (permitted : MethodLookup.Permits s.classes op) : s.classes.Extends (MethodLookup.perform s.classes op) := by
  cases op with
  | create name superclass =>
    rcases MethodLookup.create_cases s.classes name superclass with same | same
    · rw [same]
      exact .refl _
    · rw [same]
      exact extends_create ordered name superclass
  | insert id kind m => exact extends_insert permitted
  | lookup id kind s => exact extends_of_bare bare_lookup

theorem adopted_perform (ordered : Ordered s.classes.entries) (op : MethodLookup.Op) :
    (MethodLookup.perform s.classes op).adopted c = s.classes.adopted c := by
  cases op with
  | create name superclass =>
    rcases MethodLookup.create_cases s.classes name superclass with same | same
    · rw [same]
    · rw [same, adopted_create ordered]
  | insert id kind m => exact adopted_insert
  | lookup id kind s => exact adopted_of_bare bare_lookup

/-! ### What a run established -/

/-- The protocols require what was demanded. -/
structure Registered (history : List Moment) (t : ProtocolTable) : Prop where
  numbered : ∀ protocol ∈ t.entries, protocol.id.toNat < t.entries.length
  required : ∀ p, t.requirements p = (demanded history p).eraseDups

namespace Registered
variable {t : ProtocolTable}

/-- A protocol that was not created yet has no requirements. -/
theorem requirements_fresh (h : Registered history t) : t.requirements ⟨t.entries.length⟩ = [] := by
  have absent : t.get? ⟨t.entries.length⟩ = none := by
    refine List.find?_eq_none.mpr fun protocol mem => ?_
    have lt := h.numbered protocol mem
    simp only [decide_eq_true_eq]
    rintro same
    rw [same] at lt
    exact Nat.lt_irrefl _ lt
  unfold ProtocolTable.requirements
  rw [absent]
  rfl

theorem create (h : Registered history t) (name : String) :
    Registered history ⟨t.entries ++ [⟨⟨t.entries.length⟩, name, []⟩]⟩ where
  numbered protocol mem := by
    rw [List.length_append]
    rcases List.mem_append.mp mem with mem | mem
    · exact Nat.lt_succ_of_lt (h.numbered protocol mem)
    · rw [List.mem_singleton.mp mem]
      exact Nat.lt_succ_self _
  required p := by
    rw [← h.required]
    have fresh := h.requirements_fresh
    unfold ProtocolTable.requirements ProtocolTable.get? at *
    rw [List.find?_append]
    cases found : t.entries.find? fun protocol => decide (protocol.id = p) with
    | some protocol => rfl
    | none =>
      by_cases new : (⟨t.entries.length⟩ : ProtocolId) = p <;> simp [new]

theorem require (h : Registered history t) (known : (t.get? q).isSome) :
    Registered (⟨s, .require q sel⟩ :: history) (t.require q sel) where
  numbered protocol mem := by
    obtain ⟨before, known, rfl⟩ := List.mem_map.mp mem
    have lt := h.numbered before known
    simp only [ProtocolTable.require, List.length_map]
    split
    · split <;> exact lt
    · exact lt
  required p := by
    rw [requirements_require known, h.required, demanded]
    by_cases here : q = p
    · rw [if_pos here, List.eraseDups_append]
      by_cases mem : sel ∈ demanded history p <;> simp [here, mem, List.removeAll, List.eraseDups_cons]
    · rw [if_neg here, if_neg fun both => here both.1]

/-- Only requirements are remembered of what is done with protocols. -/
theorem other (h : Registered history t) (unasked : ∀ p, demanded (x :: history) p = demanded history p) :
    Registered (x :: history) t where
  numbered := h.numbered
  required p := by
    rw [unasked]
    exact h.required p

end Registered

structure Sound (history : List Moment) (s : Machine) : Prop where
  registered : Registered history s.protocols
  ordered : Ordered s.classes.entries
  current : s.classes.Current
  adopted : ∀ c p, p ∈ s.classes.adopted c ↔ ∃ x ∈ history, x.Adopts c p
  earned : ∀ x ∈ history, ∀ c p, x.Adopts c p → ∀ sel ∈ x.before.protocols.requirements p, s.classes.Implements c sel

namespace Sound

theorem start (classes : s.classes = .empty) (protocols : s.protocols = .empty) : Sound [] s where
  registered := by
    rw [protocols]
    exact ⟨fun _ mem => absurd mem List.not_mem_nil, fun _ => rfl⟩
  ordered := by
    rw [classes]
    trivial
  current := by
    rw [classes]
    exact current_empty
  adopted c p := by
    rw [classes]
    exact iff_of_false List.not_mem_nil fun ⟨_, mem, _⟩ => List.not_mem_nil mem
  earned _ mem := absurd mem List.not_mem_nil

/-- The rest of the machine does not matter. -/
theorem elsewhere {t : Machine} (h : Sound history s) (classes : t.classes = s.classes)
    (protocols : t.protocols = s.protocols) : Sound history t := by
  obtain ⟨registered, ordered, current, adopted, earned⟩ := h
  rw [← protocols] at registered
  rw [← classes] at ordered current
  simp only [← classes] at adopted earned
  exact ⟨registered, ordered, current, adopted, earned⟩

/-- What the classes had before an operation they have after it, and the adoption that it may be besides. -/
theorem step (h : Sound history s) {t : Machine} (registered : Registered (⟨s, op⟩ :: history) t.protocols)
    (ordered : Ordered t.classes.entries) (current : t.classes.Current) (more : s.classes.Extends t.classes)
    (adopted : ∀ c p, p ∈ t.classes.adopted c ↔ p ∈ s.classes.adopted c ∨ Moment.Adopts ⟨s, op⟩ c p)
    (earned : ∀ c p, Moment.Adopts ⟨s, op⟩ c p → ∀ sel ∈ s.protocols.requirements p, s.classes.Implements c sel) :
    Sound (⟨s, op⟩ :: history) t where
  registered := registered
  ordered := ordered
  current := current
  adopted c p := by
    rw [adopted, h.adopted]
    simp only [List.mem_cons, or_and_right, exists_or, exists_eq_left, or_comm]
  earned x mem c p adopts sel required := by
    rcases List.mem_cons.mp mem with rfl | mem
    · exact more.implements (earned c p adopts sel required)
    · exact more.implements (h.earned x mem c p adopts sel required)

end Sound

/-! ### Adoption -/

theorem id_of_get? (found : s.protocols.get? p = some protocol) : protocol.id = p := by
  simpa using List.find?_some found

theorem requirements_of_get? (found : s.protocols.get? p = some protocol) :
    s.protocols.requirements p = protocol.required := by
  unfold ProtocolTable.requirements
  rw [found]
  rfl

/-- The three ways in which an adoption ends. -/
theorem outcome_adopt (current : s.classes.Current) (ordered : Ordered s.classes.entries)
    (found : s.protocols.get? p = some protocol) (c : ClassId) :
    (p ∈ s.classes.adopted c ∧ (adoptProtocol c p).outcome s =
      (.ok (.error (.protocolAlreadyAdopted (s.classes.name c) protocol.name)), s)) ∨
    (p ∉ s.classes.adopted c ∧ ∃ classes, classes.bare = s.classes.bare ∧
      ((∃ before sel after, protocol.required = before ++ sel :: after ∧ (∀ r ∈ before, s.classes.Implements c r) ∧
          ¬s.classes.Implements c sel ∧ (adoptProtocol c p).outcome s =
            (.ok (.error (.missingProtocolMethod protocol.name sel.name)), { s with classes })) ∨
        ((∀ sel ∈ protocol.required, s.classes.Implements c sel) ∧ (adoptProtocol c p).outcome s =
          (.ok (.ok ()), { s with classes := classes.adopting c p })))) := by
  have id := id_of_get? found
  have adopted := adopt_eq current ordered c protocol
  rw [id] at adopted
  rw [outcome_adoptProtocol_some found]
  rcases adopted with ⟨mem, same⟩ | ⟨new, u, bare, ⟨before, sel, after, split, has, lacks, same⟩ | ⟨all, same⟩⟩
  · exact Or.inl ⟨mem, by rw [same]⟩
  · exact Or.inr ⟨new, u, bare, Or.inl ⟨before, sel, after, split, has, lacks, by rw [same]⟩⟩
  · exact Or.inr ⟨new, u, bare, Or.inr ⟨all, by rw [same]⟩⟩

theorem adoptProtocol_ok_iff (current : s.classes.Current) (ordered : Ordered s.classes.entries)
    (found : s.protocols.get? p = some protocol) : ((adoptProtocol c p).outcome s).1 = .ok (.ok ()) ↔
      p ∉ s.classes.adopted c ∧ ∀ sel ∈ protocol.required, s.classes.Implements c sel := by
  rcases outcome_adopt current ordered found c with
    ⟨mem, ended⟩ | ⟨new, u, -, ⟨before, sel, after, split, -, lacks, ended⟩ | ⟨all, ended⟩⟩ <;> rw [ended]
  · exact iff_of_false (fun h => nomatch h) fun h => h.1 mem
  · exact iff_of_false (fun h => nomatch h) fun h => lacks (h.2 sel (by rw [split]; simp))
  · exact iff_of_true rfl ⟨new, all⟩

/-- There is one first element that does not have a property. -/
theorem first_unique {α : Type} {holds : α → Prop} {a b : α} {before after before' after' : List α}
    (split : before ++ a :: after = before' ++ b :: after') (all : ∀ r ∈ before, holds r) (lacks : ¬holds a)
    (all' : ∀ r ∈ before', holds r) (lacks' : ¬holds b) : a = b := by
  classical
  have first {a : α} {before : List α} (after : List α) (all : ∀ r ∈ before, holds r) (lacks : ¬holds a) :
      (before ++ a :: after).find? (fun r => !decide (holds r)) = some a :=
    List.find?_eq_some_iff_append.mpr ⟨by simp [lacks], before, after, rfl, fun r mem => by simp [all r mem]⟩
  have same := first after all lacks
  rw [split, first after' all' lacks'] at same
  exact (Option.some.inj same).symm

/-- What a refusal says when there was no adoption before, and that it changes nothing. -/
theorem outcome_adopt_missing (current : s.classes.Current) (ordered : Ordered s.classes.entries)
    (found : s.protocols.get? p = some protocol) (new : p ∉ s.classes.adopted c) {before after : List Selector}
    (split : protocol.required = before ++ sel :: after) (has : ∀ r ∈ before, s.classes.Implements c r)
    (lacks : ¬s.classes.Implements c sel) : ∃ classes, (adoptProtocol c p).outcome s =
        (.ok (.error (.missingProtocolMethod protocol.name sel.name)), { s with classes }) ∧
      classes.bare = s.classes.bare ∧ ∀ d kind r, (classes.lookup d kind r).1 = (s.classes.lookup d kind r).1 := by
  have adopted := current.adopt c protocol
  rcases outcome_adopt current ordered found c with
    ⟨mem, -⟩ | ⟨-, u, bare, ⟨before', sel', after', split', has', lacks', ended⟩ | ⟨all, -⟩⟩
  · exact absurd mem new
  · obtain rfl : sel = sel' := first_unique (split ▸ split') has lacks has' lacks'
    have table : (s.classes.adopt c protocol).2 = u := by
      rw [outcome_adoptProtocol_some found] at ended
      exact congrArg (fun e => e.2.classes) ended
    rw [table] at adopted
    refine ⟨u, ended, bare, fun d kind r => ?_⟩
    rw [lookup_eq adopted, lookup_eq current, resolve?_of_bare bare]
  · exact absurd (all sel (by rw [split]; simp)) lacks

theorem Sound.adopt (h : Sound history s) (known : (s.classes.get? c).isSome)
    (found : s.protocols.get? p = some protocol) : Sound (⟨s, .adopt c p⟩ :: history) (perform s (.adopt c p)) := by
  -- An adoption in this step is one by this class and of this protocol.
  have adopts (d : ClassId) (q : ProtocolId) : Moment.Adopts ⟨s, .adopt c p⟩ d q ↔
      d = c ∧ q = p ∧ (s.classes.adopt c protocol).1 = .ok () := by
    unfold Moment.Adopts
    constructor
    · rintro ⟨same, ok⟩
      cases same
      rw [outcome_adoptProtocol_some found] at ok
      exact ⟨rfl, rfl, Except.ok.inj ok⟩
    · rintro ⟨rfl, rfl, ok⟩
      rw [outcome_adoptProtocol_some found, ok]
      exact ⟨rfl, rfl⟩
  rw [perform_adopt found]
  refine h.step (h.registered.other fun _ => rfl) (ordered_adopt h.ordered) (h.current.adopt c protocol)
    (extends_adopt h.current h.ordered known protocol) (fun d q => ?_) fun d q adopted sel required => ?_
  · rw [adopts, mem_adopted_adopt h.current h.ordered known, id_of_get? found]
  · obtain ⟨rfl, rfl, -⟩ := (adopts d q).mp adopted
    rw [requirements_of_get? found] at required
    exact ((adoptProtocol_ok_iff h.current h.ordered found).mp adopted.2).2 sel required

/-- Operations on protocols leave the classes as they were. -/
theorem Sound.protocols (h : Sound history s) {t : ProtocolTable} (registered : Registered (⟨s, op⟩ :: history) t)
    (otherwise : ∀ c p, op ≠ .adopt c p) : Sound (⟨s, op⟩ :: history) { s with protocols := t } :=
  h.step registered h.ordered h.current (.refl _)
    (fun c p => (or_iff_left fun adopts => otherwise c p adopts.1).symm) fun c p adopts => absurd adopts.1 (otherwise c p)

theorem Run.sound (run : Run history s) : Sound history s := by
  induction run with
  | start classes protocols => exact .start classes protocols
  | elsewhere _ classes protocols ih => exact ih.elsewhere classes protocols
  | step _ op permitted ih =>
    cases op with
    | classes op =>
      rw [perform_classes]
      refine ih.step (ih.registered.other fun _ => rfl) (MethodLookup.ordered_perform ih.ordered permitted)
        (MethodLookup.current_perform ih.ordered ih.current) (extends_perform ih.ordered permitted) (fun c p => ?_)
        fun c p adopts => nomatch adopts.1
      rw [adopted_perform ih.ordered]
      exact (or_iff_left fun adopts => nomatch adopts.1).symm
    | createProtocol name =>
      rcases perform_createProtocol name with same | same
      · rw [same]
        exact ih.protocols (ih.registered.other fun _ => rfl) nofun
      · rw [same]
        exact ih.protocols ((ih.registered.create name).other fun _ => rfl) nofun
    | require p sel => exact ih.protocols (ih.registered.require permitted) nofun
    | adopt c p =>
      obtain ⟨protocol, found⟩ := Option.isSome_iff_exists.mp permitted.2
      exact ih.adopt permitted.1 found

/-- Conformance is earned and never lost. A protocol requires what was demanded, in the order in which that was first
    done. A class adopts a protocol if and only if it did not yet itself, and it or an ancestor implements all that
    the protocol requires then. A refused adoption says that there was one before, or else names the first selector
    that is not implemented, and nothing changes but for what classes remember of lookups. From an adoption on, the
    class and the classes below it conform to the protocol and respond to all that was required at the adoption, and
    no others conform. -/
theorem conformance_is_earned (run : Run history s) :
    (∀ p protocol, s.protocols.get? p = some protocol → protocol.required = (demanded history p).eraseDups ∧ ∀ c,
      (((adoptProtocol c p).outcome s).1 = .ok (.ok ()) ↔
        (¬∃ x ∈ history, x.Adopts c p) ∧ ∀ sel ∈ protocol.required, s.classes.Implements c sel) ∧
      ((∃ x ∈ history, x.Adopts c p) → (adoptProtocol c p).outcome s =
        (.ok (.error (.protocolAlreadyAdopted (s.classes.name c) protocol.name)), s)) ∧
      ∀ before sel after, (¬∃ x ∈ history, x.Adopts c p) → protocol.required = before ++ sel :: after →
        (∀ r ∈ before, s.classes.Implements c r) → ¬s.classes.Implements c sel →
        ∃ classes, (adoptProtocol c p).outcome s =
            (.ok (.error (.missingProtocolMethod protocol.name sel.name)), { s with classes }) ∧
          classes.bare = s.classes.bare ∧ ∀ d kind r, (classes.lookup d kind r).1 = (s.classes.lookup d kind r).1) ∧
    (∀ x ∈ history, ∀ c p, x.Adopts c p → ∀ d, s.classes.Ancestor d c → s.classes.conforms d p = true ∧
      ∀ sel ∈ x.before.protocols.requirements p, ∃ m, ((lookupMethod d .ofInstances sel).outcome s).1 = .ok (some m)) ∧
    ∀ d p, s.classes.conforms d p = true → ∃ c, s.classes.Ancestor d c ∧ ∃ x ∈ history, x.Adopts c p := by
  have sound := run.sound
  refine ⟨fun p protocol found => ⟨?_, fun c => ⟨?_, fun already => ?_, fun before sel after new split has lacks => ?_⟩⟩,
    fun x mem c p adopts d ancestor => ⟨?_, fun sel required => ?_⟩, fun d p conforms => ?_⟩
  · rw [← requirements_of_get? found]
    exact sound.registered.required p
  · rw [← sound.adopted]
    exact adoptProtocol_ok_iff sound.current sound.ordered found
  · rcases outcome_adopt sound.current sound.ordered found c with ⟨-, ended⟩ | ⟨new, -⟩
    · exact ended
    · exact absurd ((sound.adopted c p).mpr already) new
  · exact outcome_adopt_missing sound.current sound.ordered found (fun mem => new ((sound.adopted c p).mp mem)) split
      has lacks
  · exact (conforms_iff sound.ordered).mpr ⟨c, ancestor, (sound.adopted c p).mpr ⟨x, mem, adopts⟩⟩
  · have implements := (sound.earned x mem c p adopts sel required).inherit ancestor
    obtain ⟨m, resolved⟩ := Option.isSome_iff_exists.mp ((isSome_resolve?_iff sound.ordered).mpr implements)
    exact ⟨m, congrArg Except.ok ((lookup_eq sound.current).trans resolved)⟩
  · obtain ⟨c, ancestor, mem⟩ := (conforms_iff sound.ordered).mp conforms
    exact ⟨c, ancestor, (sound.adopted c p).mp mem⟩

/-- A class adopts a protocol, a subclass is created, and the protocol comes to require more. -/
def growth : List Op :=
  [.classes (.create "Parent" none), .createProtocol "Twin", .require ⟨0⟩ (MethodLookup.twin .retained).selector,
    .classes (.insert ⟨0⟩ .ofInstances (MethodLookup.twin .retained)), .adopt ⟨0⟩ ⟨0⟩,
    .classes (.create "Child" (some ⟨0⟩)), .require ⟨0⟩ ⟨1, "reset", 0⟩]

/-- The subclass conforms and responds, and the class does not adopt the protocol again. -/
theorem heir_conforms : ∃ history s, Run history s ∧
    s = growth.foldl perform (.fresh 0 none (.fresh false false)) ∧ s.classes.conforms ⟨1⟩ ⟨0⟩ = true ∧
    (∃ m, ((lookupMethod ⟨1⟩ .ofInstances (MethodLookup.twin .retained).selector).outcome s).1 = .ok (some m)) ∧
    ((adoptProtocol ⟨0⟩ ⟨0⟩).outcome s).1 = .ok (.error (.protocolAlreadyAdopted "Parent" "Twin")) := by
  have start : Run [] (.fresh 0 none (.fresh false false)) := .start rfl rfl
  have run := ((((((start.step (.classes (.create "Parent" none)) nofun).step (.createProtocol "Twin") trivial).step
    (.require ⟨0⟩ (MethodLookup.twin .retained).selector) rfl).step
    (.classes (.insert ⟨0⟩ .ofInstances (MethodLookup.twin .retained))) rfl).step (.adopt ⟨0⟩ ⟨0⟩) ⟨rfl, rfl⟩).step
    (.classes (.create "Child" (some ⟨0⟩))) fun _ up => by cases up; rfl).step (.require ⟨0⟩ ⟨1, "reset", 0⟩) rfl
  obtain ⟨adoptions, kept, -⟩ := conformance_is_earned run
  obtain ⟨conforms, responds⟩ :=
    kept _ (List.mem_cons_of_mem _ (List.mem_cons_of_mem _ List.mem_cons_self)) ⟨0⟩ ⟨0⟩ ⟨rfl, rfl⟩ ⟨1⟩ (.above rfl (.here _))
  obtain ⟨-, again⟩ := adoptions ⟨0⟩ _ rfl
  refine ⟨_, _, run, rfl, conforms, responds _ (List.mem_singleton.mpr rfl), ?_⟩
  rw [(again ⟨0⟩).2.1 ⟨_, List.mem_cons_of_mem _ (List.mem_cons_of_mem _ List.mem_cons_self), rfl, rfl⟩]
  rfl

end Conformance
end Messaging
