import Messaging.Proofs.Class.Cache
import Messaging.Proofs.Send

/-! Lookups over whole runs. Classes are created, methods inserted and methods looked up in any order; a lookup
    gives the latest method of the nearest class that has one, and what was looked up before makes no
    difference. -/

namespace Messaging
namespace MethodLookup
open ClassTable

inductive Op
  | create (name : String) (superclass : Option ClassId)
  | insert (id : ClassId) (kind : MethodKind) (m : Method)
  | lookup (id : ClassId) (kind : MethodKind) (s : Selector)

/-- Creating a class under a name that is taken changes nothing. -/
def perform (t : ClassTable) : Op → ClassTable
  | .create name superclass =>
    match t.create name superclass with
    | .ok (_, t) => t
    | .error _ => t
  | .insert id kind m => (t.insert id kind m).2
  | .lookup id kind s => (t.lookup id kind s).2

/-- The classes after a run. The operations stand latest first. -/
def after : List Op → ClassTable
  | [] => .empty
  | op :: earlier => perform (after earlier) op

/-- A superclass, and a class that a method is added to, must be there. -/
def Permits (t : ClassTable) : Op → Prop
  | .create _ superclass => ∀ above, superclass = some above → (t.get? above).isSome
  | .insert id _ _ => (t.get? id).isSome
  | .lookup _ _ _ => True

def Possible : List Op → Prop
  | [] => True
  | op :: earlier => Permits (after earlier) op ∧ Possible earlier

/-- The method that was last inserted for a selector in one table of a class. -/
def latest : List Op → ClassId → MethodKind → Selector → Option Method
  | [], _, _, _ => none
  | .insert id kind m :: earlier, c, k, s =>
    if id = c ∧ kind = k ∧ m.selector = s then some m else latest earlier c k s
  | _ :: earlier, c, k, s => latest earlier c k s

/-- The class is on the superclass chain. -/
inductive OnChain (ops : List Op) : ClassId → ClassId → Prop
  | here (c : ClassId) : OnChain ops c c
  | above {d e c : ClassId} (up : (after ops).superclass? d = some e) (rest : OnChain ops e c) : OnChain ops d c

/-- The class is on the superclass chain, and none that is nearer has a method for the selector. -/
inductive Reaches (ops : List Op) (kind : MethodKind) (s : Selector) : ClassId → ClassId → Prop
  | here (c : ClassId) : Reaches ops kind s c c
  | above {d e c : ClassId} (bare : latest ops d kind s = none) (up : (after ops).superclass? d = some e)
      (rest : Reaches ops kind s e c) : Reaches ops kind s d c

/-- Whether an operation is more than a lookup. -/
def Op.changes : Op → Bool
  | .lookup _ _ _ => false
  | _ => true

variable {ops : List Op} {t : ClassTable} {op : Op} {id c d : ClassId} {kind k : MethodKind} {s : Selector} {m : Method}

/-! ### What an operation keeps -/

theorem create_cases (t : ClassTable) (name : String) (superclass : Option ClassId) :
    perform t (.create name superclass) = t ∨ perform t (.create name superclass) =
      { t with entries := .fresh ⟨t.entries.length⟩ name superclass :: t.entries } := by
  unfold perform ClassTable.create
  dsimp only
  cases t.named? name with
  | some _ => exact Or.inl rfl
  | none => exact Or.inr rfl

theorem Ordered.get?_lt (h : Ordered t.entries) (found : (t.get? id).isSome) : id.toNat < t.entries.length := by
  obtain ⟨c, found⟩ := Option.isSome_iff_exists.mp found
  obtain ⟨mem, rfl⟩ := mem_of_get? found
  exact h.id_lt mem

theorem ordered_insert (h : Ordered t.entries) : Ordered (t.insert id kind m).2.entries := by
  refine h.map (fun c => ?_) fun c => ?_
  · split
    · exact ClassEntry.id_insert c kind m
    · rfl
  · split
    · exact ClassEntry.superclass_insert c kind m
    · rfl

theorem ordered_perform (h : Ordered t.entries) (permitted : Permits t op) : Ordered (perform t op).entries := by
  cases op with
  | create name superclass =>
    rcases create_cases t name superclass with same | same
    · rwa [same]
    · rw [same]
      exact ⟨rfl, fun above up => Ordered.get?_lt h (permitted above up), h⟩
  | insert id kind m => exact ordered_insert h
  | lookup id kind s => exact ordered_of_bare bare_lookup h

theorem ordered_after (possible : Possible ops) : Ordered (after ops).entries := by
  induction ops with
  | nil => trivial
  | cons op earlier ih => exact ordered_perform (ih possible.2) possible.1

theorem current_perform (ordered : Ordered t.entries) (current : t.Current) : (perform t op).Current := by
  cases op with
  | create name superclass =>
    rcases create_cases t name superclass with same | same
    · rwa [same]
    · rw [same]
      exact current.create ordered name superclass
  | insert id kind m => exact current.insert id kind m
  | lookup id kind s => exact current.lookup id kind s

theorem current_after (possible : Possible ops) : (after ops).Current := by
  induction ops with
  | nil => exact current_empty
  | cons op earlier ih => exact current_perform (ordered_after possible.2) (ih possible.2)

/-- The own methods of a class are those that were inserted last. -/
theorem own?_after (possible : Possible ops) : (after ops).own? c kind s = latest ops c kind s := by
  induction ops with
  | nil => rfl
  | cons op earlier ih =>
    obtain ⟨permitted, possible⟩ := possible
    rw [after]
    cases op with
    | create name superclass =>
      show _ = latest earlier c kind s
      rw [← ih possible]
      rcases create_cases (after earlier) name superclass with same | same
      · rw [same]
      · rw [same, own?_create (ordered_after possible)]
    | insert id k m =>
      rw [latest, ← ih possible]
      exact own?_insert permitted
    | lookup id k s' => exact (own?_of_bare bare_lookup).trans (ih possible)

/-- A class resolves to the method that was last inserted in it, or else to what its superclass resolves to. -/
theorem resolve?_after (possible : Possible ops) : (after ops).resolve? d kind s =
    (latest ops d kind s).or (((after ops).superclass? d).bind fun above => (after ops).resolve? above kind s) := by
  rw [resolve?_eq (ordered_after possible), own?_after possible]

/-! ### The count of changes

The epoch is how many methods were inserted. A counter of 64 bits has the same value as long as it can count them, and
stamps that are taken from it compare like the numbers. -/

def Op.inserts : Op → Bool
  | .insert _ _ _ => true
  | _ => false

theorem epoch_lookup : (t.lookup id kind s).2.epoch = t.epoch := by
  unfold ClassTable.lookup
  split
  · rfl
  · split <;> rfl

theorem epoch_after (ops : List Op) : (after ops).epoch = ops.countP Op.inserts := by
  induction ops with
  | nil => rfl
  | cons op earlier ih =>
    rw [after, List.countP_cons, ← ih]
    cases op with
    | create name superclass =>
      rcases create_cases (after earlier) name superclass with same | same
      · rw [same]
        rfl
      · rw [same]
        rfl
    | insert id kind m => rfl
    | lookup id kind s => exact epoch_lookup

theorem ofNat_eq_iff {a b : Nat} (ha : a < UInt64.size) (hb : b < UInt64.size) :
    UInt64.ofNat a = UInt64.ofNat b ↔ a = b := by
  rw [← UInt64.toNat_inj, UInt64.toNat_ofNat_of_lt' ha, UInt64.toNat_ofNat_of_lt' hb]

theorem ofNat_lt_iff {a b : Nat} (ha : a < UInt64.size) (hb : b < UInt64.size) :
    UInt64.ofNat a < UInt64.ofNat b ↔ a < b := by
  rw [UInt64.lt_iff_toNat_lt, UInt64.toNat_ofNat_of_lt' ha, UInt64.toNat_ofNat_of_lt' hb]

/-- With fewer than 2^64 insertions it makes no difference that the stamps of caches are taken from a counter of 64 bits. -/
theorem stamps_in_words (possible : Possible ops) (few : ops.countP Op.inserts < UInt64.size) {entry : ClassEntry}
    (mem : entry ∈ (after ops).entries) :
    (UInt64.ofNat entry.cache.epoch = UInt64.ofNat (after ops).epoch ↔ entry.cache.epoch = (after ops).epoch) ∧
    (UInt64.ofNat entry.cache.epoch < UInt64.ofNat (after ops).epoch ↔ entry.cache.epoch < (after ops).epoch) := by
  rw [← epoch_after] at few
  have stamped : entry.cache.epoch < UInt64.size := Nat.lt_of_le_of_lt ((current_after possible).stamped entry mem) few
  exact ⟨ofNat_eq_iff stamped few, ofNat_lt_iff stamped few⟩

/-! ### What a lookup finds -/

theorem resolve?_of_reaches (possible : Possible ops) (reaches : Reaches ops kind s d c)
    (has : latest ops c kind s = some m) : (after ops).resolve? d kind s = some m := by
  induction reaches with
  | here c => rw [resolve?_after possible, has, Option.some_or]
  | above bare up _ ih =>
    rw [resolve?_after possible, bare, up]
    exact ih has

theorem reaches_of_resolve? (possible : Possible ops) (found : (after ops).resolve? d kind s = some m) :
    ∃ c, Reaches ops kind s d c ∧ latest ops c kind s = some m := by
  induction number : d.toNat using Nat.strongRecOn generalizing d with
  | ind n ih =>
    rw [resolve?_after possible] at found
    cases own : latest ops d kind s with
    | some m' =>
      rw [own, Option.some_or] at found
      exact ⟨d, .here d, own.trans found⟩
    | none =>
      rw [own, Option.none_or] at found
      obtain ⟨e, up, found⟩ := Option.bind_eq_some_iff.mp found
      obtain ⟨c, reaches, has⟩ := ih e.toNat (number ▸ superclass?_lt (ordered_after possible) up) found rfl
      exact ⟨c, .above own up reaches, has⟩

/-- Every class on the chain is reached, or a nearer one has a method. -/
theorem reaches_of_onChain (chain : OnChain ops d c) :
    Reaches ops kind s d c ∨ ∃ e m, Reaches ops kind s d e ∧ latest ops e kind s = some m := by
  induction chain with
  | here c => exact Or.inl (.here c)
  | @above d e c up _ ih =>
    cases own : latest ops d kind s with
    | some m => exact Or.inr ⟨d, m, .here d, own⟩
    | none =>
      rcases ih with reaches | ⟨f, m, reaches, has⟩
      · exact Or.inl (.above own up reaches)
      · exact Or.inr ⟨f, m, .above own up reaches, has⟩

theorem onChain_of_reaches (reaches : Reaches ops kind s d c) : OnChain ops d c := by
  induction reaches with
  | here c => exact .here c
  | above _ up _ ih => exact .above up ih

theorem lookup_after (possible : Possible ops) (d : ClassId) (kind : MethodKind) (s : Selector) :
    ((after ops).lookup d kind s).1 = (after ops).resolve? d kind s :=
  lookup_eq (current_after possible)

theorem lookup_eq_some_iff (possible : Possible ops) : ((after ops).lookup d kind s).1 = some m ↔
    ∃ c, Reaches ops kind s d c ∧ latest ops c kind s = some m := by
  rw [lookup_after possible]
  exact ⟨reaches_of_resolve? possible, fun ⟨_, reaches, has⟩ => resolve?_of_reaches possible reaches has⟩

theorem lookup_eq_none_iff (possible : Possible ops) : ((after ops).lookup d kind s).1 = none ↔
    ∀ c, OnChain ops d c → latest ops c kind s = none := by
  constructor
  · intro nothing c chain
    have unreached (e : ClassId) (m : Method) (reaches : Reaches ops kind s d e) (has : latest ops e kind s = some m) :
        False := by
      rw [(lookup_eq_some_iff possible).mpr ⟨e, reaches, has⟩] at nothing
      cases nothing
    rcases reaches_of_onChain chain with reaches | ⟨e, m, reaches, has⟩
    · cases own : latest ops c kind s with
      | none => rfl
      | some m => exact (unreached c m reaches own).elim
    · exact (unreached e m reaches has).elim
  · intro nothing
    cases found : ((after ops).lookup d kind s).1 with
    | none => rfl
    | some m =>
      obtain ⟨c, reaches, has⟩ := (lookup_eq_some_iff possible).mp found
      rw [nothing c (onChain_of_reaches reaches)] at has
      cases has

/-! ### What makes a difference -/

theorem bare_perform {u : ClassTable} (same : t.bare = u.bare) (op : Op) :
    (perform t op).bare = (perform u op).bare := by
  cases op with
  | create name superclass =>
    have entries : t.entries.map ClassEntry.bare = u.entries.map ClassEntry.bare := congrArg ClassTable.entries same
    have length : t.entries.length = u.entries.length := by simpa using congrArg List.length entries
    have taken := isSome_named?_of_bare same name
    unfold perform ClassTable.create
    cases inT : t.named? name with
    | some _ =>
      obtain ⟨_, inU⟩ := Option.isSome_iff_exists.mp (by rw [← taken, inT]; rfl : (u.named? name).isSome)
      simp only [inT, inU, same]
    | none =>
      have inU : u.named? name = none := Option.not_isSome_iff_eq_none.mp (by simp [← taken, inT])
      simp only [inT, inU, ClassTable.bare, List.map_cons, length, entries]
  | insert id kind m => exact bare_insert same
  | lookup id kind s => exact (bare_lookup.trans same).trans bare_lookup.symm

theorem bare_after (ops : List Op) : (after ops).bare = (after (ops.filter Op.changes)).bare := by
  induction ops with
  | nil => rfl
  | cons op earlier ih =>
    cases op with
    | lookup id kind s => exact bare_lookup.trans ih
    | create name superclass => exact bare_perform ih _
    | insert id kind m => exact bare_perform ih _

theorem permits_of_bare {u : ClassTable} (same : t.bare = u.bare) (permitted : Permits t op) : Permits u op := by
  cases op with
  | create name superclass =>
    intro above up
    rw [← isSome_get?_of_bare same]
    exact permitted above up
  | insert id kind m => exact (isSome_get?_of_bare same).symm.trans permitted
  | lookup id kind s => trivial

theorem possible_filter : Possible (ops.filter Op.changes) ↔ Possible ops := by
  induction ops with
  | nil => exact Iff.rfl
  | cons op earlier ih =>
    have permits := bare_after earlier
    have change : Permits (after (earlier.filter Op.changes)) op ↔ Permits (after earlier) op :=
      ⟨permits_of_bare permits.symm, permits_of_bare permits⟩
    cases op with
    | lookup id kind s => exact ih.trans (true_and _).to_iff.symm
    | create name superclass => exact and_congr change ih
    | insert id kind m => exact and_congr change ih

/-- Lookups along the way make no difference. -/
theorem lookup_of_same_changes {other : List Op} (possible : Possible ops)
    (same : other.filter Op.changes = ops.filter Op.changes) :
    ((after other).lookup d kind s).1 = ((after ops).lookup d kind s).1 := by
  have possible' : Possible other := possible_filter.mp (same ▸ possible_filter.mpr possible)
  rw [lookup_eq (current_after possible'), lookup_eq (current_after possible)]
  exact resolve?_of_bare (by rw [bare_after other, same, ← bare_after ops])

/-- A class that is reached keeps being reached when a method is added to it. -/
theorem reaches_insert (reaches : Reaches ops kind s d c) : Reaches (.insert c k m :: ops) kind s d c := by
  induction reaches with
  | here c => exact .here c
  | @above d e c bare up _ ih =>
    by_cases same : c = d
    · rw [same]
      exact .here d
    · refine .above ?_ (superclass?_insert.trans up) ih
      rw [latest, if_neg fun h => same h.1]
      exact bare

theorem resolve?_insert_of_reaches (possible : Possible ops) (permitted : Permits (after ops) (.insert c kind m))
    (reaches : Reaches ops kind m.selector d c) :
    (after (.insert c kind m :: ops)).resolve? d kind m.selector = some m :=
  resolve?_of_reaches ⟨permitted, possible⟩ (reaches_insert reaches) (if_pos ⟨rfl, rfl, rfl⟩)

/-- An insertion that a lookup does not reach leaves its result as it was. -/
theorem resolve?_insert_of_not (possible : Possible ops) (permitted : Permits (after ops) (.insert c k m))
    (away : ¬(kind = k ∧ s = m.selector ∧ Reaches ops kind s d c)) :
    (after (.insert c k m :: ops)).resolve? d kind s = (after ops).resolve? d kind s := by
  induction number : d.toNat using Nat.strongRecOn generalizing d with
  | ind n ih =>
    have elsewhere : latest (.insert c k m :: ops) d kind s = latest ops d kind s := by
      refine if_neg ?_
      rintro ⟨rfl, rfl, rfl⟩
      exact away ⟨rfl, rfl, .here c⟩
    have chain : (after (.insert c k m :: ops)).superclass? d = (after ops).superclass? d := superclass?_insert
    have possible' : Possible (.insert c k m :: ops) := ⟨permitted, possible⟩
    rw [resolve?_after possible', resolve?_after possible, elsewhere, chain]
    cases own : latest ops d kind s with
    | some _ => rfl
    | none =>
      cases up : (after ops).superclass? d with
      | none => rfl
      | some e =>
        have lt : e.toNat < n := number ▸ superclass?_lt (ordered_after possible) up
        exact ih e.toNat lt (fun ⟨sameKind, same, reaches⟩ => away ⟨sameKind, same, .above own up reaches⟩) rfl

/-- After every run, a lookup gives the latest method of the nearest class on the chain that has one, and nothing
    only if no class on the chain has one. It gives the same after every run that differs in lookups only. A
    method that is inserted is found from then on by the lookups of its kind and selector that reach its class,
    and changes no other. Asking for a method, and sending a message to an object or a class, are lookups of a
    run. -/
theorem cache_is_invisible (possible : Possible ops) :
    (∀ d kind s m, ((after ops).lookup d kind s).1 = some m ↔
      ∃ c, Reaches ops kind s d c ∧ latest ops c kind s = some m) ∧
    (∀ d kind s, ((after ops).lookup d kind s).1 = none ↔ ∀ c, OnChain ops d c → latest ops c kind s = none) ∧
    (∀ other, other.filter Op.changes = ops.filter Op.changes → ∀ d kind s,
      ((after other).lookup d kind s).1 = ((after ops).lookup d kind s).1) ∧
    (∀ c k m, Permits (after ops) (.insert c k m) → ∀ d kind s,
      (kind = k ∧ s = m.selector ∧ Reaches ops kind s d c →
        ((after (.insert c k m :: ops)).lookup d kind s).1 = some m) ∧
      (¬(kind = k ∧ s = m.selector ∧ Reaches ops kind s d c) →
        ((after (.insert c k m :: ops)).lookup d kind s).1 = ((after ops).lookup d kind s).1)) ∧
    (∀ machine : Machine, machine.classes = after ops →
      (∀ d kind s, (lookupMethod d kind s).outcome machine =
        (.ok ((after ops).lookup d kind s).1, { machine with classes := after (.lookup d kind s :: ops) })) ∧
      (∀ a o s, machine.memory.get? a = some o → ((Receiver.object a).lookup s).outcome machine =
        (.ok ((after ops).lookup o.cls .ofInstances s).1,
          { machine with classes := after (.lookup o.cls .ofInstances s :: ops) })) ∧
      ∀ d s, ((Receiver.cls d).lookup s).outcome machine =
        (.ok ((after ops).lookup d .ofClass s).1, { machine with classes := after (.lookup d .ofClass s :: ops) })) := by
  refine ⟨fun d kind s m => lookup_eq_some_iff possible, fun d kind s => lookup_eq_none_iff possible,
    fun other same d kind s => lookup_of_same_changes possible same, fun c k m permitted d kind s => ?_,
    fun machine same => ?_⟩
  · have possible' : Possible (.insert c k m :: ops) := ⟨permitted, possible⟩
    rw [lookup_after possible', lookup_after possible]
    refine ⟨?_, resolve?_insert_of_not possible permitted⟩
    rintro ⟨rfl, rfl, reaches⟩
    exact resolve?_insert_of_reaches possible permitted reaches
  · simp only [after, perform, ← same]
    refine ⟨fun d kind s => rfl, fun a o s live => ?_, fun d s => rfl⟩
    exact Exec.outcome_bind_ok (outcome_classOf live)

/-- A method under the only selector. -/
def twin (ownership : Ownership) : Method := ⟨⟨0, "twin", 0⟩, .sample .itself, ⟨.object, .object, []⟩, ownership⟩

/-- A class and its subclass, which has looked up the method that it inherits. -/
def inherited : List Op :=
  [.lookup ⟨1⟩ .ofInstances (twin .notRetained).selector, .insert ⟨0⟩ .ofInstances (twin .notRetained),
    .create "Child" (some ⟨0⟩), .create "Parent" none]

/-- The subclass finds what it inherits, and what it is then given instead. -/
theorem override_is_found : Possible inherited ∧
    ((after inherited).lookup ⟨1⟩ .ofInstances (twin .notRetained).selector).1 = some (twin .notRetained) ∧
    ((after (.insert ⟨1⟩ .ofInstances (twin .retained) :: inherited)).lookup ⟨1⟩ .ofInstances
      (twin .retained).selector).1 = some (twin .retained) := by
  have possible : Possible inherited := ⟨trivial, rfl, fun _ up => by cases up; rfl, nofun, trivial⟩
  obtain ⟨finds, -, -, inserts, -⟩ := cache_is_invisible possible
  refine ⟨possible, (finds _ _ _ _).mpr ⟨⟨0⟩, .above rfl rfl (.here _), rfl⟩, ?_⟩
  exact (inserts ⟨1⟩ .ofInstances (twin .retained) rfl ⟨1⟩ .ofInstances _).1 ⟨rfl, rfl, .here _⟩

end MethodLookup
end Messaging
