import Mathlib.Data.List.Nodup
import Messaging.Proofs.Class.Ancestors

/-! The superclass links as a forest. Nothing looks for a cycle when a class is created; there is none since a superclass
    is there before its subclasses and the link never changes. So who follows the links from a class comes to a root,
    and what is searched along them is searched on a path of finitely many classes. -/

namespace Messaging
namespace ClassTable
variable {t u : ClassTable} {es older : List ClassEntry} {e : ClassEntry} {id above c d : ClassId} {path : List ClassId}
  {kind : MethodKind} {s : Selector} {p : ProtocolId}

/-- The classes that are met from a class to its root, following the links. -/
inductive Path (t : ClassTable) : ClassId → List ClassId → Prop
  | root {c : ClassId} {e : ClassEntry} (known : t.get? c = some e) (top : e.superclass = none) : Path t c [c]
  | link {c above : ClassId} {path : List ClassId} (up : t.superclass? c = some above) (rest : Path t above path) :
      Path t c (c :: path)

/-- A class has a path to a root, on which no class is met twice, and all that is searched for from the class is searched
    on it, from the class on. -/
structure Climbs (t : ClassTable) (c : ClassId) (path : List ClassId) : Prop where
  up : Path t c path
  once : path.Nodup
  short : path.length ≤ t.entries.length
  subclass : ∀ d, t.isSubclass c d = true ↔ d ∈ path
  conforms : ∀ p, t.conforms c p = true ↔ ∃ d ∈ path, p ∈ t.adopted d
  lookup : ∀ kind s, (t.lookup c kind s).1 = path.findSome? fun d => t.own? d kind s

/-- Every class has its path, and the subclass test is a partial order in which the ancestors of a class are a line. -/
structure Forest (t : ClassTable) : Prop where
  climbs : ∀ c, (t.get? c).isSome → ∃ path, Climbs t c path
  refl : ∀ c, (t.get? c).isSome → t.isSubclass c c = true
  trans : ∀ c d e, t.isSubclass c d = true → t.isSubclass d e = true → t.isSubclass c e = true
  antisymm : ∀ c d, t.isSubclass c d = true → t.isSubclass d c = true → c = d
  comparable : ∀ c d e, t.isSubclass c d = true → t.isSubclass c e = true →
    t.isSubclass d e = true ∨ t.isSubclass e d = true

/-! ### Classes that are there -/

/-- A class is found by what no other class shares with it. -/
theorem find?_key_iff {κ : Type} [DecidableEq κ] {key : ClassEntry → κ} (distinct : (es.map key).Nodup) {k : κ} :
    (es.find? fun c => decide (key c = k)) = some e ↔ e ∈ es ∧ key e = k := by
  constructor
  · intro found
    exact ⟨List.mem_of_find?_eq_some found, by simpa using List.find?_some found⟩
  · rintro ⟨mem, rfl⟩
    obtain ⟨f, found⟩ : ∃ f, (es.find? fun c => decide (key c = key e)) = some f :=
      Option.isSome_iff_exists.mp (List.find?_isSome.mpr ⟨e, mem, decide_eq_true rfl⟩)
    have same : key f = key e := by simpa using List.find?_some found
    rw [found, List.inj_on_of_nodup_map distinct (List.mem_of_find?_eq_some found) mem same]

theorem Ordered.distinct (h : Ordered es) : (es.map ClassEntry.id).Nodup := by
  induction es with
  | nil => exact List.nodup_nil
  | cons c older ih =>
    obtain ⟨same, -, h⟩ := h
    refine List.nodup_cons.mpr ⟨fun mem => ?_, ih h⟩
    obtain ⟨d, mem, again⟩ := List.mem_map.mp mem
    have lt := h.id_lt mem
    rw [again, same] at lt
    exact Nat.lt_irrefl _ lt

theorem get?_eq_some_iff (h : Ordered t.entries) : t.get? id = some e ↔ e ∈ t.entries ∧ e.id = id :=
  find?_key_iff h.distinct

/-- No number is left out. -/
theorem Ordered.exists_mem (h : Ordered es) (lt : id.toNat < es.length) : ∃ e ∈ es, e.id = id := by
  induction es with
  | nil => cases lt
  | cons c older ih =>
    obtain ⟨same, -, h⟩ := h
    rcases Nat.lt_succ_iff_lt_or_eq.mp lt with lt | last
    · obtain ⟨e, mem, found⟩ := ih h lt
      exact ⟨e, List.mem_cons_of_mem _ mem, found⟩
    · exact ⟨c, List.mem_cons_self, by rw [same, ← last]⟩

theorem superclass?_known (h : Ordered t.entries) (up : t.superclass? c = some above) : (t.get? above).isSome := by
  obtain ⟨e, found, next⟩ := Option.bind_eq_some_iff.mp up
  obtain ⟨mem, rfl⟩ := mem_of_get? found
  obtain ⟨f, there, named⟩ := h.exists_mem (Nat.lt_trans (h.superclass_lt mem next) (h.id_lt mem))
  rw [(get?_eq_some_iff h).mpr ⟨there, named⟩]
  rfl

/-! ### Paths -/

theorem exists_path (h : Ordered t.entries) (known : (t.get? c).isSome) : ∃ path, Path t c path := by
  -- A superclass has a smaller number, so the numbers carry the induction and not the list of classes.
  induction number : c.toNat using Nat.strongRecOn generalizing c with
  | ind n ih =>
    obtain ⟨e, found⟩ := Option.isSome_iff_exists.mp known
    cases next : e.superclass with
    | none => exact ⟨[c], .root found next⟩
    | some above =>
      have up : t.superclass? c = some above := by
        unfold superclass?
        rw [found]
        exact next
      obtain ⟨path, rest⟩ := ih above.toNat (number ▸ superclass?_lt h up) (superclass?_known h up) rfl
      exact ⟨c :: path, .link up rest⟩

/-- Along the links the numbers fall. -/
theorem Path.le (h : Ordered t.entries) (climb : Path t c path) : ∀ d ∈ path, d.toNat ≤ c.toNat := by
  induction climb with
  | root => simp
  | link up rest ih =>
    refine List.forall_mem_cons.mpr ⟨Nat.le_refl _, fun d mem => ?_⟩
    exact Nat.le_trans (ih d mem) (Nat.le_of_lt (superclass?_lt h up))

theorem Path.nodup (h : Ordered t.entries) (climb : Path t c path) : path.Nodup := by
  induction climb with
  | root => exact List.nodup_singleton _
  | link up rest ih =>
    refine List.nodup_cons.mpr ⟨fun mem => ?_, ih⟩
    exact Nat.lt_irrefl _ (Nat.lt_of_le_of_lt (rest.le h _ mem) (superclass?_lt h up))

theorem Path.length_le (h : Ordered t.entries) (climb : Path t c path) : path.length ≤ c.toNat + 1 := by
  induction climb with
  | root => exact Nat.le_add_left 1 _
  | link up rest ih =>
    have lt := superclass?_lt h up
    rw [List.length_cons]
    omega

theorem Path.chain_eq (h : Ordered t.entries) (climb : Path t c path) : (t.chain c).map ClassEntry.id = path := by
  induction climb with
  | root known top =>
    rw [ClassTable.chain_eq h, known]
    dsimp only
    rw [top, List.map_singleton, (mem_of_get? known).2]
  | link up rest ih =>
    obtain ⟨e, known, next⟩ := Option.bind_eq_some_iff.mp up
    rw [ClassTable.chain_eq h, known]
    dsimp only
    rw [next, List.map_cons, ih, (mem_of_get? known).2]

theorem Path.resolve?_eq (h : Ordered t.entries) (climb : Path t c path) :
    t.resolve? c kind s = path.findSome? fun d => t.own? d kind s := by
  induction climb with
  | root known top =>
    rw [ClassTable.resolve?_eq h, superclass?, known, Option.bind_some, top, Option.bind_none, Option.or_none,
      List.findSome?_singleton]
  | link up rest ih =>
    rw [ClassTable.resolve?_eq h, up, Option.bind_some, ih, List.findSome?_cons]
    cases t.own? _ kind s <;> rfl

theorem Path.conforms_iff (h : Ordered t.entries) (climb : Path t c path) :
    t.conforms c p = true ↔ ∃ d ∈ path, p ∈ t.adopted d := by
  unfold conforms
  rw [← climb.chain_eq h]
  simp only [List.any_eq_true, List.contains_iff_mem, List.mem_map, exists_exists_and_eq_and, mem_adopted_iff]
  refine exists_congr fun e => and_congr_right fun mem => ?_
  rw [(ancestor_of_mem_chain h mem).2]
  simp

theorem Path.isSubclass_iff (h : Ordered t.entries) (climb : Path t c path) : t.isSubclass c d = true ↔ d ∈ path := by
  unfold isSubclass
  rw [← climb.chain_eq h]
  simp only [List.any_eq_true, decide_eq_true_eq, List.mem_map]

/-! ### The order -/

theorem isSubclass_iff (h : Ordered t.entries) : t.isSubclass c d = true ↔ t.Ancestor c d ∧ (t.get? d).isSome := by
  unfold isSubclass
  simp only [List.any_eq_true, decide_eq_true_eq]
  rw [exists_mem_chain_iff h fun entry => entry.id = d]
  constructor
  · rintro ⟨a, entry, ancestor, known, rfl⟩
    obtain ⟨-, rfl⟩ := mem_of_get? known
    exact ⟨ancestor, by rw [known]; rfl⟩
  · rintro ⟨ancestor, known⟩
    obtain ⟨entry, known⟩ := Option.isSome_iff_exists.mp known
    exact ⟨d, entry, ancestor, known, (mem_of_get? known).2⟩

theorem Ancestor.le (h : Ordered t.entries) (ancestor : t.Ancestor c d) : d.toNat ≤ c.toNat := by
  induction ancestor with
  | here => exact Nat.le_refl _
  | above up _ ih => exact Nat.le_trans ih (Nat.le_of_lt (superclass?_lt h up))

theorem Ancestor.antisymm (h : Ordered t.entries) (ancestor : t.Ancestor c d) (back : t.Ancestor d c) : c = d := by
  have same := Nat.le_antisymm (back.le h) (ancestor.le h)
  cases c
  cases d
  exact congrArg ClassId.mk same

/-- A class has one superclass at most, so its ancestors are on one line. -/
theorem Ancestor.comparable {c d e : ClassId} (first : t.Ancestor c d) (second : t.Ancestor c e) :
    t.Ancestor d e ∨ t.Ancestor e d := by
  induction first with
  | here => exact Or.inl second
  | @above c a d up rest ih =>
    cases second with
    | here => exact Or.inr (.above up rest)
    | above up' rest' =>
      rw [up] at up'
      cases up'
      exact ih rest'

theorem forest (h : Ordered t.entries) (current : t.Current) : Forest t where
  climbs c known := by
    obtain ⟨path, climb⟩ := exists_path h known
    obtain ⟨e, found⟩ := Option.isSome_iff_exists.mp known
    obtain ⟨mem, rfl⟩ := mem_of_get? found
    exact ⟨path, climb, climb.nodup h, Nat.le_trans (climb.length_le h) (h.id_lt mem), fun d => climb.isSubclass_iff h,
      fun p => climb.conforms_iff h, fun kind s => (lookup_eq current).trans (climb.resolve?_eq h)⟩
  refl c known := (isSubclass_iff h).mpr ⟨.here c, known⟩
  trans c d e first second := by
    obtain ⟨first, -⟩ := (isSubclass_iff h).mp first
    obtain ⟨second, known⟩ := (isSubclass_iff h).mp second
    exact (isSubclass_iff h).mpr ⟨first.trans second, known⟩
  antisymm c d first second := ((isSubclass_iff h).mp first).1.antisymm h ((isSubclass_iff h).mp second).1
  comparable c d e first second := by
    obtain ⟨first, known⟩ := (isSubclass_iff h).mp first
    obtain ⟨second, known'⟩ := (isSubclass_iff h).mp second
    rcases first.comparable second with up | up
    · exact Or.inl ((isSubclass_iff h).mpr ⟨up, known'⟩)
    · exact Or.inr ((isSubclass_iff h).mpr ⟨up, known⟩)

end ClassTable
end Messaging
