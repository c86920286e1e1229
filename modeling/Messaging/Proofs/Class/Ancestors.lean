import Messaging.Proofs.Class.Lookups

/-! Ancestors. The chain of a class lists it with the classes above, so what is asked along a chain is asked of the
    ancestors. Classes are never taken away, nor are methods and adopted protocols: what a class has from its
    ancestors it has from then on. -/

namespace Messaging
namespace ClassTable
variable {t u v : ClassTable} {id above c d e : ClassId} {kind : MethodKind} {s : Selector} {m : Method} {p q : ProtocolId}

/-- The second class is the first or is above it. -/
inductive Ancestor (t : ClassTable) : ClassId → ClassId → Prop
  | here (c : ClassId) : Ancestor t c c
  | above {d e c : ClassId} (up : t.superclass? d = some e) (rest : Ancestor t e c) : Ancestor t d c

/-- The protocols that a class adopted itself, in the order of adoption. -/
def adopted (t : ClassTable) (id : ClassId) : List ProtocolId := ((t.get? id).map ClassEntry.protocols).getD []

/-- The class or an ancestor has an instance method for the selector. -/
def Implements (t : ClassTable) (d : ClassId) (s : Selector) : Prop :=
  ∃ c, t.Ancestor d c ∧ (t.own? c .ofInstances s).isSome

theorem Ancestor.trans (first : t.Ancestor d e) (second : t.Ancestor e c) : t.Ancestor d c := by
  induction first with
  | here => exact second
  | above up _ ih => exact .above up (ih second)

theorem chain_eq (h : Ordered t.entries) (id : ClassId) : t.chain id = match t.get? id with
    | none => []
    | some c => c :: match c.superclass with
      | some above => t.chain above
      | none => [] :=
  chainFrom_eq h id

theorem ancestor_of_mem_chain (h : Ordered t.entries) {entry : ClassEntry} (mem : entry ∈ t.chain d) :
    t.Ancestor d entry.id ∧ t.get? entry.id = some entry := by
  induction number : d.toNat using Nat.strongRecOn generalizing d with
  | ind n ih =>
    rw [chain_eq h] at mem
    cases found : t.get? d with
    | none =>
      rw [found] at mem
      cases mem
    | some first =>
      obtain ⟨-, rfl⟩ := mem_of_get? found
      rw [found] at mem
      rcases List.mem_cons.mp mem with rfl | mem
      · exact ⟨.here _, found⟩
      · cases next : first.superclass with
        | none =>
          rw [next] at mem
          cases mem
        | some above =>
          rw [next] at mem
          have up : t.superclass? first.id = some above := by
            unfold superclass?
            rw [found]
            exact next
          obtain ⟨rest, known⟩ := ih above.toNat (number ▸ superclass?_lt h up) mem rfl
          exact ⟨.above up rest, known⟩

theorem mem_chain_of_ancestor (h : Ordered t.entries) {entry : ClassEntry} (ancestor : t.Ancestor d c)
    (known : t.get? c = some entry) : entry ∈ t.chain d := by
  induction ancestor with
  | here c =>
    rw [chain_eq h, known]
    exact List.mem_cons_self
  | above up _ ih =>
    obtain ⟨first, found, next⟩ := Option.bind_eq_some_iff.mp up
    rw [chain_eq h, found]
    dsimp only
    rw [next]
    exact List.mem_cons_of_mem _ (ih known)

/-- Walking along the chain is asking the ancestors. -/
theorem exists_mem_chain_iff (h : Ordered t.entries) (holds : ClassEntry → Prop) :
    (∃ entry ∈ t.chain d, holds entry) ↔ ∃ c entry, t.Ancestor d c ∧ t.get? c = some entry ∧ holds entry := by
  constructor
  · rintro ⟨entry, mem, here⟩
    obtain ⟨ancestor, known⟩ := ancestor_of_mem_chain h mem
    exact ⟨_, entry, ancestor, known, here⟩
  · rintro ⟨c, entry, ancestor, known, here⟩
    exact ⟨entry, mem_chain_of_ancestor h ancestor known, here⟩

theorem isSome_resolve?_iff (h : Ordered t.entries) : (t.resolve? d .ofInstances s).isSome ↔ t.Implements d s := by
  unfold resolve?
  rw [List.findSome?_isSome_iff, exists_mem_chain_iff h fun entry => ((entry.methods .ofInstances).get? s).isSome]
  unfold Implements own?
  constructor
  · rintro ⟨c, entry, ancestor, known, has⟩
    exact ⟨c, ancestor, by rw [known]; exact has⟩
  · rintro ⟨c, ancestor, has⟩
    cases known : t.get? c with
    | none =>
      rw [known] at has
      cases has
    | some entry =>
      rw [known] at has
      exact ⟨c, entry, ancestor, known, has⟩

theorem mem_adopted_iff : p ∈ t.adopted c ↔ ∃ entry, t.get? c = some entry ∧ p ∈ entry.protocols := by
  unfold adopted
  cases t.get? c <;> simp

theorem conforms_iff (h : Ordered t.entries) : t.conforms d p = true ↔ ∃ c, t.Ancestor d c ∧ p ∈ t.adopted c := by
  unfold conforms
  simp only [List.any_eq_true, List.contains_iff_mem]
  rw [exists_mem_chain_iff h fun entry => p ∈ entry.protocols]
  simp only [mem_adopted_iff]
  constructor
  · rintro ⟨c, entry, ancestor, known, mem⟩
    exact ⟨c, ancestor, entry, known, mem⟩
  · rintro ⟨c, ancestor, entry, known, mem⟩
    exact ⟨c, entry, ancestor, known, mem⟩

/-! ### What later tables have -/

/-- All that classes, methods and adoptions amount to in one table is there in the other. -/
structure Extends (t u : ClassTable) : Prop where
  up : ∀ d e, t.superclass? d = some e → u.superclass? d = some e
  own : ∀ c kind s, (t.own? c kind s).isSome → (u.own? c kind s).isSome
  adopted : ∀ c p, p ∈ t.adopted c → p ∈ u.adopted c

namespace Extends

theorem refl (t : ClassTable) : t.Extends t := ⟨fun _ _ up => up, fun _ _ _ has => has, fun _ _ mem => mem⟩

theorem trans (first : t.Extends u) (second : u.Extends v) : t.Extends v where
  up d e up := second.up d e (first.up d e up)
  own c kind s has := second.own c kind s (first.own c kind s has)
  adopted c p mem := second.adopted c p (first.adopted c p mem)

theorem ancestor (h : t.Extends u) (ancestor : t.Ancestor d c) : u.Ancestor d c := by
  induction ancestor with
  | here c => exact .here c
  | above up _ ih => exact .above (h.up _ _ up) ih

theorem implements (h : t.Extends u) (has : t.Implements d s) : u.Implements d s := by
  obtain ⟨c, ancestor, own⟩ := has
  exact ⟨c, h.ancestor ancestor, h.own c _ s own⟩

end Extends

/-- Classes inherit what their ancestors implement. -/
theorem Implements.inherit (has : t.Implements c s) (ancestor : t.Ancestor d c) : t.Implements d s := by
  obtain ⟨e, above, own⟩ := has
  exact ⟨e, ancestor.trans above, own⟩

theorem adopted_of_bare (same : t.bare = u.bare) : t.adopted c = u.adopted c := by
  have bare (t : ClassTable) : t.adopted c = t.bare.adopted c := by
    unfold adopted
    rw [get?_bare, Option.map_map]
    rfl
  rw [bare t, bare u, same]

theorem superclass?_of_bare (same : t.bare = u.bare) : t.superclass? c = u.superclass? c := by
  have bare (t : ClassTable) : t.superclass? c = t.bare.superclass? c := by
    unfold superclass?
    rw [get?_bare, Option.bind_map]
    rfl
  rw [bare t, bare u, same]

theorem extends_of_bare (same : u.bare = t.bare) : t.Extends u where
  up d e up := (superclass?_of_bare same).trans up
  own c kind s has := by rwa [own?_of_bare same]
  adopted c p mem := by rwa [adopted_of_bare same]

theorem get?_create (name : String) (superclass : Option ClassId) :
    get? { t with entries := .fresh ⟨t.entries.length⟩ name superclass :: t.entries } id =
      if ⟨t.entries.length⟩ = id then some (.fresh ⟨t.entries.length⟩ name superclass) else t.get? id :=
  find?_cons

theorem get?_eq_none_of_le (h : Ordered t.entries) (beyond : t.entries.length ≤ id.toNat) : t.get? id = none := by
  cases found : t.get? id with
  | none => rfl
  | some c =>
    obtain ⟨mem, rfl⟩ := mem_of_get? found
    exact absurd (h.id_lt mem) (Nat.not_lt.mpr beyond)

theorem adopted_create (h : Ordered t.entries) (name : String) (superclass : Option ClassId) :
    adopted { t with entries := .fresh ⟨t.entries.length⟩ name superclass :: t.entries } c = t.adopted c := by
  unfold adopted
  rw [get?_create]
  split
  · next new =>
    subst new
    rw [get?_eq_none_of_le h (Nat.le_refl _)]
    rfl
  · rfl

theorem extends_create (h : Ordered t.entries) (name : String) (superclass : Option ClassId) :
    t.Extends { t with entries := .fresh ⟨t.entries.length⟩ name superclass :: t.entries } where
  up d e up := by
    unfold superclass? at up ⊢
    rw [get?_create, if_neg]
    · exact up
    · rintro rfl
      rw [get?_eq_none_of_le h (Nat.le_refl _)] at up
      cases up
  own c kind s has := by rwa [own?_create h]
  adopted c p mem := by rwa [adopted_create h]

theorem adopted_insert : (t.insert id kind m).2.adopted c = t.adopted c := by
  unfold adopted
  rw [get?_insert, Option.map_map]
  congr 2
  funext c
  simp only [Function.comp_apply]
  split
  · cases kind <;> rfl
  · rfl

theorem extends_insert (known : (t.get? id).isSome) : t.Extends (t.insert id kind m).2 where
  up d e up := superclass?_insert.trans up
  own c k s has := by
    rw [own?_insert known]
    split
    · rfl
    · exact has
  adopted c p mem := by rwa [adopted_insert]

/-! ### Adoption -/

/-- The first selector of a list for which no instance method is found. -/
theorem firstMissing_fst (h : t.Current) (id : ClassId) (required : List Selector) :
    (t.firstMissing id required).1 = required.find? fun s => (t.resolve? id .ofInstances s).isNone := by
  induction required generalizing t with
  | nil => rfl
  | cons s rest ih =>
    have found : (t.lookup id .ofInstances s).1 = t.resolve? id .ofInstances s := lookup_eq h
    have same : (t.lookup id .ofInstances s).2.bare = t.bare := bare_lookup
    have current := h.lookup id .ofInstances s
    unfold firstMissing
    rw [List.find?_cons]
    generalize t.lookup id .ofInstances s = looked at found same current ⊢
    obtain ⟨_ | m, u⟩ := looked
    · rw [← found]
      rfl
    · rw [← found]
      show (u.firstMissing id rest).1 = rest.find? _
      rw [ih current]
      congr 1
      funext s
      rw [resolve?_of_bare same]

/-- The table in which a class adopted one more protocol. -/
def adopting (t : ClassTable) (id : ClassId) (p : ProtocolId) : ClassTable :=
  { t with entries := t.entries.map (noting id p) }

theorem get?_adopting : (t.adopting id p).get? c = (t.get? c).map (noting id p) :=
  @get?_modify t id c (fun c => { c with protocols := c.protocols ++ [p] }) fun _ => rfl

theorem mem_adopted_adopting (known : (t.get? id).isSome) :
    q ∈ (t.adopting id p).adopted c ↔ q ∈ t.adopted c ∨ c = id ∧ q = p := by
  rw [mem_adopted_iff, mem_adopted_iff, get?_adopting]
  cases found : t.get? c with
  | none =>
    have other : c ≠ id := by
      rintro rfl
      rw [found] at known
      cases known
    simp [other]
  | some entry =>
    obtain ⟨-, rfl⟩ := mem_of_get? found
    by_cases here : entry.id = id <;> simp [here, noting]

theorem extends_adopting (known : (t.get? id).isSome) : t.Extends (t.adopting id p) where
  up d e up := by
    unfold superclass? at *
    rw [get?_adopting, Option.bind_map]
    exact (Option.bind_congr fun c _ => (noting_eq id p c).2.1).trans up
  own c kind s has := by
    unfold own? at *
    rw [get?_adopting, Option.bind_map]
    exact (congrArg Option.isSome (Option.bind_congr fun c _ => by rw [Function.comp, (noting_eq id p c).2.2.2])).trans has
  adopted c q mem := (mem_adopted_adopting known).mpr (Or.inl mem)

/-- An adoption is refused since the class has adopted the protocol, or since it misses a requirement, the first in
    their order; otherwise it takes place. Apart from that only caches change. -/
theorem adopt_eq (h : t.Current) (ordered : Ordered t.entries) (id : ClassId) (p : Protocol) :
    (p.id ∈ t.adopted id ∧ t.adopt id p = (.error (.protocolAlreadyAdopted (t.name id) p.name), t)) ∨
    (p.id ∉ t.adopted id ∧ ∃ u, u.bare = t.bare ∧
      ((∃ before s after, p.required = before ++ s :: after ∧ (∀ r ∈ before, t.Implements id r) ∧ ¬t.Implements id s ∧
          t.adopt id p = (.error (.missingProtocolMethod p.name s.name), u)) ∨
        ((∀ s ∈ p.required, t.Implements id s) ∧ t.adopt id p = (.ok (), u.adopting id p.id)))) := by
  have listed : ((t.get? id).any fun c => c.protocols.contains p.id) = true ↔ p.id ∈ t.adopted id := by
    rw [mem_adopted_iff]
    cases t.get? id <;> simp
  have missing (s : Selector) : (t.resolve? id .ofInstances s).isNone = true ↔ ¬t.Implements id s := by
    rw [← isSome_resolve?_iff ordered]
    cases t.resolve? id .ofInstances s <;> simp
  have first := firstMissing_fst h id p.required
  have same : (t.firstMissing id p.required).2.bare = t.bare := bare_firstMissing
  unfold adopt
  by_cases already : p.id ∈ t.adopted id
  · exact Or.inl ⟨already, if_pos (listed.mpr already)⟩
  · rw [if_neg fun h => already (listed.mp h)]
    generalize t.firstMissing id p.required = found at first same ⊢
    obtain ⟨_ | s, u⟩ := found
    · refine Or.inr ⟨already, u, same, Or.inr ⟨fun s mem => ?_, rfl⟩⟩
      have none := List.find?_eq_none.mp first.symm s mem
      exact Classical.not_not.mp fun lacks => none ((missing s).mpr lacks)
    · obtain ⟨lacks, before, after, split, has⟩ := List.find?_eq_some_iff_append.mp first.symm
      refine Or.inr ⟨already, u, same, Or.inl ⟨before, s, after, split, fun r mem => ?_, (missing s).mp lacks, rfl⟩⟩
      have resolved := has r mem
      exact Classical.not_not.mp fun lacks => by
        rw [(missing r).mpr lacks] at resolved
        cases resolved

theorem extends_adopt (h : t.Current) (ordered : Ordered t.entries) (known : (t.get? id).isSome) (p : Protocol) :
    t.Extends (t.adopt id p).2 := by
  rcases adopt_eq h ordered id p with ⟨-, same⟩ | ⟨-, u, bare, ⟨_, _, _, _, _, _, same⟩ | ⟨-, same⟩⟩
  · rw [same]
    exact .refl t
  · rw [same]
    exact extends_of_bare bare
  · rw [same]
    exact (extends_of_bare bare).trans (extends_adopting ((isSome_get?_of_bare bare).trans known))

/-- What a class has adopted after an adoption, which may have been refused. -/
theorem mem_adopted_adopt (h : t.Current) (ordered : Ordered t.entries) (known : (t.get? id).isSome) (p : Protocol) :
    q ∈ (t.adopt id p).2.adopted c ↔ q ∈ t.adopted c ∨ c = id ∧ q = p.id ∧ (t.adopt id p).1 = .ok () := by
  rcases adopt_eq h ordered id p with ⟨-, same⟩ | ⟨-, u, bare, ⟨_, _, _, _, _, _, same⟩ | ⟨-, same⟩⟩ <;> rw [same]
  · simp
  · rw [adopted_of_bare bare]
    simp
  · rw [mem_adopted_adopting ((isSome_get?_of_bare bare).trans known), adopted_of_bare bare]
    simp

end ClassTable
end Messaging
