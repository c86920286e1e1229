import Messaging.Proofs.Class.Forest
import Messaging.Proofs.Class.Resolution

/-! Names of classes. A name is given once, so it stands for one class, and a class keeps its name and its superclass
    while methods and protocols are added to it. -/

namespace Messaging

/-- What does not change of a class. -/
def ClassEntry.fixed (c : ClassEntry) : ClassId × String × Option ClassId := (c.id, c.name, c.superclass)

namespace ClassTable

/-- What does not change of the classes. -/
def fixed (t : ClassTable) : List (ClassId × String × Option ClassId) := t.entries.map ClassEntry.fixed

/-- A table as it comes about: superclasses are older, no name was given twice, and caches tell what a walk finds. -/
structure Sound (t : ClassTable) : Prop where
  ordered : Ordered t.entries
  current : t.Current
  distinct : (t.entries.map ClassEntry.name).Nodup

/-- Each name stands for the one class that has it. -/
structure Named (t : ClassTable) : Prop where
  bound : ∀ name e, t.named? name = some e ↔ t.get? e.id = some e ∧ e.name = name
  once : ∀ c d e f, t.get? c = some e → t.get? d = some f → e.name = f.name → c = d

/-- The classes of the first table are in the second, under their names and with their superclasses. -/
structure Keeps (t u : ClassTable) : Prop where
  named : ∀ name e, t.named? name = some e → ∃ f, u.named? name = some f ∧ f.id = e.id ∧ f.superclass = e.superclass
  known : ∀ c e, t.get? c = some e → ∃ f, u.get? c = some f ∧ f.name = e.name ∧ f.superclass = e.superclass

variable {t u v : ClassTable} {e : ClassEntry} {id c d : ClassId} {name : String} {superclass : Option ClassId}
  {kind : MethodKind} {m : Method} {s : Selector}

/-! ### What does not change -/

theorem fixed_modify {change : ClassEntry → ClassEntry} (same : ∀ c, (change c).fixed = c.fixed) :
    (t.modify id change).fixed = t.fixed := by
  show (t.entries.map _).map ClassEntry.fixed = _
  rw [List.map_map]
  refine List.map_congr_left fun c _ => ?_
  rw [Function.comp_apply]
  split
  · exact same c
  · rfl

theorem fixed_of_bare (same : t.bare = u.bare) : t.fixed = u.fixed := by
  have bare (t : ClassTable) : t.fixed = t.bare.fixed := by
    unfold fixed ClassTable.bare
    rw [List.map_map]
    rfl
  rw [bare t, bare u, same]

theorem fixed_insert : (t.insert id kind m).2.fixed = t.fixed :=
  fixed_modify fun c => by cases kind <;> rfl

theorem fixed_adopt (p : Protocol) : (t.adopt id p).2.fixed = t.fixed := by
  -- Methods are looked up first, which changes caches whether or not the protocol is adopted then.
  have looked : (t.firstMissing id p.required).2.fixed = t.fixed := fixed_of_bare bare_firstMissing
  rcases adopt_cases t id p with same | same | same
  · rw [same]
  · rw [same, looked]
  · rw [same, ← looked]
    exact @fixed_modify _ id (fun c => { c with protocols := c.protocols ++ [p.id] }) fun _ => rfl

theorem distinct_of_fixed (same : u.fixed = t.fixed) (distinct : (t.entries.map ClassEntry.name).Nodup) :
    (u.entries.map ClassEntry.name).Nodup := by
  have names (t : ClassTable) : t.entries.map ClassEntry.name = t.fixed.map fun x => x.2.1 := by
    unfold fixed
    rw [List.map_map]
    rfl
  rw [names] at distinct ⊢
  rwa [same]

/-! ### Sound tables -/

namespace Sound

theorem empty : ClassTable.empty.Sound := ⟨trivial, current_empty, List.nodup_nil⟩

theorem create (h : t.Sound) (free : t.named? name = none)
    (known : ∀ above, superclass = some above → (t.get? above).isSome) :
    Sound { t with entries := .fresh ⟨t.entries.length⟩ name superclass :: t.entries } where
  ordered := ⟨rfl, fun above up => MethodLookup.Ordered.get?_lt h.ordered (known above up), h.ordered⟩
  current := h.current.create h.ordered name superclass
  distinct := by
    refine List.nodup_cons.mpr ⟨fun mem => ?_, h.distinct⟩
    obtain ⟨c, mem, same⟩ := List.mem_map.mp mem
    exact List.find?_eq_none.mp free c mem (beq_iff_eq.mpr same)

theorem insert (h : t.Sound) (id : ClassId) (kind : MethodKind) (m : Method) : (t.insert id kind m).2.Sound :=
  ⟨MethodLookup.ordered_insert h.ordered, h.current.insert id kind m, distinct_of_fixed fixed_insert h.distinct⟩

theorem lookup (h : t.Sound) (id : ClassId) (kind : MethodKind) (s : Selector) : (t.lookup id kind s).2.Sound :=
  ⟨ordered_of_bare bare_lookup h.ordered, h.current.lookup id kind s,
    distinct_of_fixed (fixed_of_bare bare_lookup) h.distinct⟩

theorem adopt (h : t.Sound) (id : ClassId) (p : Protocol) : (t.adopt id p).2.Sound :=
  ⟨ordered_adopt h.ordered, h.current.adopt id p, distinct_of_fixed (fixed_adopt p) h.distinct⟩

theorem named?_eq_some_iff (h : t.Sound) : t.named? name = some e ↔ e ∈ t.entries ∧ e.name = name :=
  find?_key_iff h.distinct

theorem named (h : t.Sound) : t.Named where
  bound name e := by
    rw [h.named?_eq_some_iff, get?_eq_some_iff h.ordered, and_iff_left rfl]
  once c d e f first second same := by
    obtain ⟨mem, rfl⟩ := mem_of_get? first
    obtain ⟨mem', rfl⟩ := mem_of_get? second
    rw [List.inj_on_of_nodup_map h.distinct mem mem' same]

theorem keeps (h : t.Sound) (h' : u.Sound) (grows : t.fixed ⊆ u.fixed) : t.Keeps u := by
  have there {e : ClassEntry} (mem : e ∈ t.entries) :
      ∃ f ∈ u.entries, f.id = e.id ∧ f.name = e.name ∧ f.superclass = e.superclass := by
    obtain ⟨f, mem, same⟩ := List.mem_map.mp (grows (List.mem_map_of_mem (f := ClassEntry.fixed) mem))
    simp only [ClassEntry.fixed, Prod.mk.injEq] at same
    exact ⟨f, mem, same⟩
  constructor
  · intro name e found
    obtain ⟨mem, rfl⟩ := h.named?_eq_some_iff.mp found
    obtain ⟨f, mem, id, name, superclass⟩ := there mem
    exact ⟨f, h'.named?_eq_some_iff.mpr ⟨mem, name⟩, id, superclass⟩
  · intro c e found
    obtain ⟨mem, rfl⟩ := mem_of_get? found
    obtain ⟨f, mem, id, name, superclass⟩ := there mem
    exact ⟨f, (get?_eq_some_iff h'.ordered).mpr ⟨mem, id⟩, name, superclass⟩

end Sound
end ClassTable
end Messaging
