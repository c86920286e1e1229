import Messaging.Proofs.Memory.Accounts

/-! Slots and the table of weak references say the same thing twice: a slot names an object, and the table
    lists the slot under the object's address. `Inverse` ties the two together, `Mutual` ties the table to
    the objects, and every operation on weak references and objects keeps both. -/

namespace Messaging
namespace WeakTable
variable {t : WeakTable} {slot other : SlotId} {a b : Address}

/-- Slots and lists are inverse to each other. A slot is listed where it points, once, and no list is empty. -/
structure Inverse (t : WeakTable) : Prop where
  listed : ∀ slot a, t.target? slot = some a ↔ slot ∈ t.namersOf a
  once : ∀ a, (t.namersOf a).Nodup
  nonempty : ∀ a slots, t.namers.get? a = some slots → slots ≠ []

theorem namersOf_of_get? {slots : List SlotId} (h : t.namers.get? a = some slots) : t.namersOf a = slots := by
  simp only [namersOf, h, Option.getD_some]

/-! ### What the operations do -/

theorem get?_foldl_erase {m : FiniteMap SlotId Address} {slots : List SlotId} :
    (slots.foldl FiniteMap.erase m).get? slot = if slot ∈ slots then none else m.get? slot := by
  induction slots generalizing m with
  | nil => simp
  | cons s rest ih =>
    rw [List.foldl_cons, ih, FiniteMap.get?_erase]
    by_cases here : s = slot
    · simp [here]
    · simp [here, Ne.symm here]

theorem targets_unlist : (t.unlist slot).targets = t.targets := by
  unfold unlist
  cases t.target? slot with
  | none => rfl
  | some a =>
    dsimp only
    cases t.namers.get? a <;> rfl

/-- A slot that is taken off the list it is on is on none. The lists are only as they were when the slot was
    on no other, which is why this needs the two to be inverse. -/
theorem namersOf_unlist (h : t.Inverse) :
    (t.unlist slot).namersOf b = (t.namersOf b).filter fun s => decide (s ≠ slot) := by
  have elsewhere (away : t.target? slot ≠ some b) :
      ((t.namersOf b).filter fun s => decide (s ≠ slot)) = t.namersOf b := by
    refine List.filter_eq_self.mpr fun s hs => decide_eq_true fun same => away ?_
    rw [← same]
    exact (h.listed s b).mpr hs
  unfold unlist
  cases names : t.target? slot with
  | none =>
    exact (elsewhere (by simp [names])).symm
  | some a =>
    dsimp only
    cases list : t.namers.get? a with
    | none =>
      have listed := (h.listed slot a).mp names
      simp only [namersOf, list, Option.getD_none, List.not_mem_nil] at listed
    | some slots =>
      dsimp only
      by_cases here : a = b
      · subst here
        rw [namersOf_of_get? list]
        unfold namersOf
        dsimp only
        split
        · next gone => rw [FiniteMap.get?_erase, if_pos rfl, List.isEmpty_iff.mp gone]; rfl
        · rw [FiniteMap.get?_insert_self]; rfl
      · rw [elsewhere (by rw [names]; simpa using here)]
        unfold namersOf
        dsimp only
        split
        · rw [FiniteMap.get?_erase, if_neg here]
        · rw [FiniteMap.get?_insert, if_neg here]

theorem nonempty_unlist (h : t.Inverse) {slots : List SlotId} (found : (t.unlist slot).namers.get? a = some slots) :
    slots ≠ [] := by
  revert found
  unfold unlist
  cases t.target? slot with
  | none => exact h.nonempty a slots
  | some b =>
    dsimp only
    cases t.namers.get? b with
    | none => exact h.nonempty a slots
    | some listed =>
      dsimp only
      intro found
      split at found
      · rw [FiniteMap.get?_erase] at found
        split at found
        · cases found
        · exact h.nonempty a slots found
      · next kept =>
        rw [FiniteMap.get?_insert] at found
        split at found
        · cases found
          exact fun empty => kept (List.isEmpty_iff.mpr empty)
        · exact h.nonempty a slots found

theorem made_store (target : Option Address) : (t.store slot target).made = t.made := by
  have unlisted : (t.unlist slot).made = t.made := by
    unfold unlist
    cases t.target? slot with
    | none => rfl
    | some b =>
      dsimp only
      cases t.namers.get? b <;> rfl
  cases target <;> exact unlisted

theorem target?_store (target : Option Address) :
    (t.store slot target).target? other = if slot = other then target else t.target? other := by
  unfold store target?
  cases target with
  | none => simp only [FiniteMap.get?_erase, targets_unlist]
  | some a => simp only [FiniteMap.get?_insert, targets_unlist]

theorem namersOf_store (h : t.Inverse) (target : Option Address) :
    (t.store slot target).namersOf b =
      ((t.namersOf b).filter fun s => decide (s ≠ slot)) ++ if target = some b then [slot] else [] := by
  cases target with
  | none => simp only [reduceCtorEq, if_false, List.append_nil]; exact namersOf_unlist h
  | some a =>
    unfold store
    rw [← namersOf_unlist h]
    by_cases here : a = b
    · subst here
      simp only [namersOf, FiniteMap.get?_insert_self, Option.getD_some, if_true]
    · simp only [Option.some.injEq, here, if_false, List.append_nil]
      simp only [namersOf, FiniteMap.get?_insert, here, if_false]

theorem target?_clear (h : t.Inverse) :
    (t.clear a).target? slot = if t.target? slot = some a then none else t.target? slot := by
  unfold clear
  rw [target?, get?_foldl_erase]
  simp only [← h.listed]
  rfl

theorem namersOf_clear : (t.clear a).namersOf b = if a = b then [] else t.namersOf b := by
  unfold clear namersOf
  rw [FiniteMap.get?_erase]
  split <;> rfl

/-! ### What they keep -/

theorem inverse_empty : empty.Inverse where
  listed slot a := by simp [empty, target?, namersOf]
  once a := by simp [empty, namersOf]
  nonempty a slots found := by simp [empty] at found

namespace Inverse

theorem fresh (h : t.Inverse) : t.fresh.2.Inverse := ⟨h.listed, h.once, h.nonempty⟩

theorem store (h : t.Inverse) (slot : SlotId) (target : Option Address) : (t.store slot target).Inverse where
  listed s b := by
    rw [target?_store, namersOf_store h, List.mem_append, List.mem_filter, ← h.listed]
    by_cases same : slot = s
    · subst same
      by_cases there : target = some b <;> simp [there]
    · by_cases there : target = some b <;> simp [there, same, Ne.symm same]
  once b := by
    rw [namersOf_store h]
    refine List.nodup_append.mpr ⟨(h.once b).filter _, ?_, fun s kept s' added => ?_⟩
    · split <;> simp
    · have ne := of_decide_eq_true (List.mem_filter.mp kept).2
      split at added
      · rwa [List.mem_singleton.mp added]
      · cases added
  nonempty b slots found := by
    cases target with
    | none => exact nonempty_unlist h found
    | some a =>
      simp only [WeakTable.store, FiniteMap.get?_insert] at found
      split at found
      · cases found
        exact List.append_ne_nil_of_right_ne_nil _ (List.cons_ne_nil _ _)
      · exact nonempty_unlist h found

theorem clear (h : t.Inverse) (a : Address) : (t.clear a).Inverse where
  listed s b := by
    rw [target?_clear h, namersOf_clear]
    by_cases here : a = b
    · subst here
      by_cases names : t.target? s = some a <;> simp [names]
    · rw [if_neg here, ← h.listed]
      by_cases names : t.target? s = some a
      · simp [names, here]
      · simp [names]
  once b := by
    rw [namersOf_clear]
    split
    · exact List.nodup_nil
    · exact h.once b
  nonempty b slots found := by
    simp only [WeakTable.clear, FiniteMap.get?_erase] at found
    split at found
    · cases found
    · exact h.nonempty b slots found

/-- An address with a list is what some slot points to. -/
theorem named (h : t.Inverse) {slots : List SlotId} (list : t.namers.get? a = some slots) :
    ∃ slot, t.target? slot = some a := by
  obtain ⟨slot, mem⟩ := List.exists_mem_of_ne_nil _ (h.nonempty a slots list)
  exact ⟨slot, (h.listed slot a).mpr (by rwa [namersOf_of_get? list])⟩

end Inverse
end WeakTable

namespace Memory
variable {m n : Memory} {slot : SlotId} {a b : Address}

/-- The table is about objects that live and know that they are named. -/
structure Mutual (m : Memory) : Prop where
  inverse : m.weak.Inverse
  marked : ∀ slot a, m.weak.target? slot = some a → ∃ o, m.get? a = some o ∧ o.weaklyNamed = true

theorem mutual_empty (start : Nat) : (Memory.empty start).Mutual where
  inverse := WeakTable.inverse_empty
  marked slot a names := by simp [Memory.empty, WeakTable.empty, WeakTable.target?] at names

namespace Mutual

/-- Nothing names an address where no object lives. -/
theorem unnamed (h : m.Mutual) (free : m.get? a = none) (slot : SlotId) : m.weak.target? slot ≠ some a := by
  intro names
  obtain ⟨o, live, -⟩ := h.marked slot a names
  rw [free] at live
  cases live

theorem setPools (h : m.Mutual) (pools : PoolStack) : Mutual { m with pools } := ⟨h.inverse, h.marked⟩

theorem put (h : m.Mutual) {old o : Object} (live : m.get? a = some old)
    (keeps : old.weaklyNamed = true → o.weaklyNamed = true) : (m.put a o).Mutual where
  inverse := h.inverse
  marked slot b names := by
    obtain ⟨x, liveB, marked⟩ := h.marked slot b names
    rw [get?_put]
    split
    · next same =>
      subst same
      rw [live] at liveB
      cases liveB
      exact ⟨o, rfl, keeps marked⟩
    · exact ⟨x, liveB, marked⟩

theorem place (h : m.Mutual) (free : m.get? a = none) (cls : ClassId) : (m.place a cls).Mutual where
  inverse := h.inverse
  marked slot b names := by
    have other : a ≠ b := by
      rintro rfl
      exact h.unnamed free slot names
    rw [get?_place, if_neg other]
    exact h.marked slot b names

theorem retain (h : m.Mutual) (done : m.retain a = some n) : n.Mutual := by
  obtain ⟨o, live, rfl⟩ := retain_eq_some.mp done
  exact h.put live id

theorem drop (h : m.Mutual) (slot : SlotId) : Mutual { m with weak := m.weak.drop slot } where
  inverse := h.inverse.store slot none
  marked s b names := by
    rw [WeakTable.drop, WeakTable.target?_store] at names
    split at names
    · cases names
    · exact h.marked s b names

theorem dropPayload (h : m.Mutual) (payload : Option Payload) :
    Mutual { m with weak := Memory.dropPayload m.weak payload } := by
  unfold Memory.dropPayload
  split
  · exact h.drop _
  · exact h

/-- The slots of an object that goes are cleared before it goes. One that was never named has none. -/
theorem target?_freeing (h : m.Mutual) {o : Object} (live : m.get? a = some o) :
    (if o.weaklyNamed then m.weak.clear a else m.weak).target? slot =
      if m.weak.target? slot = some a then none else m.weak.target? slot := by
  split
  · exact WeakTable.target?_clear h.inverse
  · next unmarked =>
    rw [if_neg]
    intro names
    obtain ⟨x, liveA, marked⟩ := h.marked slot a names
    rw [live] at liveA
    cases liveA
    exact unmarked marked

theorem free (h : m.Mutual) {o : Object} (live : m.get? a = some o) : (m.free a o).Mutual := by
  refine dropPayload (m := { m with heap := m.heap.remove a, weak := if o.weaklyNamed then m.weak.clear a else m.weak })
    ⟨?_, fun s b names => ?_⟩ o.payload
  · dsimp only
    split
    · exact h.inverse.clear a
    · exact h.inverse
  · dsimp only at names
    rw [h.target?_freeing live] at names
    split at names
    · cases names
    · next other =>
      obtain ⟨x, liveB, marked⟩ := h.marked s b names
      refine ⟨x, ?_, marked⟩
      show (m.heap.remove a).get? b = some x
      rw [Heap.get?_remove, if_neg]
      · exact liveB
      · rintro rfl
        exact other names

theorem release (h : m.Mutual) (done : m.release a = some n) : n.Mutual := by
  obtain ⟨o, live, ⟨-, rfl⟩ | ⟨-, rfl⟩⟩ := release_eq_some.mp done
  · exact h.free live
  · exact h.put live id

theorem newSlot (h : m.Mutual) : m.newSlot.2.Mutual := ⟨h.inverse.fresh, h.marked⟩

end Mutual

theorem storeWeak_some_eq_some : m.storeWeak slot (some a) = some n ↔ ∃ o, m.get? a = some o ∧
    n = { m.put a { o with weaklyNamed := true } with weak := m.weak.store slot (some a) } := by
  simp only [storeWeak, Option.map_eq_some_iff, modify?_eq_some]
  constructor
  · rintro ⟨k, ⟨o, live, rfl⟩, rfl⟩
    exact ⟨o, live, rfl⟩
  · rintro ⟨o, live, rfl⟩
    exact ⟨_, ⟨o, live, rfl⟩, rfl⟩

theorem weak_storeWeak {target : Option Address} (done : m.storeWeak slot target = some n) :
    n.weak = m.weak.store slot target := by
  cases target with
  | none =>
    cases done
    rfl
  | some a =>
    obtain ⟨o, -, rfl⟩ := storeWeak_some_eq_some.mp done
    rfl

theorem pools_storeWeak {target : Option Address} (done : m.storeWeak slot target = some n) : n.pools = m.pools := by
  cases target with
  | none =>
    cases done
    rfl
  | some a =>
    obtain ⟨o, -, rfl⟩ := storeWeak_some_eq_some.mp done
    rfl

theorem loadWeak_of_none (names : m.weak.target? slot = none) : m.loadWeak slot = some (none, m) := by
  rw [loadWeak, names]

theorem loadWeak_of_some (names : m.weak.target? slot = some a) (done : m.retain a = some n) :
    m.loadWeak slot = some (some a, n) := by
  rw [loadWeak, names]
  dsimp only
  rw [done]
  rfl

theorem loadWeak_eq_some {r : Option Address} (done : m.loadWeak slot = some (r, n)) :
    n = m ∨ ∃ a, m.retain a = some n := by
  unfold loadWeak at done
  split at done
  · cases done
    exact Or.inl rfl
  · next a _ =>
    obtain ⟨k, retained, same⟩ := Option.map_eq_some_iff.mp done
    cases same
    exact Or.inr ⟨a, retained⟩

theorem loadWeak_some_eq_some :
    m.loadWeak slot = some (some a, n) ↔ m.weak.target? slot = some a ∧ m.retain a = some n := by
  unfold loadWeak
  cases m.weak.target? slot with
  | none => simp
  | some b =>
    simp only [Option.map_eq_some_iff, Prod.mk.injEq, Option.some.injEq]
    constructor
    · rintro ⟨k, retained, rfl, rfl⟩
      exact ⟨rfl, retained⟩
    · rintro ⟨rfl, retained⟩
      exact ⟨n, retained, rfl, rfl⟩

theorem weak_retain (done : m.retain a = some n) : n.weak = m.weak := by
  obtain ⟨o, -, rfl⟩ := retain_eq_some.mp done
  rfl

theorem weak_loadWeak {r : Option Address} (done : m.loadWeak slot = some (r, n)) : n.weak = m.weak := by
  rcases loadWeak_eq_some done with rfl | ⟨a, retained⟩
  · rfl
  · exact weak_retain retained

theorem pools_loadWeak {r : Option Address} (done : m.loadWeak slot = some (r, n)) : n.pools = m.pools := by
  rcases loadWeak_eq_some done with rfl | ⟨a, retained⟩
  · rfl
  · exact pools_retain retained

namespace Mutual

theorem storeWeak (h : m.Mutual) {target : Option Address} (done : m.storeWeak slot target = some n) : n.Mutual := by
  cases target with
  | none =>
    cases done
    exact h.drop slot
  | some a =>
    obtain ⟨o, live, rfl⟩ := storeWeak_some_eq_some.mp done
    have marked := h.put (o := { o with weaklyNamed := true }) live fun _ => rfl
    refine ⟨h.inverse.store slot (some a), fun s b names => ?_⟩
    dsimp only at names
    rw [WeakTable.target?_store] at names
    split at names
    · cases names
      exact ⟨{ o with weaklyNamed := true }, (get?_put _).trans (if_pos rfl), rfl⟩
    · exact marked.marked s b names

/-- A slot that names nothing gives nothing; one that names an object gives a new reference to it. -/
theorem loadWeak (h : m.Mutual) (slot : SlotId) : ∃ n, m.loadWeak slot = some (m.weak.target? slot, n) ∧ n.Mutual ∧
    ∀ a, n.count a = m.count a + (m.weak.target? slot).toList.count a := by
  cases names : m.weak.target? slot with
  | none => exact ⟨m, loadWeak_of_none names, h, fun a => by simp⟩
  | some b =>
    obtain ⟨o, live, -⟩ := h.marked slot b names
    have retained := retain_eq_some.mpr ⟨o, live, rfl⟩
    refine ⟨_, loadWeak_of_some names retained, h.retain retained, fun a => ?_⟩
    rw [count_put]
    split
    · next same =>
      subst same
      simp [count_of_get? live]
    · next other => simp [other]

end Mutual
end Memory
end Messaging
