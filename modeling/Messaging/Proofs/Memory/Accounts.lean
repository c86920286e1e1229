import Messaging.Object.Memory

/-! The references to objects. What an operation does to the memory is said here once, by the object at each
    address; then `Accounts` ties the counts to a ledger of who owns how many references, and each operation
    moves one entry of the ledger. An object lives as long as the ledger has a reference to it. -/

namespace Messaging

/-- A list of references is one reference that is in it and the others. -/
theorem count_of_mem {l : List Address} {a : Address} (mem : a ∈ l) (b : Address) :
    l.count b = (l.erase a).count b + [a].count b := by
  rw [(List.perm_cons_erase mem).count_eq b, List.count_cons, List.count_singleton]

namespace Memory
variable {m n : Memory} {a b : Address}

/-! ### What the operations do -/

/-- Sets the object at an address. -/
def put (m : Memory) (a : Address) (o : Object) : Memory :=
  { m with heap := { m.heap with objects := m.heap.objects.insert a o } }

theorem get?_put (o : Object) : (m.put a o).get? b = if a = b then some o else m.get? b :=
  FiniteMap.get?_insert _ _ _ _

theorem get?_place (cls : ClassId) : (m.place a cls).get? b = if a = b then some ⟨cls, 1, none, false⟩ else m.get? b :=
  Heap.get?_place _ _ _ _

theorem get?_free (o : Object) : (m.free a o).get? b = if a = b then none else m.get? b :=
  Heap.get?_remove _ _ _

theorem modify?_eq_some {change : Object → Object} :
    m.modify? a change = some n ↔ ∃ o, m.get? a = some o ∧ n = m.put a (change o) := by
  unfold modify? Heap.modify? get? put
  constructor
  · intro h
    obtain ⟨heap, found, rfl⟩ := Option.map_eq_some_iff.mp h
    obtain ⟨o, live, rfl⟩ := Option.map_eq_some_iff.mp found
    exact ⟨o, live, rfl⟩
  · rintro ⟨o, live, rfl⟩
    simp only [live, Option.map_some]

theorem retain_eq_some :
    m.retain a = some n ↔ ∃ o, m.get? a = some o ∧ n = m.put a { o with count := o.count + 1 } :=
  modify?_eq_some

/-- A release either frees the object or takes one reference off its count. -/
theorem release_eq_some : m.release a = some n ↔ ∃ o, m.get? a = some o ∧
    ((o.count = 1 ∧ n = m.free a o) ∨ (o.count ≠ 1 ∧ n = m.put a { o with count := o.count - 1 })) := by
  unfold release
  cases live : m.get? a with
  | none => simp
  | some o =>
    by_cases last : o.count = 1
    · simp [last, eq_comm]
    · simp [last, modify?_eq_some, live]

/-- Releases objects one after the other. -/
def releaseAll (m : Memory) : List Address → Option Memory
  | [] => some m
  | a :: rest => (m.release a).bind fun m => m.releaseAll rest

theorem releaseAll_cons_eq_some {rest : List Address} :
    m.releaseAll (a :: rest) = some n ↔ ∃ k, m.release a = some k ∧ k.releaseAll rest = some n := by
  simp only [releaseAll, Option.bind_eq_some_iff]

theorem pools_retain (h : m.retain a = some n) : n.pools = m.pools := by
  obtain ⟨o, -, rfl⟩ := retain_eq_some.mp h
  rfl

theorem pools_release (h : m.release a = some n) : n.pools = m.pools := by
  obtain ⟨o, -, ⟨-, rfl⟩ | ⟨-, rfl⟩⟩ := release_eq_some.mp h <;> rfl

theorem pools_releaseAll {l : List Address} (h : m.releaseAll l = some n) : n.pools = m.pools := by
  induction l generalizing m with
  | nil =>
    cases h
    rfl
  | cons a rest ih =>
    obtain ⟨k, hk, h⟩ := releaseAll_cons_eq_some.mp h
    rw [ih h, pools_release hk]

/-! ### The ledger -/

/-- Every object has as many references as the ledger says. What lives has one at least, and the ledger has
    none to what does not live. -/
structure Accounts (m : Memory) (ledger : Address → Nat) : Prop where
  count : ∀ a, m.count a = ledger a
  positive : ∀ a o, m.get? a = some o → 0 < o.count

theorem count_of_get? {o : Object} (live : m.get? a = some o) : m.count a = o.count := by simp [Memory.count, live]

theorem count_of_none (free : m.get? a = none) : m.count a = 0 := by simp [Memory.count, free]

theorem count_put (o : Object) : (m.put a o).count b = if a = b then o.count else m.count b := by
  rw [Memory.count, get?_put]
  split <;> rfl

theorem count_place (cls : ClassId) : (m.place a cls).count b = if a = b then 1 else m.count b := by
  rw [Memory.count, get?_place]
  split <;> rfl

theorem count_free (o : Object) : (m.free a o).count b = if a = b then 0 else m.count b := by
  rw [Memory.count, get?_free]
  split <;> rfl

namespace Accounts
variable {f g : Address → Nat}

theorem isSome_iff (h : m.Accounts f) (a : Address) : (m.get? a).isSome ↔ 0 < f a := by
  rw [← h.count a]
  cases live : m.get? a with
  | none => simp [count_of_none live]
  | some o => simpa [count_of_get? live] using h.positive a o live

theorem live (h : m.Accounts f) (pos : 0 < f a) : ∃ o, m.get? a = some o :=
  Option.isSome_iff_exists.mp ((h.isSome_iff a).mpr pos)

theorem congr (h : m.Accounts f) (same : ∀ a, f a = g a) : m.Accounts g :=
  ⟨fun a => (h.count a).trans (same a), h.positive⟩

/-- The ledger is about the objects only. -/
theorem of_heap (h : m.Accounts f) (same : n.heap = m.heap) : n.Accounts f where
  count a := by rw [← h.count a, Memory.count, Memory.count, Memory.get?, Memory.get?, same]
  positive a o live := h.positive a o (by rwa [Memory.get?, same] at live)

theorem setPools (h : m.Accounts f) (pools : PoolStack) : Accounts { m with pools } f := h.of_heap rfl

theorem put (h : m.Accounts f) {o : Object} (pos : 0 < o.count) (at_ : g a = o.count)
    (other : ∀ b, a ≠ b → g b = f b) : (m.put a o).Accounts g where
  count b := by
    rw [count_put]
    split
    · next same => rw [← same, at_]
    · next same => rw [h.count, other b same]
  positive b x live := by
    rw [get?_put] at live
    split at live
    · cases live
      exact pos
    · exact h.positive b x live

/-- A new object has one reference. -/
theorem place (h : m.Accounts f) (free : m.get? a = none) (cls : ClassId) :
    (m.place a cls).Accounts fun b => f b + [a].count b where
  count b := by
    rw [count_place]
    split
    · next same =>
      subst same
      rw [← h.count, count_of_none free, List.count_singleton_self]
    · next same =>
      rw [h.count, List.count_singleton, beq_false_of_ne same]
      rfl
  positive b o live := by
    rw [get?_place] at live
    split at live
    · cases live
      exact Nat.one_pos
    · exact h.positive b o live

/-- A retain adds one reference to an object that lives. -/
theorem retain (h : m.Accounts f) (pos : 0 < f a) :
    ∃ n, m.retain a = some n ∧ n.Accounts fun b => f b + [a].count b := by
  obtain ⟨o, live⟩ := h.live pos
  have owned := h.count a
  rw [count_of_get? live] at owned
  refine ⟨_, retain_eq_some.mpr ⟨o, live, rfl⟩, h.put (Nat.succ_pos _) ?_ fun b same => ?_⟩
  · simp [owned]
  · simp [same]

/-- A release gives up one of the references in the ledger, and frees the object with the last. -/
theorem release (h : m.Accounts fun b => f b + [a].count b) : ∃ n, m.release a = some n ∧ n.Accounts f := by
  obtain ⟨o, live⟩ := h.live (a := a) (by simp)
  have owned := h.count a
  rw [count_of_get? live, List.count_singleton_self] at owned
  by_cases last : o.count = 1
  · refine ⟨_, release_eq_some.mpr ⟨o, live, Or.inl ⟨last, rfl⟩⟩, fun b => ?_, fun b x liveB => ?_⟩
    · rw [count_free]
      split
      · next same =>
        subst same
        omega
      · next same => simp [h.count b, same]
    · rw [get?_free] at liveB
      split at liveB
      · cases liveB
      · exact h.positive b x liveB
  · refine ⟨_, release_eq_some.mpr ⟨o, live, Or.inr ⟨last, rfl⟩⟩, h.put ?_ ?_ fun b same => ?_⟩
    · show 0 < o.count - 1
      have := h.positive a o live
      omega
    · show f a = o.count - 1
      omega
    · simp [same]

/-- Releasing a list gives up as many references to each object as the list names it. -/
theorem releaseAll {l : List Address} (h : m.Accounts fun b => f b + l.count b) :
    ∃ n, m.releaseAll l = some n ∧ n.Accounts f := by
  induction l generalizing m with
  | nil => exact ⟨m, rfl, h.congr fun b => by simp⟩
  | cons a rest ih =>
    have h' : m.Accounts fun b => (f b + rest.count b) + [a].count b := h.congr fun b => by
      rw [List.count_cons, List.count_singleton, Nat.add_assoc]
    obtain ⟨k, hk, accounts⟩ := h'.release
    obtain ⟨n, hn, accounts⟩ := ih accounts
    exact ⟨n, releaseAll_cons_eq_some.mpr ⟨k, hk, hn⟩, accounts⟩

end Accounts
end Memory
end Messaging
